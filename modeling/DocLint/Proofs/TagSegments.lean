import DocLint.Proofs.References
import Mathlib.Data.Int.Range

/-!
# How tags share out the texts of a comment

A tag owns the texts up to the next tag. The ends of the tags come from the list of their
positions, and each tag then walks over its own stretch of the source. Seen from outside there are
no stretches: there are the texts between two positions of the source. This module states what the
tags own in these words.

If the positions go up and stay inside the comment, the stretches lie side by side. So the texts of
the tags, one tag after the other, are the texts from the first tag to the end of the comment, with
nothing lost and nothing taken twice. A text at which a tag is said to stand belongs to no tag.
-/

namespace DocLint

/-! ## Texts between two positions -/

/-- Counting up from a number, it comes first. -/
private theorem map_range_succ (low : Int) (count : Nat) :
    (List.range (count + 1)).map (fun place : Nat => low + (place : Int)) =
      low :: (List.range count).map fun place : Nat => low + 1 + (place : Int) := by
  rw [List.range_succ_eq_map, List.map_cons, List.map_map]
  congr 1
  · omega
  · apply List.map_congr_left
    intro place _
    show low + ((place + 1 : Nat) : Int) = low + 1 + place
    omega

/-- A range that is not empty begins with its lower end. -/
private theorem range_eq_cons {low high : Int} (hbounds : low < high) :
    Int.range low high = low :: Int.range (low + 1) high := by
  have hcount : (high - low).toNat = (high - (low + 1)).toNat + 1 := by omega
  rw [Int.range, hcount, map_range_succ, Int.range]

/-- A range is cut in two at any place inside. -/
private theorem range_eq_append {low middle high : Int} (hlow : low ≤ middle)
    (hhigh : middle ≤ high) :
    Int.range low high = Int.range low middle ++ Int.range middle high := by
  have hcount : (high - low).toNat = (middle - low).toNat + (high - middle).toNat := by omega
  rw [Int.range, hcount, List.range_add, List.map_append, List.map_map, Int.range, Int.range]
  congr 1
  apply List.map_congr_left
  intro place _
  show low + (((middle - low).toNat + place : Nat) : Int) = middle + place
  omega

namespace Source

variable {source : Source} {low middle high : Int}

/-- The token at a position, with the position. -/
def slotAt? (source : Source) (position : Int) : Option Slot :=
  (source.token? position).map fun token => ⟨position, token⟩

/-- The text tokens strictly between two positions, in order. -/
def textsBetween (source : Source) (low high : Int) : List Slot :=
  ((Int.range (low + 1) high).filterMap source.slotAt?).filter fun slot => slot.kind == .docString

theorem slotAt?_eq_some_iff {position : Int} {slot : Slot} :
    source.slotAt? position = some slot ↔
      slot.position = position ∧ source.token? position = some slot.token := by
  rcases slot with ⟨place, token⟩
  rw [slotAt?, Option.map_eq_some_iff]
  constructor
  · rintro ⟨found, hfound, hslot⟩
    obtain ⟨rfl, rfl⟩ := Slot.mk.inj hslot
    exact ⟨rfl, hfound⟩
  · rintro ⟨rfl, hat⟩
    exact ⟨token, hat, rfl⟩

theorem mem_textsBetween_iff {slot : Slot} :
    slot ∈ source.textsBetween low high ↔
      low < slot.position ∧ slot.position < high ∧ slot.kind = .docString ∧
        source.token? slot.position = some slot.token := by
  rw [textsBetween, List.mem_filter, List.mem_filterMap, beq_iff_eq]
  constructor
  · rintro ⟨⟨position, hposition, hat⟩, hkind⟩
    obtain ⟨rfl, htoken⟩ := slotAt?_eq_some_iff.mp hat
    obtain ⟨hlow, hhigh⟩ := Int.mem_range_iff.mp hposition
    exact ⟨by omega, hhigh, hkind, htoken⟩
  · rintro ⟨hlow, hhigh, hkind, htoken⟩
    refine ⟨⟨slot.position, Int.mem_range_iff.mpr ⟨by omega, hhigh⟩, ?_⟩, hkind⟩
    exact slotAt?_eq_some_iff.mpr ⟨rfl, htoken⟩

/-- The texts between two positions are those before a position inside, the token there if it is a
text, and those after it. -/
theorem textsBetween_eq_append (hlow : low < middle) (hhigh : middle < high) :
    source.textsBetween low high =
      source.textsBetween low middle ++
        ((source.slotAt? middle).toList.filter (fun slot => slot.kind == .docString) ++
          source.textsBetween middle high) := by
  rw [textsBetween, range_eq_append (by omega : low + 1 ≤ middle) hhigh.le, range_eq_cons hhigh,
    List.filterMap_append, List.filter_append, textsBetween, textsBetween,
    List.append_cancel_left_eq, ← List.filter_append, List.filterMap_cons]
  cases source.slotAt? middle <;> rfl

/-- A stretch that misses nothing has the tokens at its positions. -/
theorem slots_stretchFrom {count : Nat} {position : Int}
    (hmissing : (source.stretchFrom count position).missing? = none) :
    (source.stretchFrom count position).slots =
      ((List.range count).map fun place : Nat => position + place).filterMap source.slotAt? := by
  induction count generalizing position with
  | zero => rfl
  | succ count ih =>
    rw [map_range_succ, List.filterMap_cons, slotAt?]
    rw [stretchFrom] at hmissing ⊢
    cases hat : source.token? position with
    | none =>
      rw [hat] at hmissing
      cases hmissing
    | some token =>
      rw [hat] at hmissing
      show _ :: _ = _ :: _
      rw [ih hmissing]

/-- **Tags at ascending positions share out the texts.** Cut at these positions, and without the
tokens there, the texts from the first position to the end are the texts of the pieces. -/
theorem flatMap_textsBetween {first closer : Int} {rest : List Int}
    (hascending : (first :: rest).Pairwise (· < ·))
    (hbefore : ∀ position ∈ first :: rest, position < closer) :
    ((first :: rest).zip (rest ++ [closer])).flatMap
        (fun bounds => source.textsBetween bounds.1 bounds.2) =
      (source.textsBetween first closer).filter fun slot => slot.position ∉ first :: rest := by
  induction rest generalizing first with
  | nil =>
    have hall : (source.textsBetween first closer).filter (fun slot => slot.position ∉ [first]) =
        source.textsBetween first closer := by
      apply List.filter_eq_self.mpr
      intro slot hslot
      have hafter := (mem_textsBetween_iff.mp hslot).1
      rw [decide_eq_true_iff, List.mem_singleton]
      omega
    rw [hall]
    exact List.append_nil _
  | cons second others ih =>
    obtain ⟨hfirst, hrest⟩ := List.pairwise_cons.mp hascending
    obtain ⟨hsecond, -⟩ := List.pairwise_cons.mp hrest
    have hnext : first < second := hfirst second List.mem_cons_self
    have hend : second < closer := hbefore second (List.mem_cons_of_mem _ List.mem_cons_self)
    -- Before the second tag no text is at a position of a tag.
    have hown : (source.textsBetween first second).filter
        (fun slot => slot.position ∉ first :: second :: others) =
          source.textsBetween first second := by
      apply List.filter_eq_self.mpr
      intro slot hslot
      obtain ⟨hlow, hhigh, -⟩ := mem_textsBetween_iff.mp hslot
      rw [decide_eq_true_iff]
      intro hmem
      rcases List.mem_cons.mp hmem with hsame | hmem
      · omega
      · rcases List.mem_cons.mp hmem with hsame | hmem
        · omega
        · have hlater := hsecond _ hmem
          omega
    have htag : ((source.slotAt? second).toList.filter fun slot => slot.kind == .docString).filter
        (fun slot => slot.position ∉ first :: second :: others) = [] := by
      apply List.filter_eq_nil_iff.mpr
      intro slot hslot
      have hat := Option.mem_toList.mp (List.mem_of_mem_filter hslot)
      obtain ⟨hposition, -⟩ := slotAt?_eq_some_iff.mp hat
      rw [hposition, decide_eq_true_iff, not_not]
      exact List.mem_cons_of_mem first List.mem_cons_self
    -- After it the first tag no longer counts.
    have hlater : (source.textsBetween second closer).filter
        (fun slot => slot.position ∉ first :: second :: others) =
          (source.textsBetween second closer).filter
            fun slot => slot.position ∉ second :: others := by
      apply List.filter_congr
      intro slot hslot
      have hafter := (mem_textsBetween_iff.mp hslot).1
      have hne : slot.position ≠ first := by omega
      simp only [List.mem_cons, hne, false_or]
    have hlast : ∀ position ∈ second :: others, position < closer := fun position hposition =>
      hbefore position (List.mem_cons_of_mem first hposition)
    rw [textsBetween_eq_append hnext hend, List.filter_append, List.filter_append, hown, htag,
      hlater, ← ih hrest hlast]
    rfl

end Source

/-! ## Tags -/

namespace Tag

variable {source : Source}

/-- The texts of a tag: the one on its line, if there is one, and those after it. -/
def ownTexts (tag : Tag) : List String :=
  tag.inline?.toList.map Inline.text ++ tag.continuation

/-- The tag is the token at its position, together with the texts up to its stop. The first of them
is on the tag's line exactly if that is where it stands. -/
structure Owns (source : Source) (tag : Tag) : Prop where
  /-- The tag has the name and the line of the token. -/
  token : ∃ token, source.token? tag.position = some token ∧ tag.name = token.content ∧
    tag.line = token.line
  /-- Its texts are the texts up to its stop, in order. -/
  texts : tag.ownTexts = (source.textsBetween tag.position tag.stop).map Slot.content
  /-- The text on its line is the first one if that is on the same line, and else there is none. -/
  inline? : tag.inline? =
    ((source.textsBetween tag.position tag.stop).head?.filter fun first =>
      first.line = tag.line).map fun first => ⟨first.position, first.content⟩
  /-- It is the content of the token where it is said to stand. -/
  inlineText : ∀ inline ∈ tag.inline?, ∃ token, source.token? inline.position = some token ∧
    token.content = tag.inlineText

section OfTexts

variable (token : Token) (position stop : Int) (slots : List Slot)

@[simp]
theorem stop_ofTexts : (ofTexts token position stop slots).stop = stop := by
  cases slots with
  | nil => rfl
  | cons first rest => by_cases hline : first.line = token.line <;> simp [ofTexts, hline]

@[simp]
theorem ownTexts_ofTexts :
    (ofTexts token position stop slots).ownTexts = slots.map Slot.content := by
  cases slots with
  | nil => rfl
  | cons first rest => by_cases hline : first.line = token.line <;> simp [ofTexts, ownTexts, hline]

theorem inline?_ofTexts :
    (ofTexts token position stop slots).inline? =
      (slots.head?.filter fun first => first.line = token.line).map
        fun first => ⟨first.position, first.content⟩ := by
  cases slots with
  | nil => rfl
  | cons first rest =>
    rw [inline?_ofTexts_cons, List.head?_cons, Option.filter_some]
    by_cases hline : first.line = token.line <;> simp [hline]

end OfTexts

/-- The end of each tag is the position of the next one, if there is one. -/
theorem stop_eq_of_getElem?_zip {positions : List Int} {closer position stop : Int} {place : Nat}
    (hbounds : (positions.zip (positions.tail ++ [closer]))[place]? = some (position, stop)) :
    stop = positions[place + 1]?.getD closer := by
  obtain ⟨hposition, hstop⟩ := List.getElem?_zip_eq_some.mp hbounds
  rw [List.getElem?_append, List.getElem?_tail] at hstop
  split at hstop
  · rw [hstop]
    rfl
  · rename_i hlast
    have hplace : place < positions.length := (List.getElem?_eq_some_iff.mp hposition).1
    have hnone : positions[place + 1]? = none := by
      rw [List.length_tail] at hlast
      exact List.getElem?_eq_none (by omega)
    rw [hnone]
    exact List.mem_singleton.mp (List.mem_of_getElem? hstop)

/-- A tag that could be read owns the texts of its stretch. -/
theorem owns_of_read {position stop : Int} {tag : Tag}
    (hread : Tag.read source position stop = .ok tag) :
    tag.position = position ∧ tag.stop = stop ∧ tag.Owns source := by
  have hstands := stands_of_read hread
  obtain ⟨token, hat, hmissing, rfl⟩ := read_eq_ok_iff.mp hread
  have htexts : texts source position stop = source.textsBetween position stop := by
    rw [texts, Source.stretch, Source.slots_stretchFrom hmissing]
    rfl
  refine ⟨position_ofTexts .., stop_ofTexts .., ⟨token, ?_, name_ofTexts .., line_ofTexts ..⟩,
    ?_, ?_, ?_⟩
  · rw [position_ofTexts, hat]
  · rw [ownTexts_ofTexts, position_ofTexts, stop_ofTexts, htexts]
  · rw [inline?_ofTexts, position_ofTexts, stop_ofTexts, line_ofTexts, htexts]
  · intro inline hinline
    obtain ⟨found, hfound, -, hcontent⟩ := hstands.inline inline hinline
    exact ⟨found, hfound, by rw [hcontent, inlineText, Option.mem_def.mp hinline]⟩

end Tag

/-! ## Comments -/

namespace Block

variable {source : Source}

section Reads

variable {block : Block} {token : Token} (hreads : block.Reads source token)

include hreads

/-- Each tag of a comment owns the texts of its stretch. -/
theorem Reads.owns {tag : Tag} (htag : tag ∈ block.tags) : tag.Owns source := by
  obtain ⟨position, stop, -, hread⟩ := hreads.exists_bounds htag
  exact (Tag.owns_of_read hread).2.2

/-- The tags reach from position to position. -/
theorem Reads.map_bounds_tags :
    block.tags.map (fun tag => (tag.position, tag.stop)) =
      token.tagPositions.zip (token.tagPositions.tail ++ [block.closer]) := by
  have hbounds : List.Forall₂ (fun bounds tag => bounds = (Tag.position tag, Tag.stop tag))
      (token.tagPositions.zip (token.tagPositions.tail ++ [block.closer])) block.tags := by
    apply (Tag.readAll_eq_ok_iff.mp hreads.tags).imp
    intro bounds tag hread
    obtain ⟨hposition, hstop, -⟩ := Tag.owns_of_read hread
    rw [hposition, hstop]
  rw [← List.forall₂_map_right_iff (f := fun tag => (Tag.position tag, Tag.stop tag)),
    List.forall₂_eq_eq_eq] at hbounds
  exact hbounds.symm

/-- The texts of the tags are those of the pieces between them. -/
theorem Reads.flatMap_ownTexts :
    block.tags.flatMap Tag.ownTexts =
      ((token.tagPositions.zip (token.tagPositions.tail ++ [block.closer])).flatMap
        fun bounds => source.textsBetween bounds.1 bounds.2).map Slot.content := by
  calc block.tags.flatMap Tag.ownTexts
    _ = block.tags.flatMap
          fun tag => (source.textsBetween tag.position tag.stop).map Slot.content :=
        List.flatMap_congr fun tag htag => (hreads.owns htag).texts
    _ = (block.tags.flatMap
          fun tag => source.textsBetween tag.position tag.stop).map Slot.content :=
        List.map_flatMap.symm
    _ = ((block.tags.map fun tag => (tag.position, tag.stop)).flatMap
          fun bounds => source.textsBetween bounds.1 bounds.2).map Slot.content := by
        rw [List.flatMap_map]
    _ = _ := by rw [hreads.map_bounds_tags]

end Reads

/-- **Nothing is lost between tags, and nothing is taken twice.** Let a comment end inside the
source, and let the positions of its tags go up and lie inside the comment. It can be read. There is
one tag for each position, and it reaches up to the next one or to the end of the comment. The texts
of the tags, one tag after the other, are all texts from the first tag on, except for tokens that
are tags themselves. Each tag owns the texts of its own stretch, and the first of them is on its
line exactly if it stands there. -/
theorem tags_share_out_texts {source : Source} {opener closer : Int} {token : Token}
    (hat : source.token? opener = some token) (hkind : token.kind = .docOpen)
    (hcloser : token.closer? = some closer) (hsize : closer ≤ source.size)
    (hascending : token.tagPositions.Pairwise (· < ·))
    (hinside : ∀ position ∈ token.tagPositions, opener < position ∧ position < closer) :
    ∃ block, Block.read source opener = .ok block ∧
      block.tags.map Tag.position = token.tagPositions ∧
      (∀ place tag, block.tags[place]? = some tag →
        tag.stop = token.tagPositions[place + 1]?.getD closer) ∧
      (∀ first ∈ token.tagPositions.head?, block.tags.flatMap Tag.ownTexts =
        ((source.textsBetween first closer).filter fun slot =>
          slot.position ∉ token.tagPositions).map Slot.content) ∧
      ∀ tag ∈ block.tags, tag.Owns source := by
  obtain ⟨block, hread, -, rfl, hreads⟩ := exists_reads hat hkind hcloser hsize hinside
  have hbounds := hreads.map_bounds_tags
  refine ⟨block, hread, ?_, ?_, ?_, fun tag => hreads.owns⟩
  · have hlength :
        token.tagPositions.length ≤ (token.tagPositions.tail ++ [block.closer]).length := by
      rw [List.length_append, List.length_tail, List.length_singleton]
      omega
    have hpositions := congrArg (List.map Prod.fst) hbounds
    rwa [List.map_map, List.map_fst_zip hlength] at hpositions
  · intro place tag htag
    have hplace := congrArg (fun bounds => bounds[place]?) hbounds
    simp only [List.getElem?_map, htag, Option.map_some] at hplace
    exact Tag.stop_eq_of_getElem?_zip hplace.symm
  · intro first hfirst
    obtain ⟨rest, hpositions⟩ := List.head?_eq_some_iff.mp hfirst
    have hpieces := hreads.flatMap_ownTexts
    rw [hpositions] at hascending hinside hpieces ⊢
    rw [hpieces]
    congr 1
    exact Source.flatMap_textsBetween hascending fun position hposition =>
      (hinside position hposition).2

end Block

/-- A comment with a short description and three tags. The second one is said to stand at a text,
and has nothing on its line. -/
def sharedTexts : Source :=
  ⟨#[⟨.docOpen, "/**", 1, none, some 9, [2, 5, 7]⟩, ⟨.docString, "Short.", 1, none, none, []⟩,
    ⟨.docTag, "@param", 2, none, none, []⟩, ⟨.docString, "int $a", 2, none, none, []⟩,
    ⟨.docString, "a number", 3, none, none, []⟩, ⟨.docString, "see", 4, none, none, []⟩,
    ⟨.docString, "elsewhere", 5, none, none, []⟩, ⟨.docTag, "@return", 6, none, none, []⟩,
    ⟨.docString, "bool", 6, none, none, []⟩, ⟨.docClose, "*/", 7, some 0, none, []⟩]⟩

/-- The description belongs to no tag, and neither does the text at which a tag stands. -/
theorem sharedTexts_shared_out :
    ∃ block, Block.read sharedTexts 0 = .ok block ∧ block.tags.map Tag.position = [2, 5, 7] ∧
      (∀ place tag, block.tags[place]? = some tag →
        tag.stop = ([2, 5, 7] : List Int)[place + 1]?.getD 9) ∧
      block.tags.flatMap Tag.ownTexts = ["int $a", "a number", "elsewhere", "bool"] ∧
      ∀ tag ∈ block.tags, tag.Owns sharedTexts := by
  have hopener : sharedTexts.token? 0 = some _ := rfl
  obtain ⟨block, hread, hpositions, hstops, htexts, howns⟩ :=
    Block.tags_share_out_texts hopener rfl rfl (by decide) (by decide) (by decide)
  exact ⟨block, hread, hpositions, hstops, htexts 2 rfl, howns⟩

end DocLint

import DocLint.Proofs.BlockReading
import DocLint.Text.Blank

/-!
# Well-formed sources

In a well-formed source the doc comments lie apart, each lists exactly its tags, and no text begins
or ends with a blank. This module proves the consequence on which the independence of repairs rests:
every text token of a comment has one place only. It belongs to a description, and then no tag
stands before it in the comment, or it belongs to the nearest tag before it.

Comments may be reached in odd ways also in a well-formed source, for a closer that ends no comment
may point anywhere, even at an opener counted from the back. The consequence holds for these as
well.
-/

namespace DocLint

/-- The first slot opens a doc comment that ends in the second. -/
def Slot.Encloses (opener closer : Slot) : Prop :=
  opener.kind = .docOpen ∧ opener.token.closer? = some closer.position

instance (opener closer : Slot) : Decidable (opener.Encloses closer) :=
  inferInstanceAs (Decidable (_ ∧ _))

/-- A text that neither begins nor ends with a blank. -/
def Text.Trimmed (text : String) : Prop :=
  (∀ c ∈ text.toList.head?, isBlank c = false) ∧ ∀ c ∈ text.toList.getLast?, isBlank c = false

instance (text : String) : Decidable (Text.Trimmed text) :=
  -- Named, because a search for instances may decide this by trying all characters.
  @instDecidableAnd _ _ (Option.decidableForallMem _) (Option.decidableForallMem _)

/-- A source whose doc comments are as they should be. -/
structure Source.WellFormed (source : Source) : Prop where
  /-- Every comment ends, after it begins, with a token that points back. -/
  closed : ∀ opener ∈ source.slots, opener.kind = .docOpen →
    ∃ closer ∈ source.slots, opener.Encloses closer ∧ opener.position < closer.position ∧
      closer.token.opener? = some opener.position
  /-- No comment begins inside another one. -/
  apart : ∀ opener ∈ source.slots, ∀ closer ∈ source.slots, opener.Encloses closer →
    ∀ other ∈ source.slots, other.kind = .docOpen → opener.position < other.position →
      closer.position < other.position
  /-- The tags of a comment are listed in ascending order. -/
  ascending : ∀ opener ∈ source.slots, opener.kind = .docOpen →
    opener.token.tagPositions.Pairwise (· < ·)
  /-- Only tags inside the comment are listed. -/
  listed : ∀ opener ∈ source.slots, ∀ closer ∈ source.slots, opener.Encloses closer →
    ∀ position ∈ opener.token.tagPositions, ∃ slot ∈ source.slots, slot.position = position ∧
      slot.kind = .docTag ∧ opener.position < slot.position ∧ slot.position < closer.position
  /-- All tags inside the comment are listed. -/
  complete : ∀ opener ∈ source.slots, ∀ closer ∈ source.slots, opener.Encloses closer →
    ∀ slot ∈ source.slots, slot.kind = .docTag → opener.position < slot.position →
      slot.position < closer.position → slot.position ∈ opener.token.tagPositions
  /-- Layout, texts and tags are all that stands inside a comment. -/
  inside : ∀ opener ∈ source.slots, ∀ closer ∈ source.slots, opener.Encloses closer →
    ∀ slot ∈ source.slots, opener.position < slot.position → slot.position < closer.position →
      slot.kind.isFiller = true ∨ slot.kind = .docString ∨ slot.kind = .docTag
  /-- No text begins or ends with a blank. -/
  trimmed : ∀ slot ∈ source.slots, slot.kind = .docString → Text.Trimmed slot.content

/-! ## Tags -/

namespace Tag

/-- The tag stands in a slot of the source and reaches up to `stop`. -/
structure Stretches (source : Source) (slot : Slot) (stop : Int) (tag : Tag) : Prop where
  mem : slot ∈ source.slots
  kind : slot.kind = .docTag
  /-- Its texts are those that follow. -/
  eq_ofTexts : tag = ofTexts slot.token slot.position stop (texts source slot.position stop)
  /-- All of them are there. -/
  whole : (source.stretch (slot.position + 1) stop).missing? = none
  /-- No other tag comes before `stop`. -/
  next : ∀ other ∈ source.slots, other.kind = .docTag → slot.position < other.position →
    stop ≤ other.position
  /-- Nor does another comment. -/
  apart : ∀ other ∈ source.slots, other.kind = .docOpen → slot.position < other.position →
    stop ≤ other.position

/-- The texts of a tag stand in ascending order. -/
theorem pairwise_texts (source : Source) (position stop : Int) :
    (texts source position stop).Pairwise fun text later => text.position < later.position :=
  (Source.pairwise_stretch _ _).filter _

/-- The first text of a tag is the first one that follows it. -/
theorem le_of_texts_eq_cons {source : Source} {position stop : Int}
    (hwhole : (source.stretch (position + 1) stop).missing? = none) {first other : Slot}
    {rest : List Slot} (htexts : texts source position stop = first :: rest)
    (hother : other ∈ source.slots) (hkind : other.kind = .docString)
    (hafter : position < other.position) : first.position ≤ other.position := by
  by_contra hbefore
  have hfirst : first ∈ texts source position stop := by
    rw [htexts]
    exact List.mem_cons_self
  have hstop := (Source.mem_stretch (List.mem_filter.mp hfirst).1).2.2
  have hmem : other ∈ texts source position stop := by
    rw [texts, List.mem_filter, beq_iff_eq]
    exact ⟨Source.mem_stretch_of_token? hwhole (Source.token?_of_mem_slots hother) (by omega)
      (by omega), hkind⟩
  have hordered := pairwise_texts source position stop
  rw [htexts] at hmem hordered
  rcases List.mem_cons.mp hmem with rfl | hrest
  · exact hbefore (Int.le_refl _)
  · have hlater := (List.pairwise_cons.mp hordered).1 other hrest
    omega

namespace Stretches

variable {source : Source} {slot slot' : Slot} {stop stop' : Int} {tag tag' : Tag}

theorem mem_texts_iff (hstretches : tag.Stretches source slot stop) {text : Slot} :
    text ∈ texts source slot.position stop ↔
      text ∈ source.slots ∧ text.kind = .docString ∧ slot.position < text.position ∧
        text.position < stop := by
  have hfront := (Source.bounds_of_mem_slots hstretches.mem).1
  rw [texts, List.mem_filter, beq_iff_eq]
  refine ⟨?_, ?_⟩
  · rintro ⟨htext, hkind⟩
    obtain ⟨hat, hlow, hhigh⟩ := Source.mem_stretch htext
    exact ⟨Source.mem_slots_iff.mpr ⟨by omega, hat⟩, hkind, by omega, hhigh⟩
  · rintro ⟨htext, hkind, hlow, hhigh⟩
    exact ⟨Source.mem_stretch_of_token? hstretches.whole (Source.token?_of_mem_slots htext)
      (by omega) hhigh, hkind⟩

/-- **A text belongs to the nearest tag before it.** -/
theorem nearestBefore (hstretches : tag.Stretches source slot stop) {text : Slot}
    (htext : text ∈ texts source slot.position stop) :
    source.NearestBefore (fun kind => kind == .docTag) text.position slot := by
  obtain ⟨-, -, hlow, hhigh⟩ := hstretches.mem_texts_iff.mp htext
  refine ⟨hstretches.mem, hlow, ?_, ?_⟩
  · simp [hstretches.kind]
  · intro other hother hafter hbefore
    by_contra htag
    have hkind : other.kind = .docTag := by simpa using htag
    have hstop := hstretches.next other hother hkind hafter
    omega

/-- Two tags that share a text stand in the same slot. -/
theorem slot_unique (hstretches : tag.Stretches source slot stop)
    (hstretches' : tag'.Stretches source slot' stop') {text : Slot}
    (htext : text ∈ texts source slot.position stop)
    (htext' : text ∈ texts source slot'.position stop') : slot = slot' :=
  (hstretches.nearestBefore htext).unique (hstretches'.nearestBefore htext')

/-- If two tags share a text and it is the first of the one, it is the first of the other. -/
theorem head_unique (hstretches : tag.Stretches source slot stop)
    (hstretches' : tag'.Stretches source slot' stop') {first text : Slot} {rest rest' : List Slot}
    (htexts : texts source slot.position stop = first :: rest)
    (htexts' : texts source slot'.position stop' = text :: rest')
    (htext : text ∈ texts source slot.position stop) : slot = slot' ∧ text = first := by
  have htext' : text ∈ texts source slot'.position stop' := by
    rw [htexts']
    exact List.mem_cons_self
  have hfirst : first ∈ texts source slot.position stop := by
    rw [htexts]
    exact List.mem_cons_self
  obtain rfl := hstretches.slot_unique hstretches' htext htext'
  obtain ⟨hmem, hkind, hafter, -⟩ := hstretches.mem_texts_iff.mp htext
  obtain ⟨hmem', hkind', hafter', -⟩ := hstretches.mem_texts_iff.mp hfirst
  refine ⟨rfl, Source.eq_of_mem_slots hmem hmem' (Int.le_antisymm ?_ ?_)⟩
  · exact le_of_texts_eq_cons hstretches'.whole htexts' hmem' hkind' hafter'
  · exact le_of_texts_eq_cons hstretches.whole htexts hmem hkind hafter

end Stretches

end Tag

namespace Source.WellFormed

variable {source : Source} (hwell : source.WellFormed) {block : Block} {token : Token}
variable (hreads : block.Reads source token)

include hwell hreads

/-- A comment that was read lies between the ends of a doc comment, also when its opener was counted
from the back. -/
theorem exists_ends :
    ∃ opener ∈ source.slots, ∃ closer ∈ source.slots, opener.Encloses closer ∧
      opener.token = token ∧ closer.position = block.closer := by
  obtain ⟨opener, hopener, rfl, -⟩ := exists_slot_of_token? hreads.token?
  obtain ⟨closer, hcloser, hencloses, -, -⟩ := hwell.closed opener hopener hreads.kind
  refine ⟨opener, hopener, closer, hcloser, hencloses, rfl, ?_⟩
  exact Option.some.inj (hencloses.2.symm.trans hreads.closer?)

/-- **A tag of a comment reaches up to the next tag**, and no comment begins in between. -/
theorem exists_stretches {position stop : Int} {tag : Tag}
    (hbounds : (position, stop) ∈
      token.tagPositions.zip (token.tagPositions.tail ++ [block.closer]))
    (hread : Tag.read source position stop = .ok tag) :
    ∃ slot, slot.position = position ∧ tag.Stretches source slot stop := by
  obtain ⟨opener, hopener, closer, hcloser, hencloses, rfl, hends⟩ := hwell.exists_ends hreads
  obtain ⟨hposition, hstop, hnext⟩ :=
    Tag.bounds_of_mem_zip (hwell.ascending opener hopener hencloses.1) hbounds
  obtain ⟨slot, hslot, rfl, hkind, hlow, hhigh⟩ :=
    hwell.listed opener hopener closer hcloser hencloses position hposition
  have hreach : stop ≤ closer.position := by
    rcases hstop with hstop | rfl
    · obtain ⟨last, -, rfl, -, -, hlast⟩ :=
        hwell.listed opener hopener closer hcloser hencloses stop hstop
      exact Int.le_of_lt hlast
    · exact Int.le_of_eq hends.symm
  obtain ⟨tagToken, hat, hwhole, htag⟩ := Tag.read_eq_ok_iff.mp hread
  obtain rfl : slot.token = tagToken :=
    Option.some.inj ((token?_of_mem_slots hslot).symm.trans hat)
  refine ⟨slot, rfl, hslot, hkind, htag, hwhole, ?_, ?_⟩
  · intro other hother htagged hafter
    by_cases hinside : other.position < closer.position
    · have hlisted := hwell.complete opener hopener closer hcloser hencloses other hother htagged
        (by omega) hinside
      exact hnext other.position hlisted hafter
    · omega
  · intro other hother hopens hafter
    have hbefore := hwell.apart opener hopener closer hcloser hencloses other hother hopens
      (by omega)
    omega

end Source.WellFormed

/-! ## Descriptions -/

/-- The slot comes after a position, and no tag stands in between. -/
structure Source.Untagged (source : Source) (start : Int) (slot : Slot) : Prop where
  mem : slot ∈ source.slots
  after : start < slot.position
  first : ∀ other ∈ source.slots, other.kind = .docTag → start < other.position →
    slot.position ≤ other.position

namespace Source.Untagged

variable {source : Source} {start : Int} {slot : Slot}

theorem trans {last : Slot} (hslot : source.Untagged start slot)
    (hlast : source.Untagged slot.position last) (hkind : slot.kind ≠ .docTag) :
    source.Untagged start last := by
  refine ⟨hlast.mem, Int.lt_trans hslot.after hlast.after, ?_⟩
  intro other hother htag hafter
  have hle := hslot.first other hother htag hafter
  rcases Int.le_iff_lt_or_eq.mp hle with hlt | heq
  · exact hlast.first other hother htag hlt
  · rw [eq_of_mem_slots hslot.mem hother heq] at hkind
    exact absurd htag hkind

/-- No tag stands before the first content. -/
theorem of_content? {closer : Int}
    (hcontent : Block.content? source (start + 1) closer = some slot) :
    source.Untagged start slot := by
  obtain ⟨hmem, hstart, -, -, hlayout⟩ := next?_eq_some_iff.mp hcontent
  refine ⟨hmem, by omega, ?_⟩
  intro other hother htag hafter
  by_contra hbefore
  have hfiller := hlayout other hother (by omega) (by omega)
  rw [htag] at hfiller
  cases hfiller

/-- No tag stands before a further line of a description. -/
theorem of_mem_after {count : Nat} (hfront : 0 ≤ start) (line : Int)
    (hslot : slot ∈ (SpanTail.after line (source.stretchFrom count (start + 1)).slots).slots) :
    source.Untagged start slot ∧ slot.kind = .docString := by
  induction count generalizing start line with
  | zero => cases hslot
  | succ count ih =>
    rw [stretchFrom] at hslot
    cases hat : source.token? (start + 1) with
    | none =>
      rw [hat] at hslot
      cases hslot
    | some token =>
      rw [hat] at hslot
      have hhead : (⟨start + 1, token⟩ : Slot) ∈ source.slots :=
        mem_slots_iff.mpr ⟨show 0 ≤ start + 1 by omega, hat⟩
      -- The walk passes over a token that is no tag.
      have hpass : token.kind ≠ .docTag → ∀ other ∈ source.slots, other.kind = .docTag →
          start < other.position → start + 1 < other.position := by
        intro hkind other hother htag hafter
        rcases Int.le_iff_lt_or_eq.mp (show start + 1 ≤ other.position by omega) with hlt | heq
        · exact hlt
        · rw [← eq_of_mem_slots hhead hother heq] at htag
          exact absurd htag hkind
      have hnext : token.kind ≠ .docTag → ∀ line,
          slot ∈ (SpanTail.after line (source.stretchFrom count (start + 1 + 1)).slots).slots →
            source.Untagged start slot ∧ slot.kind = .docString := by
        intro hkind line hrest
        obtain ⟨huntagged, hstring⟩ := ih (by omega) line hrest
        refine ⟨⟨huntagged.mem, Int.lt_trans (Int.lt_succ start) huntagged.after, ?_⟩, hstring⟩
        intro other hother htag hafter
        exact huntagged.first other hother htag (hpass hkind other hother htag hafter)
      rw [SpanTail.after] at hslot
      split at hslot
      · cases hslot
      · rename_i hkind
        have hkind : token.kind = .docString := hkind
        have htext : token.kind ≠ .docTag := by
          rw [hkind]
          decide
        split at hslot
        · rcases List.mem_cons.mp hslot with rfl | hrest
          · refine ⟨⟨hhead, Int.lt_succ start, ?_⟩, hkind⟩
            intro other hother htag hafter
            exact Int.le_of_lt (hpass htext other hother htag hafter)
          · exact hnext htext _ hrest
        · cases hslot
      · rename_i hkind _
        exact hnext hkind _ hslot

/-- **A description and a tag share no text.** -/
theorem ne_text {token : Token} (hopens : source.token? start = some token)
    (hkind : token.kind = .docOpen) (huntagged : source.Untagged start slot) {tagSlot : Slot}
    {stop : Int} {tag : Tag} (hstretches : tag.Stretches source tagSlot stop) {text : Slot}
    (htext : text ∈ Tag.texts source tagSlot.position stop) : text.position ≠ slot.position := by
  intro hsame
  obtain ⟨-, -, hlow, hhigh⟩ := hstretches.mem_texts_iff.mp htext
  have hfront := (bounds_of_mem_slots hstretches.mem).1
  have hstart : tagSlot.position ≤ start := by
    by_contra hafter
    have hbefore := huntagged.first tagSlot hstretches.mem hstretches.kind (by omega)
    omega
  -- So the comment of the description begins between the tag and its text.
  have hopener : (⟨start, token⟩ : Slot) ∈ source.slots :=
    mem_slots_iff.mpr ⟨show 0 ≤ start by omega, hopens⟩
  have hne : tagSlot.position ≠ start := by
    intro heq
    have hkinds := hstretches.kind
    rw [eq_of_mem_slots hstretches.mem hopener heq] at hkinds
    exact absurd (hkind.symm.trans hkinds) (by decide)
  have hstop := hstretches.apart _ hopener hkind (show tagSlot.position < start by omega)
  have hafter := huntagged.after
  have hbetween : stop ≤ start := hstop
  omega

end Source.Untagged

namespace Span

variable {source : Source} {closer : Int} {span : Span}

/-- No tag stands before the last line of a description. -/
theorem untagged {first : Slot} (hread : Span.read source first closer = .ok span)
    (hfirst : first ∈ source.slots) :
    ∀ slot ∈ span.more, source.Untagged first.position slot ∧ slot.kind = .docString := by
  obtain ⟨-, rfl⟩ := read_eq_ok_iff.mp hread
  intro slot hslot
  exact Source.Untagged.of_mem_after (Source.bounds_of_mem_slots hfirst).1 _ hslot

end Span

namespace Block

/-- The text tokens that a comment shows of its descriptions. -/
def descriptionSlots (block : Block) : List Slot :=
  block.firstContent?.toList ++ block.short?.toList.flatMap Span.slots ++
    block.long?.toList.flatMap Span.slots

variable {source : Source} {block : Block}

theorem mem_descriptionSlots_iff {slot : Slot} :
    slot ∈ block.descriptionSlots ↔
      (block.firstContent? = some slot ∨ ∃ span, block.short? = some span ∧ slot ∈ span.slots) ∨
        ∃ span, block.long? = some span ∧ slot ∈ span.slots := by
  simp only [descriptionSlots, List.mem_append, List.mem_flatMap, Option.mem_toList]

/-- A description that begins after a position without a tag in between has none inside. -/
theorem untagged_of_description? {start closer : Int} {first? : Option Slot} {span : Span}
    (hread : description? source first? closer = .ok (some span))
    (hfirst : ∀ first ∈ first?, source.Untagged start first) :
    ∀ slot ∈ span.slots, source.Untagged start slot ∧ slot.kind = .docString := by
  obtain rfl := first_of_description? hread
  have huntagged := hfirst span.first rfl
  simp only [description?] at hread
  split at hread
  · rename_i hkind
    obtain ⟨found, hfound, hspan⟩ := except_bind_eq_ok_iff.mp hread
    obtain rfl := Option.some.inj (Except.ok.inj hspan)
    intro slot hslot
    rcases List.mem_cons.mp hslot with rfl | hmore
    · exact ⟨huntagged, hkind⟩
    · obtain ⟨hslot, hstring⟩ := Span.untagged hfound huntagged.mem slot hmore
      refine ⟨huntagged.trans hslot ?_, hstring⟩
      rw [hkind]
      decide
  · cases hread

/-- **No tag stands before a description.** -/
theorem Reads.untagged {token : Token} (hreads : block.Reads source token) :
    ∀ slot ∈ block.descriptionSlots, source.Untagged block.opener slot := by
  have hfirst : ∀ first ∈ block.firstContent?, source.Untagged block.opener first := by
    intro first hfirst
    apply Source.Untagged.of_content?
    rw [← hreads.first]
    exact hfirst
  have hshort : ∀ span ∈ block.short?, ∀ slot ∈ span.slots,
      source.Untagged block.opener slot ∧ slot.kind = .docString := by
    intro span hspan
    have hread := hreads.short
    rw [Option.mem_def.mp hspan] at hread
    exact untagged_of_description? hread hfirst
  have hlong : ∀ span ∈ block.long?, ∀ slot ∈ span.slots,
      source.Untagged block.opener slot ∧ slot.kind = .docString := by
    intro span hspan
    have hread := hreads.long
    rw [Option.mem_def.mp hspan, longDescription?.eq_def] at hread
    split at hread
    · cases hread
    · rename_i short hsome
      have hlast : short.last ∈ short.slots := List.getLastD_mem_cons
      obtain ⟨huntagged, hkind⟩ := hshort short hsome short.last hlast
      apply untagged_of_description? hread
      intro first hfirst
      apply huntagged.trans (Source.Untagged.of_content? hfirst)
      rw [hkind]
      decide
  intro slot hslot
  rw [mem_descriptionSlots_iff] at hslot
  rcases hslot with (hslot | ⟨span, hspan, hslot⟩) | ⟨span, hspan, hslot⟩
  · exact hfirst slot hslot
  · exact (hshort span hspan slot hslot).1
  · exact (hlong span hspan slot hslot).1

end Block

end DocLint

import DocLint.Proofs.Checks
import Mathlib.Data.List.Forall2

/-!
# Taking a doc comment apart

Reading a comment is a chain of steps each of which may fail. This module states once what a reading
that succeeds has found, part by part, so that later proofs never open the chain again.

The first thing that follows is that a comment mentions only tokens that exist: wherever its parts
say that they stand, the source has a token. References of the source may be as wrong as they like;
a wrong one makes the reading fail or gives a strange comment, but never a comment that points
outside.
-/

namespace DocLint

/-- Two steps end well exactly when the first one does and the second one does with its value. -/
theorem except_bind_eq_ok_iff {α β : Type} {first : Except Fault α} {next : α → Except Fault β}
    {result : β} :
    first >>= next = .ok result ↔ ∃ value, first = .ok value ∧ next value = .ok result := by
  cases first <;> simp [bind, Except.bind]

/-- What can be seen of a result is seen of a value. -/
theorem except_map_eq_ok_iff {α β : Type} {result : Except Fault α} {view : α → β} {seen : β} :
    result.map view = .ok seen ↔ ∃ value, result = .ok value ∧ view value = seen := by
  cases result <;> simp [Except.map]

/-- Two steps break off where one of them does. -/
theorem except_bind_eq_error_iff {α β : Type} {first : Except Fault α} {next : α → Except Fault β}
    {fault : Fault} :
    first >>= next = .error fault ↔
      first = .error fault ∨ ∃ value, first = .ok value ∧ next value = .error fault := by
  cases first <;> simp [bind, Except.bind]

/-- A step for each item ends well exactly when every one of them does. -/
theorem mapM_eq_ok_iff {α β : Type} {step : α → Except Fault β} {items : List α}
    {results : List β} :
    items.mapM step = .ok results ↔
      List.Forall₂ (fun item result => step item = .ok result) items results := by
  induction items generalizing results with
  | nil => cases results <;> simp [pure, Except.pure]
  | cons item items ih =>
    rw [List.mapM_cons]
    cases results with
    | nil => simp [except_bind_eq_ok_iff, pure, Except.pure]
    | cons result results =>
      simp [except_bind_eq_ok_iff, pure, Except.pure, ih]

/-- A step for each item ends well if every one of them can. -/
theorem exists_mapM_eq_ok {α β : Type} {step : α → Except Fault β} {items : List α}
    (hstep : ∀ item ∈ items, ∃ result, step item = .ok result) :
    ∃ results, items.mapM step = .ok results := by
  induction items with
  | nil => exact ⟨[], rfl⟩
  | cons item items ih =>
    obtain ⟨result, hresult⟩ := hstep item List.mem_cons_self
    obtain ⟨results, hresults⟩ :=
      ih fun other hother => hstep other (List.mem_cons_of_mem item hother)
    refine ⟨result :: results, mapM_eq_ok_iff.mpr (.cons hresult (mapM_eq_ok_iff.mp hresults))⟩

/-- Of two corresponding lists, an item of the second has a partner in the first. -/
theorem exists_partner_of_forall₂ {α β : Type} {rel : α → β → Prop} {items : List α}
    {items' : List β} (hitems : List.Forall₂ rel items items') {item' : β}
    (hitem' : item' ∈ items') : ∃ item ∈ items, rel item item' := by
  induction hitems with
  | nil => cases hitem'
  | @cons first first' rest rest' hfirst _ ih =>
    rcases List.mem_cons.mp hitem' with rfl | hrest'
    · exact ⟨first, List.mem_cons_self, hfirst⟩
    · obtain ⟨item, hitem, hrel⟩ := ih hrest'
      exact ⟨item, List.mem_cons_of_mem first hitem, hrel⟩

namespace Source

variable {source : Source}

/-- Getting a token succeeds where it stands. -/
theorem get_eq_ok_iff {position : Int} {token : Token} :
    source.get position = .ok token ↔ source.token? position = some token := by
  unfold get
  cases source.token? position <;> simp

/-! ## Stretches -/

/-- The slots of a stretch are tokens of the source between its bounds. -/
theorem mem_stretchFrom {count : Nat} {position : Int} {slot : Slot}
    (hslot : slot ∈ (source.stretchFrom count position).slots) :
    source.token? slot.position = some slot.token ∧ position ≤ slot.position ∧
      slot.position < position + count := by
  induction count generalizing position with
  | zero => exact absurd hslot List.not_mem_nil
  | succ count ih =>
    unfold stretchFrom at hslot
    cases hat : source.token? position with
    | none =>
      rw [hat] at hslot
      exact absurd hslot List.not_mem_nil
    | some token =>
      rw [hat] at hslot
      rcases List.mem_cons.mp hslot with rfl | hrest
      · refine ⟨hat, Int.le_refl position, ?_⟩
        show position < position + (count + 1 : Nat)
        omega
      · obtain ⟨htoken, hlow, hhigh⟩ := ih hrest
        exact ⟨htoken, by omega, by omega⟩

/-- The slots of a stretch are tokens of the source between its bounds. -/
theorem mem_stretch {start stop : Int} {slot : Slot}
    (hslot : slot ∈ (source.stretch start stop).slots) :
    source.token? slot.position = some slot.token ∧ start ≤ slot.position ∧
      slot.position < stop := by
  obtain ⟨htoken, hlow, hhigh⟩ := mem_stretchFrom hslot
  exact ⟨htoken, hlow, by omega⟩

/-- A stretch inside the source misses nothing. -/
theorem missing?_stretch {start stop : Int} (hstart : -(source.size : Int) ≤ start)
    (hstop : stop ≤ source.size) : (source.stretch start stop).missing? = none := by
  have hfrom : ∀ (count : Nat) (position : Int), -(source.size : Int) ≤ position →
      position + count ≤ source.size → (source.stretchFrom count position).missing? = none := by
    intro count
    induction count with
    | zero => exact fun _ _ _ => rfl
    | succ count ih =>
      intro position hposition hsize
      have hlast : position < source.size := by omega
      obtain ⟨token, hat⟩ := exists_token?_of_bounds hposition hlast
      rw [stretchFrom, hat]
      exact ih (position + 1) (by omega) (by omega)
  by_cases hbounds : start ≤ stop
  · exact hfrom _ start hstart (by omega)
  · rw [stretch, show (stop - start).toNat = 0 by omega]
    rfl

/-- A stretch that misses nothing has every token between its bounds. -/
theorem mem_stretch_of_token? {start stop : Int}
    (hmissing : (source.stretch start stop).missing? = none) {slot : Slot}
    (hat : source.token? slot.position = some slot.token) (hstart : start ≤ slot.position)
    (hstop : slot.position < stop) : slot ∈ (source.stretch start stop).slots := by
  have hfrom : ∀ (count : Nat) (position : Int),
      (source.stretchFrom count position).missing? = none → position ≤ slot.position →
        slot.position < position + count → slot ∈ (source.stretchFrom count position).slots := by
    intro count
    induction count with
    | zero =>
      intro position _ hlow hhigh
      omega
    | succ count ih =>
      intro position hnone hlow hhigh
      rw [stretchFrom] at hnone ⊢
      cases hfound : source.token? position with
      | none =>
        rw [hfound] at hnone
        cases hnone
      | some token =>
        rw [hfound] at hnone
        by_cases hposition : slot.position = position
        · obtain rfl : token = slot.token := by
            rw [← hposition, hat, Option.some.injEq] at hfound
            exact hfound.symm
          rw [← hposition]
          exact List.mem_cons_self
        · exact List.mem_cons_of_mem _ (ih (position + 1) hnone (by omega) (by omega))
  exact hfrom _ start hmissing hstart (by omega)

/-- The slots of a stretch stand in ascending order. -/
theorem pairwise_stretch (start stop : Int) :
    (source.stretch start stop).slots.Pairwise
      fun slot other => slot.position < other.position := by
  have hfrom : ∀ (count : Nat) (position : Int), (source.stretchFrom count position).slots.Pairwise
      fun slot other => slot.position < other.position := by
    intro count
    induction count with
    | zero => exact fun _ => .nil
    | succ count ih =>
      intro position
      rw [stretchFrom]
      cases source.token? position with
      | none => exact .nil
      | some token =>
        apply List.Pairwise.cons
        · intro other hother
          have hlow := (mem_stretchFrom hother).2.1
          show position < other.position
          omega
        · exact ih (position + 1)
  exact hfrom _ start

end Source

/-! ## Descriptions -/

namespace Span

variable {source : Source}

/-- How a description goes on after its first line, inside a comment that ends at `closer`. -/
def tail (source : Source) (first : Slot) (closer : Int) : SpanTail :=
  SpanTail.after first.line (source.stretch (first.position + 1) closer).slots

/-- A description can be read if it ends, or the comment does, before the source. -/
theorem read_eq_ok_iff {first : Slot} {closer : Int} {span : Span} :
    Span.read source first closer = .ok span ↔
      ((tail source first closer).ended = true ∨
        (source.stretch (first.position + 1) closer).missing? = none) ∧
      span = ⟨first, (tail source first closer).slots⟩ := by
  unfold Span.read tail
  dsimp only
  cases (SpanTail.after first.line (source.stretch (first.position + 1) closer).slots).ended <;>
    cases (source.stretch (first.position + 1) closer).missing? <;> simp [eq_comm (a := span)]

end Span

/-! ## Tags -/

namespace Tag

variable {source : Source}

/-- The text tokens between a tag and the next one. -/
def texts (source : Source) (position stop : Int) : List Slot :=
  (source.stretch (position + 1) stop).slots.filter fun slot => slot.kind == .docString

/-- A tag can be read where a token stands and the source reaches as far as the tag does. -/
theorem read_eq_ok_iff {position stop : Int} {tag : Tag} :
    Tag.read source position stop = .ok tag ↔
      ∃ token, source.token? position = some token ∧
        (source.stretch (position + 1) stop).missing? = none ∧
        tag = ofTexts token position stop (texts source position stop) := by
  unfold Tag.read
  simp only [except_bind_eq_ok_iff, Source.get_eq_ok_iff]
  refine exists_congr fun token => and_congr_right fun _ => ?_
  unfold texts
  cases (source.stretch (position + 1) stop).missing? with
  | some missing => simp [throw, throwThe, MonadExceptOf.throw]
  | none => simp [pure, Except.pure, eq_comm]

/-- The tags of a comment are read one by one, each up to the next. -/
theorem readAll_eq_ok_iff {positions : List Int} {closer : Int} {tags : List Tag} :
    readAll source positions closer = .ok tags ↔
      List.Forall₂ (fun bounds tag => Tag.read source bounds.1 bounds.2 = .ok tag)
        (positions.zip (positions.tail ++ [closer])) tags :=
  mapM_eq_ok_iff

/-- Each tag reaches up to the next one or to the end of the comment. -/
theorem bounds_of_mem_zip {positions : List Int} (hascending : positions.Pairwise (· < ·))
    {closer position stop : Int}
    (hbounds : (position, stop) ∈ positions.zip (positions.tail ++ [closer])) :
    position ∈ positions ∧ (stop ∈ positions ∨ stop = closer) ∧
      ∀ other ∈ positions, position < other → stop ≤ other := by
  induction positions with
  | nil => cases hbounds
  | cons first rest ih =>
    obtain ⟨hfirst, hrest⟩ := List.pairwise_cons.mp hascending
    cases rest with
    | nil =>
      obtain ⟨rfl, rfl⟩ : position = first ∧ stop = closer := by simpa using hbounds
      refine ⟨List.mem_cons_self, Or.inr rfl, ?_⟩
      intro other hother hafter
      obtain rfl := List.mem_singleton.mp hother
      omega
    | cons second others =>
      rcases List.mem_cons.mp hbounds with hhead | htail
      · obtain ⟨rfl, rfl⟩ := Prod.mk.inj hhead
        refine ⟨List.mem_cons_self, Or.inl (List.mem_cons_of_mem _ List.mem_cons_self), ?_⟩
        intro other hother hafter
        rcases List.mem_cons.mp hother with rfl | hother
        · omega
        · rcases List.mem_cons.mp hother with rfl | hother
          · exact Int.le_refl _
          · exact Int.le_of_lt ((List.pairwise_cons.mp hrest).1 other hother)
      · obtain ⟨hposition, hstop, hnext⟩ := ih hrest htail
        refine ⟨List.mem_cons_of_mem first hposition,
          hstop.imp_left (List.mem_cons_of_mem first), ?_⟩
        intro other hother hafter
        rcases List.mem_cons.mp hother with rfl | hother
        · have hbefore := hfirst position hposition
          omega
        · exact hnext other hother hafter

section OfTexts

variable (token : Token) (position stop : Int) (slots : List Slot)

@[simp]
theorem name_ofTexts : (ofTexts token position stop slots).name = token.content := by
  cases slots with
  | nil => rfl
  | cons first rest => by_cases hline : first.line = token.line <;> simp [ofTexts, hline]

@[simp]
theorem position_ofTexts : (ofTexts token position stop slots).position = position := by
  cases slots with
  | nil => rfl
  | cons first rest => by_cases hline : first.line = token.line <;> simp [ofTexts, hline]

@[simp]
theorem line_ofTexts : (ofTexts token position stop slots).line = token.line := by
  cases slots with
  | nil => rfl
  | cons first rest => by_cases hline : first.line = token.line <;> simp [ofTexts, hline]

/-- The text on a tag's own line is the first of its texts, if it is there. -/
theorem inline?_ofTexts_cons (first : Slot) :
    (ofTexts token position stop (first :: slots)).inline? =
      if first.line = token.line then some ⟨first.position, first.content⟩ else none := by
  by_cases hline : first.line = token.line <;> simp [ofTexts, hline]

/-- A text on a tag's own line is the first of its texts. -/
theorem inline?_ofTexts_eq_some {inline : Inline}
    (hinline : (ofTexts token position stop slots).inline? = some inline) :
    ∃ first rest, slots = first :: rest ∧ first.line = token.line ∧
      inline = ⟨first.position, first.content⟩ := by
  cases slots with
  | nil => cases hinline
  | cons first rest =>
    rw [inline?_ofTexts_cons] at hinline
    split at hinline
    · rename_i hline
      exact ⟨first, rest, rfl, hline, (Option.some.inj hinline).symm⟩
    · cases hinline

end OfTexts

/-- The tokens that a tag mentions stand in the source. -/
structure Stands (source : Source) (tag : Tag) : Prop where
  /-- The tag itself does. -/
  position : source.Holds tag.position
  /-- The text on its line does, and it is a text token. -/
  inline : ∀ inline ∈ tag.inline?, ∃ token, source.token? inline.position = some token ∧
    token.kind = .docString ∧ token.content = inline.text

/-- A tag that could be read mentions only tokens that exist. -/
theorem stands_of_read {position stop : Int} {tag : Tag}
    (hread : Tag.read source position stop = .ok tag) : tag.Stands source := by
  obtain ⟨token, hat, -, rfl⟩ := read_eq_ok_iff.mp hread
  refine ⟨?_, ?_⟩
  · rw [position_ofTexts]
    exact ⟨token, hat⟩
  · intro inline hinline
    obtain ⟨first, rest, htexts, -, rfl⟩ := inline?_ofTexts_eq_some _ _ _ _ hinline
    have hfirst : first ∈ texts source position stop := htexts ▸ List.mem_cons_self
    obtain ⟨hstretch, hkind⟩ := List.mem_filter.mp hfirst
    exact ⟨first.token, (Source.mem_stretch hstretch).1, by simpa using hkind, rfl⟩

end Tag

/-! ## Comments -/

namespace Block

variable {source : Source} {opener closer : Int} {block : Block}

/-- What a comment that was read at an opener consists of. -/
structure Reads (source : Source) (token : Token) (block : Block) : Prop where
  /-- The token opens the comment. -/
  token? : source.token? block.opener = some token
  /-- It is the opener of a doc comment. -/
  kind : token.kind = .docOpen
  /-- It knows where the comment ends. -/
  closer? : token.closer? = some block.closer
  /-- The first content of the comment. -/
  first : block.firstContent? = content? source (block.opener + 1) block.closer
  /-- The short description begins there. -/
  short : description? source block.firstContent? block.closer = .ok block.short?
  /-- The long description comes after the short one. -/
  long : longDescription? source block.short? block.closer = .ok block.long?
  /-- The tags stand where the opener says. -/
  tags : Tag.readAll source token.tagPositions block.closer = .ok block.tags
  /-- The text is all that stands between the two ends. -/
  text : block.text = source.text (block.opener + 1) block.closer

/-- **What reading finds.** A comment can be read at a position exactly when each of its parts
can. -/
theorem read_eq_ok_iff :
    Block.read source opener = .ok block ↔
      block.opener = opener ∧ ∃ token, block.Reads source token := by
  unfold Block.read
  simp only [except_bind_eq_ok_iff, Source.get_eq_ok_iff]
  refine ⟨?_, ?_⟩
  · rintro ⟨token, hat, hread⟩
    split at hread
    · rename_i closer hkind hcloser
      obtain ⟨short?, hshort, hread⟩ := except_bind_eq_ok_iff.mp hread
      obtain ⟨long?, hlong, hread⟩ := except_bind_eq_ok_iff.mp hread
      obtain ⟨tags, htags, hread⟩ := except_bind_eq_ok_iff.mp hread
      obtain rfl := Except.ok.inj hread
      exact ⟨rfl, token, hat, hkind, hcloser, rfl, hshort, hlong, htags, rfl⟩
    · cases hread
  · rintro ⟨rfl, token, hreads⟩
    refine ⟨token, hreads.token?, ?_⟩
    rw [hreads.kind, hreads.closer?]
    simp only [← hreads.first, hreads.short, hreads.long, hreads.tags, ← hreads.text, bind,
      Except.bind, pure, Except.pure]

/-- A description begins with the token that was given for it. -/
theorem first_of_description? {first? : Option Slot} {span : Span}
    (hread : description? source first? closer = .ok (some span)) : first? = some span.first := by
  unfold description? at hread
  split at hread
  · cases hread
  · rename_i first
    split at hread
    · obtain ⟨found, hfound, hspan⟩ := except_bind_eq_ok_iff.mp hread
      obtain rfl := Option.some.inj (Except.ok.inj hspan)
      rw [(Span.read_eq_ok_iff.mp hfound).2]
    · cases hread

/-- Each tag of a comment was read at one of the positions that the opener lists. -/
theorem Reads.exists_bounds {token : Token} (hreads : block.Reads source token) {tag : Tag}
    (htag : tag ∈ block.tags) :
    ∃ position stop,
      (position, stop) ∈ token.tagPositions.zip (token.tagPositions.tail ++ [block.closer]) ∧
        Tag.read source position stop = .ok tag := by
  obtain ⟨⟨position, stop⟩, hbounds, hread⟩ :=
    exists_partner_of_forall₂ (Tag.readAll_eq_ok_iff.mp hreads.tags) htag
  exact ⟨position, stop, hbounds, hread⟩

/-- The tokens that a comment mentions stand in the source. -/
structure Stands (source : Source) (block : Block) : Prop where
  /-- The opener does. -/
  opener : source.Holds block.opener
  /-- The short description begins with a token of the source. -/
  short : ∀ span ∈ block.short?, source.Holds span.first.position
  /-- So does the long description. -/
  long : ∀ span ∈ block.long?, source.Holds span.first.position
  /-- The tags and their texts do. -/
  tags : ∀ tag ∈ block.tags, tag.Stands source

/-- What a search for content finds stands in the source. -/
theorem holds_of_content? {start : Int} {slot : Slot}
    (hfound : content? source start closer = some slot) : source.Holds slot.position :=
  ⟨slot.token, Source.token?_of_mem_slots (Source.next?_eq_some_iff.mp hfound).1⟩

/-- **A comment never points outside.** Whatever the references of a source are worth, a comment
that could be read mentions only tokens that exist. -/
theorem Reads.stands {token : Token} (hreads : block.Reads source token) : block.Stands source := by
  refine ⟨⟨token, hreads.token?⟩, ?_, ?_, ?_⟩
  · intro span hspan
    have hshort := hreads.short
    rw [Option.mem_def.mp hspan] at hshort
    exact holds_of_content? (hreads.first ▸ first_of_description? hshort)
  · intro span hspan
    have hlong := hreads.long
    rw [Option.mem_def.mp hspan] at hlong
    unfold longDescription? at hlong
    split at hlong
    · cases hlong
    · exact holds_of_content? (first_of_description? hlong)
  · intro tag htag
    obtain ⟨position, stop, -, hread⟩ := hreads.exists_bounds htag
    exact Tag.stands_of_read hread

end Block

end DocLint

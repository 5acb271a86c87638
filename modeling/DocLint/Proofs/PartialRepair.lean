import DocLint.Proofs.Inspection
import DocLint.Proofs.WellFormed

/-!
# What some edits do to a comment

Take a well-formed source and any of the edits that a pass asks for. This module says what becomes
of each comment when they are applied. Its descriptions stay, the answer to whether it is inherited
stays, and of its tags exactly those parameter tags change that an edit is aimed at: the text on
their line is respaced.

The reason is that a text has one place only. A text that an edit is aimed at is the first text of a
parameter tag. So it is no part of a description, and whichever comment counts it among its texts
has it as the first text of that same tag.
-/

namespace DocLint

/-- Lists correspond if they correspond to the same list. -/
theorem forall₂_of_common {α β γ : Type} {rel : α → β → Prop} {rel' : α → γ → Prop}
    {items : List α} {left : List β} {right : List γ} (hleft : List.Forall₂ rel items left)
    (hright : List.Forall₂ rel' items right) :
    List.Forall₂ (fun one other => ∃ item ∈ items, rel item one ∧ rel' item other) left right := by
  induction hleft generalizing right with
  | nil =>
    cases hright
    exact .nil
  | @cons item one items left hone _ ih =>
    cases hright with
    | cons hother hright =>
      apply List.Forall₂.cons
      · exact ⟨item, List.mem_cons_self, hone, hother⟩
      · apply (ih hright).imp
        rintro one other ⟨item, hitem, hrels⟩
        exact ⟨item, List.mem_cons_of_mem _ hitem, hrels⟩

/-- Corresponding lists are equal if corresponding items are. -/
theorem eq_of_forall₂ {α : Type} {rel : α → α → Prop} {items items' : List α}
    (hitems : List.Forall₂ rel items items')
    (hsame : ∀ item ∈ items, ∀ item', rel item item' → item' = item) : items' = items := by
  induction hitems with
  | nil => rfl
  | @cons item item' rest rest' hitem _ ih =>
    rw [hsame item List.mem_cons_self item' hitem,
      ih fun other hother => hsame other (List.mem_cons_of_mem item hother)]

/-- Corresponding options are equal if corresponding values are. -/
theorem eq_of_optionRel {α : Type} {rel : α → α → Prop} {value? value?' : Option α}
    (hrel : Option.Rel rel value? value?')
    (hsame : ∀ value ∈ value?, ∀ value', rel value value' → value' = value) : value?' = value? := by
  cases hrel with
  | none => rfl
  | some hvalue => rw [hsame _ rfl _ hvalue]

/-! ## Where edits are aimed -/

/-- Whether some edit is aimed at the position. -/
def Edit.aimAt (edits : List Edit) (position : Int) : Bool :=
  edits.any fun edit => edit.position == position

theorem Edit.aimAt_eq_true_iff {edits : List Edit} {position : Int} :
    Edit.aimAt edits position = true ↔ ∃ edit ∈ edits, edit.position = position := by
  simp [Edit.aimAt]

/-- A slot that no edit is aimed at stays. -/
theorem Slot.Rewrites.eq_of_aimAt {edits : List Edit} {slot slot' : Slot}
    (hslot : Slot.Rewrites (Edit.Writes edits) slot slot') (hfront : 0 ≤ slot.position)
    (haim : Edit.aimAt edits slot.position = false) : slot' = slot := by
  rcases hslot with rfl | ⟨-, content, hwrites, -⟩
  · rfl
  · have htrue := Edit.aimAt_eq_true_iff.mpr ⟨_, hwrites.2 hfront, rfl⟩
    rw [haim] at htrue
    cases htrue

/-- The edit respaces the first text of a parameter tag, which stands on the tag's line. -/
def Edit.Mends (source : Source) (edit : Edit) : Prop :=
  ∃ slot stop tag first rest, Tag.Stretches source slot stop tag ∧ slot.content = "@param" ∧
    Tag.texts source slot.position stop = first :: rest ∧ first.line = slot.line ∧
    edit.position = first.position ∧ Respaced first edit.content

section

variable {source : Source} {edit : Edit}

/-- **The edits of a comment mend parameter tags.** -/
theorem Edit.mends_of_mem_spacingEdits (hwell : source.WellFormed) {block : Block} {token : Token}
    (hreads : block.Reads source token) (hedit : edit ∈ block.spacingEdits) :
    edit.Mends source := by
  obtain ⟨tag, htag, hedit⟩ := Block.exists_param_of_mem_spacingEdits hedit
  obtain ⟨hmem, hname⟩ := Block.mem_tagsNamed.mp htag
  obtain ⟨position, stop, hbounds, hread⟩ := hreads.exists_bounds hmem
  obtain ⟨slot, rfl, hstretches⟩ := hwell.exists_stretches hreads hbounds hread
  obtain ⟨inline, hinline, hvariable, rfl⟩ := ParamTag.eq_of_mem_edits hedit
  rw [hstretches.eq_ofTexts] at hinline hname
  obtain ⟨first, rest, htexts, hline, rfl⟩ := Tag.inline?_ofTexts_eq_some _ _ _ _ hinline
  rw [Tag.name_ofTexts] at hname
  exact ⟨slot, stop, tag, first, rest, hstretches, hname, htexts, hline, rfl, hvariable, rfl⟩

/-- An edit that mends a tag is aimed at a token. -/
theorem Edit.Mends.bounds (hmends : edit.Mends source) :
    0 ≤ edit.position ∧ edit.position < source.size := by
  obtain ⟨slot, stop, tag, first, rest, hstretches, -, htexts, -, hposition, -⟩ := hmends
  have hfirst : first ∈ Tag.texts source slot.position stop := htexts ▸ List.mem_cons_self
  rw [hposition]
  exact Source.bounds_of_mem_slots (hstretches.mem_texts_iff.mp hfirst).1

/-- **An edit has one place.** Wherever an edited text counts among the texts of a tag, the tag is a
parameter tag and the text is its first one. -/
theorem Edit.Mends.eq_first (hmends : edit.Mends source) {slot : Slot} {stop : Int} {tag : Tag}
    (hstretches : tag.Stretches source slot stop) {first text : Slot} {rest : List Slot}
    (htexts : Tag.texts source slot.position stop = first :: rest)
    (htext : text ∈ Tag.texts source slot.position stop) (haim : edit.position = text.position) :
    text = first ∧ slot.content = "@param" ∧ first.line = slot.line ∧
      Respaced first edit.content := by
  obtain ⟨slot', stop', tag', first', rest', hstretches', hname, htexts', hline, hposition,
    hrespaced⟩ := hmends
  have hfirst' : first' ∈ Tag.texts source slot'.position stop' := htexts' ▸ List.mem_cons_self
  obtain rfl : text = first' := by
    apply Source.eq_of_mem_slots (hstretches.mem_texts_iff.mp htext).1
      (hstretches'.mem_texts_iff.mp hfirst').1
    rw [← haim, hposition]
  obtain ⟨rfl, rfl⟩ := hstretches.head_unique hstretches' htexts htexts' htext
  exact ⟨rfl, hname, hline, hrespaced⟩

/-- No edit is aimed at a description. -/
theorem Block.Reads.aimAt_description {block : Block} {token : Token}
    (hreads : block.Reads source token) {edits : List Edit}
    (hmends : ∀ edit ∈ edits, edit.Mends source) {slot : Slot}
    (hslot : slot ∈ block.descriptionSlots) : Edit.aimAt edits slot.position = false := by
  rw [Bool.eq_false_iff]
  intro haim
  obtain ⟨edit, hedit, haim⟩ := Edit.aimAt_eq_true_iff.mp haim
  obtain ⟨tagSlot, stop, tag, first, rest, hstretches, -, htexts, -, hposition, -⟩ :=
    hmends edit hedit
  have hfirst : first ∈ Tag.texts source tagSlot.position stop := htexts ▸ List.mem_cons_self
  apply Source.Untagged.ne_text hreads.token? hreads.kind (hreads.untagged slot hslot) hstretches
    hfirst
  rw [← hposition, haim]

end

/-! ## Tags -/

/-- The tag with another text on its line. -/
def Tag.withInline (tag : Tag) (inline : Inline) : Tag :=
  { tag with inline? := some inline }

/-- What becomes of a tag under edits. -/
inductive Tag.Repaired (edits : List Edit) : Tag → Tag → Prop
  /-- A tag stays if no edit is aimed at the text on its line. -/
  | kept {tag : Tag} (haim : ∀ inline ∈ tag.inline?, Edit.aimAt edits inline.position = false) :
    Repaired edits tag tag
  /-- A parameter tag is respaced if an edit is aimed at it. -/
  | respaced {tag : Tag} {inline : Inline} (hname : tag.name = "@param")
    (hinline : tag.inline? = some inline) (haim : Edit.aimAt edits inline.position = true)
    (hvariable : (ParamText.parse inline.text).variableName ≠ "") :
    Repaired edits tag
      (tag.withInline ⟨inline.position, (ParamText.parse inline.text).canonical⟩)

namespace Tag.Repaired

variable {edits : List Edit} {tag tag' : Tag}

theorem name_eq (hrepaired : Repaired edits tag tag') : tag'.name = tag.name := by
  cases hrepaired <;> rfl

theorem position_eq (hrepaired : Repaired edits tag tag') : tag'.position = tag.position := by
  cases hrepaired <;> rfl

theorem line_eq (hrepaired : Repaired edits tag tag') : tag'.line = tag.line := by
  cases hrepaired <;> rfl

theorem isSome_inline (hrepaired : Repaired edits tag tag') :
    tag'.inline?.isSome = tag.inline?.isSome := by
  cases hrepaired with
  | kept => rfl
  | respaced _ hinline => rw [hinline, withInline, Option.isSome_some, Option.isSome_some]

/-- Only parameter tags change. -/
theorem eq_of_name_ne (hrepaired : Repaired edits tag tag') (hname : tag.name ≠ "@param") :
    tag' = tag := by
  cases hrepaired with
  | kept => rfl
  | respaced hparam => exact absurd hparam hname

end Tag.Repaired

section

variable {source source' : Source} {edits : List Edit}

/-- No edit is aimed at a later text of a tag, because an edited text is the first one. -/
theorem Tag.Stretches.rest_eq {slot : Slot} {stop : Int} {tag : Tag}
    (hstretches : tag.Stretches source slot stop) (hmends : ∀ edit ∈ edits, edit.Mends source)
    {first : Slot} {rest rest' : List Slot}
    (htexts : texts source slot.position stop = first :: rest)
    (hrest : Slot.RewritesAll (Edit.Writes edits) rest rest') : rest' = rest := by
  have hordered := pairwise_texts source slot.position stop
  rw [htexts] at hordered
  apply eq_of_forall₂ hrest
  intro text htext text' hslot
  have hlater := (List.pairwise_cons.mp hordered).1 text htext
  have hmem : text ∈ texts source slot.position stop := htexts ▸ List.mem_cons_of_mem first htext
  apply hslot.eq_of_aimAt (Source.bounds_of_mem_slots (hstretches.mem_texts_iff.mp hmem).1).1
  rw [Bool.eq_false_iff]
  intro haim
  obtain ⟨edit, hedit, haim⟩ := Edit.aimAt_eq_true_iff.mp haim
  rw [((hmends edit hedit).eq_first hstretches htexts hmem haim).1] at hlater
  exact Int.lt_irrefl _ hlater

/-- A tag whose first text an edit is aimed at is respaced. -/
theorem Tag.Stretches.repaired_first {slot : Slot} {stop : Int} {tag : Tag}
    (hstretches : tag.Stretches source slot stop) (hmends : ∀ edit ∈ edits, edit.Mends source)
    (hforce : Edit.InForce source' edits) {first first' : Slot} {rest : List Slot}
    (htexts : texts source slot.position stop = first :: rest)
    (hfirst : Slot.Rewrites (Edit.Writes edits) first first')
    (hat' : source'.token? first'.position = some first'.token)
    (haim : Edit.aimAt edits first.position = true) :
    Tag.Repaired edits (ofTexts slot.token slot.position stop (first :: rest))
      (ofTexts slot.token slot.position stop (first' :: rest)) := by
  obtain ⟨edit, hedit, haimed⟩ := Edit.aimAt_eq_true_iff.mp haim
  obtain ⟨-, hname, hline, hvariable, hcanonical⟩ :=
    (hmends edit hedit).eq_first hstretches htexts (htexts ▸ List.mem_cons_self) haimed
  have hcontent : first'.content = (ParamText.parse first.content).canonical := by
    obtain ⟨token, hat, hnew⟩ := hforce edit hedit
    rw [hfirst.position_eq, ← haimed, hat, Option.some.injEq] at hat'
    rw [Slot.content, ← hat', hnew, hcanonical]
  have hline' : first'.line = slot.token.line := hfirst.line_eq.trans hline
  have hinline : (ofTexts slot.token slot.position stop (first :: rest)).inline? =
      some ⟨first.position, first.content⟩ := by
    rw [inline?_ofTexts_cons, if_pos hline]
  have hnew : ofTexts slot.token slot.position stop (first' :: rest) =
      (ofTexts slot.token slot.position stop (first :: rest)).withInline
        ⟨first.position, (ParamText.parse first.content).canonical⟩ := by
    rw [ofTexts, ofTexts, if_pos hline, if_pos hline', hcontent, hfirst.position_eq]
    rfl
  rw [hnew]
  apply Tag.Repaired.respaced _ hinline haim hvariable
  rw [name_ofTexts]
  exact hname

/-- **What becomes of a tag.** -/
theorem Tag.Stretches.repaired {slot : Slot} {stop : Int} {tag tag' : Tag}
    (hstretches : tag.Stretches source slot stop)
    (hrewrites : source.Rewrites (Edit.Writes edits) source')
    (hmends : ∀ edit ∈ edits, edit.Mends source) (hforce : Edit.InForce source' edits)
    (hread' : Tag.read source' slot.position stop = .ok tag') : Tag.Repaired edits tag tag' := by
  obtain ⟨token', hat', -, rfl⟩ := Tag.read_eq_ok_iff.mp hread'
  have hne : slot.kind ≠ .docString := by
    rw [hstretches.kind]
    decide
  have hat := hrewrites.token?_eq_of_kind_ne (Source.token?_of_mem_slots hstretches.mem) hne
  obtain rfl := Option.some.inj (hat.symm.trans hat')
  have hrel := hrewrites.texts_rel slot.position stop
  rw [hstretches.eq_ofTexts]
  cases htexts : texts source slot.position stop with
  | nil =>
    rw [htexts] at hrel
    generalize texts source' slot.position stop = texts' at hrel ⊢
    cases hrel
    exact .kept fun inline hinline => nomatch hinline
  | cons first rest =>
    cases htexts' : texts source' slot.position stop with
    | nil =>
      rw [htexts, htexts'] at hrel
      cases hrel
    | cons first' rest' =>
      have hhead : first ∈ texts source slot.position stop := htexts ▸ List.mem_cons_self
      have hhead' : first' ∈ texts source' slot.position stop := htexts' ▸ List.mem_cons_self
      rw [htexts, htexts'] at hrel
      cases hrel with
      | cons hfirst hrest =>
        obtain rfl := hstretches.rest_eq hmends htexts hrest
        cases haim : Edit.aimAt edits first.position with
        | false =>
          have hfront := (Source.bounds_of_mem_slots (hstretches.mem_texts_iff.mp hhead).1).1
          obtain rfl := hfirst.eq_of_aimAt hfront haim
          apply Tag.Repaired.kept
          intro inline hinline
          obtain ⟨text, later, htext, -, rfl⟩ := inline?_ofTexts_eq_some _ _ _ _ hinline
          rw [← (List.cons.inj htext).1]
          exact haim
        | true =>
          have hat' := (Source.mem_stretch (List.mem_filter.mp hhead').1).1
          exact hstretches.repaired_first hmends hforce htexts hfirst hat' haim

/-! ## Comments -/

/-- What becomes of a comment under edits. -/
structure Block.Repaired (edits : List Edit) (block block' : Block) : Prop where
  /-- Its parts correspond. -/
  rewrites : Block.Rewrites (Edit.Writes edits) block block'
  first_eq : block'.firstContent? = block.firstContent?
  short_eq : block'.short? = block.short?
  long_eq : block'.long? = block.long?
  inherits_eq : block'.inheritsDoc = block.inheritsDoc
  /-- Some of its parameter tags are respaced. -/
  tags : List.Forall₂ (Tag.Repaired edits) block.tags block'.tags

/-- Of texts without blanks at their ends, respacing brings no marker about. -/
theorem keepsMarker_of_respaced_trimmed {slot : Slot} {content : String}
    (hrespaced : Respaced slot content) (htrimmed : Text.Trimmed slot.content) :
    Block.KeepsMarker content.toList slot.content.toList := by
  obtain ⟨hvariable, rfl⟩ := hrespaced
  obtain ⟨reading, htext, -, hcanonical⟩ := ParamText.exists_reading_parse hvariable
  obtain ⟨hhead, hlast⟩ := htrimmed
  rw [← htext] at hhead hlast ⊢
  rw [hcanonical, String.toList_ofList]
  exact Block.keepsMarker_of_canonical reading hhead hlast

/-- A comment is inherited after edits exactly when it was before. -/
theorem Block.Reads.inheritsDoc_eq (hwell : source.WellFormed)
    (hrewrites : source.Rewrites (Edit.Writes edits) source') {block block' : Block}
    {token token' : Token} (hreads : block.Reads source token)
    (hreads' : block'.Reads source' token') (hopener : block'.opener = block.opener)
    (hcloser : block'.closer = block.closer) : block'.inheritsDoc = block.inheritsDoc := by
  rw [Bool.eq_iff_iff, Block.inheritsDoc_eq_true_iff, Block.inheritsDoc_eq_true_iff, hreads.text,
    hreads'.text, hopener, hcloser]
  refine ⟨?_, ?_⟩
  · apply hrewrites.marked_of_marked_text
    intro slot hslot hkind content hwrites
    exact keepsMarker_of_respaced_trimmed hwrites.1 (hwell.trimmed slot hslot hkind)
  · apply hrewrites.marked_text
    intro slot content hwrites
    exact keepsMarker_of_respaced hwrites.1

/-- A description stays if no edit is aimed at it. -/
theorem Span.Rewrites.eq_of_aimAt {span span' : Span}
    (hspan : Span.Rewrites (Edit.Writes edits) span span')
    (hslots : ∀ slot ∈ span.slots, 0 ≤ slot.position ∧ Edit.aimAt edits slot.position = false) :
    span' = span := by
  have hsame : ∀ slot ∈ span.slots, ∀ slot', Slot.Rewrites (Edit.Writes edits) slot slot' →
      slot' = slot := by
    intro slot hslot slot' hrel
    exact hrel.eq_of_aimAt (hslots slot hslot).1 (hslots slot hslot).2
  have hfirst := hsame span.first List.mem_cons_self span'.first hspan.first
  have hmore := eq_of_forall₂ hspan.more fun slot hslot =>
    hsame slot (List.mem_cons_of_mem span.first hslot)
  rcases span' with ⟨first', more'⟩
  rw [show first' = span.first from hfirst, show more' = span.more from hmore]

/-- **What becomes of a comment.** -/
theorem Block.Reads.repaired (hwell : source.WellFormed)
    (hrewrites : source.Rewrites (Edit.Writes edits) source')
    (hmends : ∀ edit ∈ edits, edit.Mends source) (hforce : Edit.InForce source' edits)
    {block block' : Block} {token token' : Token} (hreads : block.Reads source token)
    (hreads' : block'.Reads source' token')
    (hblock : Block.Rewrites (Edit.Writes edits) block block') :
    Block.Repaired edits block block' := by
  have hslots : ∀ slot ∈ block.descriptionSlots,
      0 ≤ slot.position ∧ Edit.aimAt edits slot.position = false := by
    intro slot hslot
    exact ⟨(Source.bounds_of_mem_slots (hreads.untagged slot hslot).mem).1,
      hreads.aimAt_description hmends hslot⟩
  refine ⟨hblock, ?_, ?_, ?_, ?_, ?_⟩
  · apply eq_of_optionRel hblock.first
    intro slot hslot slot' hrel
    have hmem := mem_descriptionSlots_iff.mpr (Or.inl (Or.inl hslot))
    exact hrel.eq_of_aimAt (hslots slot hmem).1 (hslots slot hmem).2
  · apply eq_of_optionRel hblock.short
    intro span hspan span' hrel
    apply hrel.eq_of_aimAt
    intro slot hslot
    exact hslots slot (mem_descriptionSlots_iff.mpr (Or.inl (Or.inr ⟨span, hspan, hslot⟩)))
  · apply eq_of_optionRel hblock.long
    intro span hspan span' hrel
    apply hrel.eq_of_aimAt
    intro slot hslot
    exact hslots slot (mem_descriptionSlots_iff.mpr (Or.inr ⟨span, hspan, hslot⟩))
  · exact hreads.inheritsDoc_eq hwell hrewrites hreads' hblock.opener_eq hblock.closer_eq
  · have hat := hrewrites.token?_eq_of_kind_ne hreads.token? (by rw [hreads.kind]; decide)
    obtain rfl := Option.some.inj (hat.symm.trans (hblock.opener_eq ▸ hreads'.token?))
    have htags := Tag.readAll_eq_ok_iff.mp hreads.tags
    have htags' := Tag.readAll_eq_ok_iff.mp hreads'.tags
    rw [hblock.closer_eq] at htags'
    apply (forall₂_of_common htags htags').imp
    rintro tag tag' ⟨⟨position, stop⟩, hbounds, hread, hread'⟩
    obtain ⟨slot, rfl, hstretches⟩ := hwell.exists_stretches hreads hbounds hread
    exact hstretches.repaired hrewrites hmends hforce hread'

end

namespace Block.Repaired

variable {edits : List Edit} {block block' : Block} (hrepaired : Block.Repaired edits block block')

include hrepaired

/-- The tags of a name correspond. -/
theorem tagsNamed (name : String) :
    List.Forall₂ (Tag.Repaired edits) (block.tagsNamed name) (block'.tagsNamed name) := by
  apply List.rel_filter _ hrepaired.tags
  intro tag tag' htag
  simp only [htag.name_eq]

/-- Tags of any other name than that of parameters stay. -/
theorem tagsNamed_eq {name : String} (hname : name ≠ "@param") :
    block'.tagsNamed name = block.tagsNamed name := by
  apply eq_of_forall₂ (hrepaired.tagsNamed name)
  intro tag htag tag' hrel
  apply hrel.eq_of_name_ne
  rw [(Block.mem_tagsNamed.mp htag).2]
  exact hname

end Block.Repaired

end DocLint

import DocLint.Proofs.InheritMarker
import DocLint.Proofs.Rewriting
import DocLint.Proofs.RuleOutcome

/-!
# Comments that differ in texts only

In two sources that differ in texts only, a comment is read alike: its parts stand at the same
positions and on the same lines, and only texts of text tokens may differ. Rules that look at
positions and lines therefore find the same in both, and where the new texts keep the inherit
marker, a comment that was inherited still is.
-/

namespace DocLint

variable {allowed : Slot → String → Prop} {source source' : Source}

/-! ## Parts of a comment -/

/-- Corresponding slots, in order. -/
abbrev Slot.RewritesAll (allowed : Slot → String → Prop) (slots slots' : List Slot) : Prop :=
  List.Forall₂ (Slot.Rewrites allowed) slots slots'

/-- Corresponding slots go on with a description equally far. -/
theorem SpanTail.after_rel {slots slots' : List Slot}
    (hslots : Slot.RewritesAll allowed slots slots') (line : Int) :
    Slot.RewritesAll allowed (SpanTail.after line slots).slots (SpanTail.after line slots').slots ∧
      (SpanTail.after line slots').ended = (SpanTail.after line slots).ended := by
  induction hslots generalizing line with
  | nil => exact ⟨.nil, rfl⟩
  | @cons slot slot' rest rest' hslot _ ih =>
    unfold SpanTail.after
    rw [hslot.kind_eq, hslot.line_eq]
    split
    · exact ⟨.nil, rfl⟩
    · split
      · exact ⟨.cons hslot (ih slot.line).1, (ih slot.line).2⟩
      · exact ⟨.nil, rfl⟩
    · exact ih line

/-- Descriptions with corresponding lines. -/
structure Span.Rewrites (allowed : Slot → String → Prop) (span span' : Span) : Prop where
  /-- The first lines correspond. -/
  first : Slot.Rewrites allowed span.first span'.first
  /-- The further lines correspond. -/
  more : Slot.RewritesAll allowed span.more span'.more

/-- The last lines correspond too. -/
theorem Span.Rewrites.last {span span' : Span} (hspan : Span.Rewrites allowed span span') :
    Slot.Rewrites allowed span.last span'.last := by
  obtain ⟨hfirst, hmore⟩ := hspan
  unfold Span.last
  generalize span.first = first, span'.first = first', span.more = more, span'.more = more'
    at hfirst hmore
  induction hmore generalizing first first' with
  | nil => exact hfirst
  | cons hslot _ ih =>
    rw [List.getLastD_cons, List.getLastD_cons]
    exact ih _ _ hslot

theorem Span.Rewrites.isSingleLine_eq {span span' : Span}
    (hspan : Span.Rewrites allowed span span') : span'.isSingleLine = span.isSingleLine := by
  unfold Span.isSingleLine
  obtain ⟨-, hmore⟩ := hspan
  generalize span.more = more, span'.more = more' at hmore ⊢
  cases hmore <;> rfl

/-- Texts on the line of a tag, in corresponding slots. -/
def Inline.Rewrites (allowed : Slot → String → Prop) (inline inline' : Inline) : Prop :=
  ∃ slot slot', Slot.Rewrites allowed slot slot' ∧ inline = ⟨slot.position, slot.content⟩ ∧
    inline' = ⟨slot'.position, slot'.content⟩

/-- Tags whose tokens correspond. -/
structure Tag.Rewrites (allowed : Slot → String → Prop) (tag tag' : Tag) : Prop where
  /-- The names are the texts of corresponding slots. -/
  name : ∃ slot slot', Slot.Rewrites allowed slot slot' ∧ slot.content = tag.name ∧
    slot'.content = tag'.name
  position_eq : tag'.position = tag.position
  line_eq : tag'.line = tag.line
  /-- The texts on their lines correspond. -/
  inline : Option.Rel (Inline.Rewrites allowed) tag.inline? tag'.inline?

/-- A text on the line of a tag corresponds to one on the line of the other. -/
theorem Tag.Rewrites.exists_inline {tag tag' : Tag} (htag : Tag.Rewrites allowed tag tag')
    {inline' : Inline} (hinline' : tag'.inline? = some inline') :
    ∃ inline, tag.inline? = some inline ∧ Inline.Rewrites allowed inline inline' := by
  have hinline := htag.inline
  rw [hinline'] at hinline
  generalize tag.inline? = inline? at hinline
  cases hinline with
  | some hinline => exact ⟨_, rfl, hinline⟩

/-- Tags made from corresponding tokens correspond. -/
theorem Tag.rewrites_ofTexts {position stop : Int} {token token' : Token} {slots slots' : List Slot}
    (htoken : Slot.Rewrites allowed ⟨position, token⟩ ⟨position, token'⟩)
    (hslots : Slot.RewritesAll allowed slots slots') :
    Tag.Rewrites allowed (ofTexts token position stop slots)
      (ofTexts token' position stop slots') := by
  have hline : token'.line = token.line := htoken.line_eq
  refine ⟨⟨_, _, htoken, ?_, ?_⟩, ?_, ?_, ?_⟩
  · rw [name_ofTexts]
  · rw [name_ofTexts]
  · rw [position_ofTexts, position_ofTexts]
  · rw [line_ofTexts, line_ofTexts, hline]
  · cases hslots with
    | nil => exact .none
    | @cons first first' rest rest' hfirst hrest =>
      rw [inline?_ofTexts_cons, inline?_ofTexts_cons, hfirst.line_eq, hline]
      split
      · exact .some ⟨first, first', hfirst, rfl, rfl⟩
      · exact .none

/-- Comments whose parts correspond. -/
structure Block.Rewrites (allowed : Slot → String → Prop) (block block' : Block) : Prop where
  opener_eq : block'.opener = block.opener
  closer_eq : block'.closer = block.closer
  first : Option.Rel (Slot.Rewrites allowed) block.firstContent? block'.firstContent?
  short : Option.Rel (Span.Rewrites allowed) block.short? block'.short?
  long : Option.Rel (Span.Rewrites allowed) block.long? block'.long?
  tags : List.Forall₂ (Tag.Rewrites allowed) block.tags block'.tags

theorem Block.Rewrites.isSome_first {block block' : Block}
    (hblock : Block.Rewrites allowed block block') :
    block'.firstContent?.isSome = block.firstContent?.isSome := by
  have hfirst := hblock.first
  generalize block.firstContent? = first?, block'.firstContent? = first?' at hfirst ⊢
  cases hfirst <;> rfl

theorem Block.Rewrites.isSome_short {block block' : Block}
    (hblock : Block.Rewrites allowed block block') :
    block'.short?.isSome = block.short?.isSome := by
  have hshort := hblock.short
  generalize block.short? = short?, block'.short? = short?' at hshort ⊢
  cases hshort <;> rfl

namespace Source.Rewrites

variable (hrewrites : Source.Rewrites allowed source source')

include hrewrites

/-! ## Reading -/

/-- A description is read alike. -/
theorem spanRead_rel {first first' : Slot} (hfirst : Slot.Rewrites allowed first first')
    {closer : Int} {span : Span} (hread : Span.read source first closer = .ok span) :
    ∃ span', Span.read source' first' closer = .ok span' ∧ Span.Rewrites allowed span span' := by
  obtain ⟨hends, rfl⟩ := Span.read_eq_ok_iff.mp hread
  obtain ⟨hslots, hmissing⟩ := hrewrites.corresponds.stretch_rel (first.position + 1) closer
  obtain ⟨hmore, hended⟩ := SpanTail.after_rel hslots first.line
  refine ⟨_, Span.read_eq_ok_iff.mpr ⟨?_, rfl⟩, hfirst, ?_⟩
  · unfold Span.tail at hends ⊢
    rw [hfirst.position_eq, hfirst.line_eq, hended, hmissing]
    exact hends
  · unfold Span.tail
    rw [hfirst.position_eq, hfirst.line_eq]
    exact hmore

theorem description?_rel {first? first?' : Option Slot}
    (hfirst : Option.Rel (Slot.Rewrites allowed) first? first?') {closer : Int}
    {span? : Option Span} (hread : Block.description? source first? closer = .ok span?) :
    ∃ span?', Block.description? source' first?' closer = .ok span?' ∧
      Option.Rel (Span.Rewrites allowed) span? span?' := by
  cases hfirst with
  | none =>
    obtain rfl := Except.ok.inj hread
    exact ⟨none, rfl, .none⟩
  | some hfirst =>
    unfold Block.description? at hread ⊢
    dsimp only at hread ⊢
    rw [hfirst.kind_eq]
    split at hread
    · rename_i hkind
      obtain ⟨span, hspan, hsome⟩ := except_bind_eq_ok_iff.mp hread
      obtain rfl := Except.ok.inj hsome
      obtain ⟨span', hspan', hrel⟩ := hrewrites.spanRead_rel hfirst hspan
      rw [if_pos hkind, hspan']
      exact ⟨some span', rfl, .some hrel⟩
    · rename_i hkind
      obtain rfl := Except.ok.inj hread
      rw [if_neg hkind]
      exact ⟨none, rfl, .none⟩

theorem content?_rel (start closer : Int) :
    Option.Rel (Slot.Rewrites allowed) (Block.content? source start closer)
      (Block.content? source' start closer) :=
  hrewrites.corresponds.next?_rel hrewrites.alike _ _ _

theorem longDescription?_rel {short? short?' : Option Span}
    (hshort : Option.Rel (Span.Rewrites allowed) short? short?') {closer : Int}
    {span? : Option Span} (hread : Block.longDescription? source short? closer = .ok span?) :
    ∃ span?', Block.longDescription? source' short?' closer = .ok span?' ∧
      Option.Rel (Span.Rewrites allowed) span? span?' := by
  cases hshort with
  | none =>
    obtain rfl := Except.ok.inj hread
    exact ⟨none, rfl, .none⟩
  | some hshort =>
    unfold Block.longDescription? at hread ⊢
    dsimp only at hread ⊢
    rw [hshort.last.position_eq]
    exact hrewrites.description?_rel (hrewrites.content?_rel _ _) hread

theorem texts_rel (position stop : Int) :
    Slot.RewritesAll allowed (Tag.texts source position stop)
      (Tag.texts source' position stop) := by
  unfold Tag.texts
  refine List.rel_filter (fun slot slot' hslot => ?_)
    (hrewrites.corresponds.stretch_rel (position + 1) stop).1
  simp only [hslot.kind_eq]

theorem tagRead_rel {position stop : Int} {tag : Tag}
    (hread : Tag.read source position stop = .ok tag) :
    ∃ tag', Tag.read source' position stop = .ok tag' ∧ Tag.Rewrites allowed tag tag' := by
  obtain ⟨token, hat, hmissing, rfl⟩ := Tag.read_eq_ok_iff.mp hread
  obtain ⟨token', hat', hslot⟩ := hrewrites.token? position token hat
  refine ⟨_, Tag.read_eq_ok_iff.mpr ⟨token', hat', ?_, rfl⟩, ?_⟩
  · rw [(hrewrites.corresponds.stretch_rel (position + 1) stop).2]
    exact hmissing
  · exact Tag.rewrites_ofTexts hslot (hrewrites.texts_rel position stop)

theorem tagsRead_rel {bounds : List (Int × Int)} {tags : List Tag}
    (hread : List.Forall₂ (fun pair tag => Tag.read source pair.1 pair.2 = .ok tag) bounds tags) :
    ∃ tags', List.Forall₂ (fun pair tag => Tag.read source' pair.1 pair.2 = .ok tag) bounds tags' ∧
      List.Forall₂ (Tag.Rewrites allowed) tags tags' := by
  induction hread with
  | nil => exact ⟨[], .nil, .nil⟩
  | cons htag _ ih =>
    obtain ⟨tag', hread', hrel⟩ := hrewrites.tagRead_rel htag
    obtain ⟨tags', hreads', hrels⟩ := ih
    exact ⟨tag' :: tags', .cons hread' hreads', .cons hrel hrels⟩

/-- **Comments are read alike.** -/
theorem reads_rel {token : Token} {block : Block} (hreads : block.Reads source token) :
    ∃ block', block'.Reads source' token ∧ Block.Rewrites allowed block block' := by
  have hat' := hrewrites.token?_eq_of_kind_ne hreads.token? (by rw [hreads.kind]; decide)
  have hfirst := hrewrites.content?_rel (block.opener + 1) block.closer
  rw [← hreads.first] at hfirst
  obtain ⟨short?, hshort, hshorts⟩ := hrewrites.description?_rel hfirst hreads.short
  obtain ⟨long?, hlong, hlongs⟩ := hrewrites.longDescription?_rel hshorts hreads.long
  obtain ⟨tags, htags, htagss⟩ :=
    hrewrites.tagsRead_rel (Tag.readAll_eq_ok_iff.mp hreads.tags)
  exact ⟨⟨block.opener, block.closer, Block.content? source' (block.opener + 1) block.closer,
      short?, long?, tags, source'.text (block.opener + 1) block.closer⟩,
    ⟨hat', hreads.kind, hreads.closer?, rfl, hshort, hlong, Tag.readAll_eq_ok_iff.mpr htags, rfl⟩,
    rfl, rfl, hfirst, hshorts, hlongs, htagss⟩

end Source.Rewrites

/-! ## Raw text -/

namespace Source

/-- The slots between two bounds. -/
def between (source : Source) (start stop : Int) : List Slot :=
  (source.slots.take (source.bound stop)).drop (source.bound start)

/-- The tokens of a source are those of its slots. -/
theorem toList_tokens (source : Source) : source.tokens.toList = source.slots.map Slot.token :=
  List.ext_getElem (by simp [slots]) fun index _ _ => by simp [slots]

/-- The text between two bounds is that of the slots between them. -/
theorem text_eq_join (source : Source) (start stop : Int) :
    source.text start stop = String.join ((source.between start stop).map Slot.content) := by
  unfold text textOf between
  rw [toList_tokens, ← List.map_take, ← List.map_drop, List.map_map]
  rfl

theorem mem_slots_of_mem_between {start stop : Int} {slot : Slot}
    (hslot : slot ∈ source.between start stop) : slot ∈ source.slots :=
  List.mem_of_mem_take (List.mem_of_mem_drop hslot)

theorem Corresponds.between_rel {rel : Slot → Slot → Prop}
    (hcorresponds : source.Corresponds rel source') (start stop : Int) :
    List.Forall₂ rel (source.between start stop) (source'.between start stop) := by
  have hbound : source'.bound = source.bound := by
    funext position
    unfold bound
    rw [hcorresponds.size_eq]
  unfold between
  rw [hbound]
  exact List.forall₂_drop _ (List.forall₂_take _ hcorresponds.slots_rel)

end Source

/-- The marker is kept by a text if it is kept by each token. -/
theorem Block.KeepsMarker.join {slots slots' : List Slot}
    (hkeeps : List.Forall₂ (fun slot slot' => KeepsMarker slot.content.toList slot'.content.toList)
      slots slots') (hmarked : Marked (String.join (slots.map Slot.content)).toList) :
    Marked (String.join (slots'.map Slot.content)).toList := by
  have hpieces : ∀ list : List Slot, (String.join (list.map Slot.content)).toList =
      (list.map fun slot => slot.content.toList).flatten := by
    intro list
    rw [String.toList_join, List.flatMap_map, List.flatMap_def]
  rw [hpieces] at hmarked ⊢
  have hflat := KeepsMarker.flatten (List.forall₂_map_left_iff.mpr
    (List.forall₂_map_right_iff.mpr hkeeps))
  simpa using hflat [] [] (by simpa using hmarked)

namespace Source.Rewrites

variable (hrewrites : Source.Rewrites allowed source source') {start stop : Int}

include hrewrites

/-- Rewriting does not lose the marker if no new text does. -/
theorem marked_text
    (hkeeps : ∀ slot content, allowed slot content →
      Block.KeepsMarker slot.content.toList content.toList)
    (hmarked : Block.Marked (source.text start stop).toList) :
    Block.Marked (source'.text start stop).toList := by
  rw [text_eq_join] at hmarked ⊢
  apply Block.KeepsMarker.join _ hmarked
  apply (hrewrites.corresponds.between_rel start stop).imp
  intro slot slot' hslot
  rcases hslot with rfl | ⟨-, content, hallowed, rfl⟩
  · exact .refl _
  · exact hkeeps slot content hallowed

/-- Rewriting does not bring the marker about if no new text does. -/
theorem marked_of_marked_text
    (hkeeps : ∀ slot ∈ source.slots, slot.kind = .docString → ∀ content, allowed slot content →
      Block.KeepsMarker content.toList slot.content.toList)
    (hmarked : Block.Marked (source'.text start stop).toList) :
    Block.Marked (source.text start stop).toList := by
  have hbetween : List.Forall₂
      (fun slot slot' => slot ∈ source.slots ∧ Slot.Rewrites allowed slot slot')
      (source.between start stop) (source'.between start stop) := by
    refine List.forall₂_iff_zip.mpr ⟨(hrewrites.corresponds.between_rel start stop).length_eq, ?_⟩
    intro slot slot' hzip
    exact ⟨mem_slots_of_mem_between (List.of_mem_zip hzip).1,
      (List.forall₂_iff_zip.mp (hrewrites.corresponds.between_rel start stop)).2 hzip⟩
  rw [text_eq_join] at hmarked ⊢
  apply Block.KeepsMarker.join _ hmarked
  apply hbetween.flip.imp
  rintro slot' slot ⟨hslot, rfl | ⟨hkind, content, hallowed, rfl⟩⟩
  · exact .refl _
  · exact hkeeps slot hslot hkind content hallowed

end Source.Rewrites

/-! ## Sites -/

namespace Site

/-- The site with another source. -/
def on (site : Site) (source : Source) : Site :=
  { site with source }

@[simp]
theorem source_on (site : Site) (source : Source) : (site.on source).source = source := rfl

@[simp]
theorem anchor_on (site : Site) (source : Source) : (site.on source).anchor = site.anchor := rfl

@[simp]
theorem config_on (site : Site) (source : Source) : (site.on source).config = site.config := rfl

@[simp]
theorem letters_on (site : Site) (source : Source) : (site.on source).letters = site.letters := rfl

variable {site : Site} (halike : site.source.Alike source')

include halike

theorem line_on (position : Int) : (site.on source').line position = site.line position :=
  congrArg Check.ofExcept (halike.line_eq position)

theorem blame_on (position : Int) (violation : Violation) (edit? : Option Edit) :
    (site.on source').blame position violation edit? = site.blame position violation edit? := by
  rw [blame_eq, blame_eq, source_on, halike.line_eq]
  rfl

theorem expect_on (condition : Bool) (position : Int) (violation : Violation) :
    (site.on source').expect condition position violation =
      site.expect condition position violation := by
  unfold expect
  rw [blame_on halike]

theorem expectOrEdit_on (condition : Bool) (position : Int) (violation : Violation)
    (edit? : Option Edit) :
    (site.on source').expectOrEdit condition position violation edit? =
      site.expectOrEdit condition position violation edit? := by
  unfold expectOrEdit
  rw [blame_on halike]

end Site

/-! ## Rules about positions and lines -/

namespace Rule

variable {site : Site} (halike : site.source.Alike source')
variable {block block' : Block} (hblock : Block.Rewrites allowed block block')

include halike hblock

theorem firstLine_on : firstLine (site.on source') block' = firstLine site block := by
  have hfirst := hblock.first
  unfold firstLine
  rw [hblock.opener_eq]
  generalize block.firstContent? = first?, block'.firstContent? = first?' at hfirst ⊢
  cases hfirst with
  | none => rfl
  | some hfirst =>
    simp only [Check.require_some_bind, Site.line_on halike, Site.expect_on halike,
      hfirst.line_eq]

theorem shortOnOneLine_on :
    shortOnOneLine (site.on source') block' = shortOnOneLine site block := by
  have hshort := hblock.short
  unfold shortOnOneLine
  rw [hblock.opener_eq]
  generalize block.short? = short?, block'.short? = short?' at hshort ⊢
  cases hshort with
  | none => rfl
  | some hshort => simp only [Site.expect_on halike, hshort.isSingleLine_eq]

theorem shortDescription_on (present : Bool) (construct : String) :
    shortDescription (site.on source') block' present construct =
      shortDescription site block present construct := by
  unfold shortDescription
  rw [hblock.opener_eq, Site.expect_on halike]

theorem contentBefore?_on (position : Int) :
    Option.Rel Slot.Alike (contentBefore? site block position)
      (contentBefore? (site.on source') block' position) := by
  unfold contentBefore?
  rw [hblock.opener_eq]
  exact halike.prev?_rel _ _ _

theorem blankLineBefore_on {tag tag' : Tag} (hposition : tag'.position = tag.position)
    (hline : tag'.line = tag.line) (violation : Violation) :
    blankLineBefore (site.on source') block' tag' violation =
      blankLineBefore site block tag violation := by
  have hbefore := contentBefore?_on halike hblock tag.position
  unfold blankLineBefore
  rw [hposition, hline]
  generalize contentBefore? site block tag.position = before?,
    contentBefore? (site.on source') block' tag.position = before?' at hbefore ⊢
  cases hbefore with
  | none => rfl
  | some hbefore =>
    simp only [Check.require_some_bind, Site.expect_on halike, hbefore.line_eq]

theorem blankLineBeforeTags_on :
    blankLineBeforeTags (site.on source') block' = blankLineBeforeTags site block := by
  have hfirst : block'.firstContent?.map Slot.position = block.firstContent?.map Slot.position := by
    have hfirst := hblock.first
    generalize block.firstContent? = first?, block'.firstContent? = first?' at hfirst ⊢
    cases hfirst with
    | none => rfl
    | some hfirst => exact congrArg some hfirst.position_eq
  have htags := hblock.tags
  unfold blankLineBeforeTags
  rw [hfirst]
  generalize block.tags = tags, block'.tags = tags' at htags ⊢
  cases htags with
  | nil => rfl
  | cons htag _ =>
    dsimp only
    rw [htag.position_eq, blankLineBefore_on halike hblock htag.position_eq htag.line_eq]

/-- The rule about the first parameter tag finds the same if the parameter tags stand in the same
places. -/
theorem blankLineBeforeParams_on
    (hparams : List.Forall₂ (fun tag tag' => tag'.position = tag.position ∧ tag'.line = tag.line)
      (block.tagsNamed "@param") (block'.tagsNamed "@param")) :
    blankLineBeforeParams (site.on source') block' = blankLineBeforeParams site block := by
  have hhead : block'.tags.head?.map Tag.position = block.tags.head?.map Tag.position := by
    have htags := hblock.tags
    generalize block.tags = tags, block'.tags = tags' at htags ⊢
    cases htags with
    | nil => rfl
    | cons htag _ => exact congrArg some htag.position_eq
  unfold blankLineBeforeParams
  rw [hhead]
  generalize block.tagsNamed "@param" = params, block'.tagsNamed "@param" = params' at hparams ⊢
  cases hparams with
  | nil => rfl
  | cons hparam _ =>
    dsimp only
    rw [hparam.1, blankLineBefore_on halike hblock hparam.1 hparam.2]

theorem closerAlone_on : closerAlone (site.on source') block' = closerAlone site block := by
  have hlast := contentBefore?_on halike hblock block.closer
  unfold closerAlone lastContent?
  rw [hblock.opener_eq, hblock.closer_eq]
  generalize contentBefore? site block block.closer = last?,
    contentBefore? (site.on source') block' block.closer = last?' at hlast ⊢
  cases hlast with
  | none => rfl
  | some hlast =>
    simp only [Check.require_some_bind, Site.line_on halike, Site.expect_on halike,
      hlast.line_eq]

theorem noBlankBeforeCloser_on :
    noBlankBeforeCloser (site.on source') block' = noBlankBeforeCloser site block := by
  have hlast := contentBefore?_on halike hblock block.closer
  unfold noBlankBeforeCloser lastContent?
  rw [hblock.closer_eq]
  generalize contentBefore? site block block.closer = last?,
    contentBefore? (site.on source') block' block.closer = last?' at hlast ⊢
  cases hlast with
  | none => simp only [Site.line_on halike]; rfl
  | some hlast =>
    simp only [Check.require_some_bind, Site.line_on halike, Site.expect_on halike,
      hlast.line_eq]

theorem noBlankAfterComment_on (construct : String) :
    noBlankAfterComment (site.on source') block' construct =
      noBlankAfterComment site block construct := by
  unfold noBlankAfterComment
  rw [hblock.closer_eq, Site.anchor_on]
  simp only [Site.line_on halike, Site.expect_on halike]

theorem rightBelowOpenTag_on :
    rightBelowOpenTag (site.on source') block' = rightBelowOpenTag site block := by
  have hbelow : belowOpenTag source' site.anchor = belowOpenTag site.source site.anchor := by
    unfold belowOpenTag
    rw [halike.size_eq]
  unfold rightBelowOpenTag
  rw [hblock.opener_eq, Site.anchor_on, Site.source_on, hbelow]
  simp only [Site.line_on halike, Site.expect_on halike]

theorem blankLineAfterFileComment_on :
    blankLineAfterFileComment (site.on source') block' = blankLineAfterFileComment site block := by
  have hfollowing := halike.next?_rel (fun kind => kind != .whitespace) (block.closer + 1) none
  unfold blankLineAfterFileComment
  rw [hblock.closer_eq, Site.source_on]
  generalize site.source.next? _ (block.closer + 1) none = following?,
    source'.next? _ (block.closer + 1) none = following?' at hfollowing ⊢
  cases hfollowing with
  | none => rfl
  | some hfollowing =>
    simp only [Site.line_on halike, Site.expect_on halike, hfollowing.line_eq]

end Rule

end DocLint

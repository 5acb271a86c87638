import DocLint.Proofs.ShiftedComment

/-!
# Rules in a source that was moved

A rule compares lines with each other and texts with what is expected of them. Neither sees a move:
lines keep their distances, and texts stay. So a rule that can be checked finds the same after the
move, and it blames the same tokens, at their new positions and on their new lines.

This is a relation between two checks, `Check.ShiftsTo`, which goes through sequences and loops.
Every rule stands in it to itself.
-/

namespace DocLint

open Check

namespace Shift

variable (shift : Shift)

/-- The edit, aimed at the token that was moved. -/
def edit (edit : Edit) : Edit :=
  ⟨edit.position + shift.positions, edit.content⟩

/-- The diagnostic of the token that was moved. All but its coordinates stays. -/
def diagnostic (diagnostic : Diagnostic) : Diagnostic :=
  { diagnostic with
    position := diagnostic.position + shift.positions
    line := diagnostic.line + shift.lines
    edit? := diagnostic.edit?.map shift.edit }

/-- The site of the declaration that was moved. -/
def site (source' : Source) (site : Site) : Site :=
  { site with source := source', anchor := site.anchor + shift.positions }

/-- The parameter tag that was moved. -/
def param (param : ParamTag) : ParamTag :=
  ⟨shift.tag param.tag, param.fields⟩

theorem inlineText_tag (tag : Tag) : (shift.tag tag).inlineText = tag.inlineText := by
  rcases tag with ⟨_, _, _, _, _ | inline, _⟩ <;> rfl

/-- The fields of a parameter tag are read off its text. -/
theorem ofTag_tag (tag : Tag) :
    ParamTag.ofTag (shift.tag tag) = shift.param (ParamTag.ofTag tag) := by
  rcases tag with ⟨_, _, _, _, _ | inline, _⟩ <;> rfl

end Shift

/-! ## Checks that find the same -/

namespace Check

variable {α β γ δ : Type} {shift : Shift}

/-- If the first check ends with a value then the second one does, with the value moved; and what it
finds is what the first one finds, moved. -/
def ShiftsTo (shift : Shift) (move : α → β) (check : Check α) (check' : Check β) : Prop :=
  ∀ value, check.outcome = .ok value →
    check' = ⟨check.diagnostics.map shift.diagnostic, .ok (move value)⟩

theorem shiftsTo_done (move : α → β) (value : α) :
    (done value).ShiftsTo shift move (done (move value)) := by
  rintro _ ⟨⟩
  rfl

theorem shiftsTo_ofExcept {move : α → β} {result : Except Fault α} {result' : Except Fault β}
    (hresult : ∀ value, result = .ok value → result' = .ok (move value)) :
    (ofExcept result).ShiftsTo shift move (ofExcept result') := by
  intro value hvalue
  rw [hresult value hvalue]
  rfl

/-- A value that has to be there is there where the check for it ends well. -/
theorem require_outcome_eq_ok_iff {value? : Option α} {fault : Fault} {value : α} :
    (require value? fault).outcome = .ok value ↔ value? = some value := by
  cases value? <;> simp [require, ofExcept, Reporting.ofExcept]

theorem shiftsTo_require {move : α → β} (value? : Option α) (fault fault' : Fault) :
    (require value? fault).ShiftsTo shift move (require (value?.map move) fault') := by
  cases value? with
  | none => rintro _ ⟨⟩
  | some value => exact shiftsTo_done move value

/-- A sequence finds the same if its parts do. -/
theorem ShiftsTo.bind {move : α → β} {move' : γ → δ} {check : Check α} {check' : Check β}
    {next : α → Check γ} {next' : β → Check δ} (hcheck : check.ShiftsTo shift move check')
    (hnext : ∀ value, check.outcome = .ok value →
      (next value).ShiftsTo shift move' (next' (move value))) :
    (check >>= next).ShiftsTo shift move' (check' >>= next') := by
  intro result hresult
  obtain ⟨value, hvalue, hlast⟩ := bind_outcome_eq_ok.mp hresult
  rw [hcheck value hvalue]
  rcases check with ⟨diagnostics, outcome⟩
  obtain rfl : outcome = .ok value := hvalue
  rw [bind_ok, bind_ok, hnext value rfl result hlast, List.map_append]

/-- A loop finds the same if its body does. -/
theorem shiftsTo_forM {move : α → β} {items : List α} {body : α → Check Unit}
    {body' : β → Check Unit}
    (hbody : ∀ item ∈ items, (body item).ShiftsTo shift id (body' (move item))) :
    (items.forM body).ShiftsTo shift id ((items.map move).forM body') := by
  induction items with
  | nil => exact shiftsTo_done id ()
  | cons item items ih =>
    apply (hbody item List.mem_cons_self).bind
    intro _ _
    exact ih fun other hother => hbody other (List.mem_cons_of_mem item hother)

/-- The same where the items do not move. -/
theorem shiftsTo_forM_same {items : List α} {body body' : α → Check Unit}
    (hbody : ∀ item ∈ items, (body item).ShiftsTo shift id (body' item)) :
    (items.forM body).ShiftsTo shift id (items.forM body') := by
  have hloop : (items.forM body).ShiftsTo shift id ((items.map id).forM body') :=
    shiftsTo_forM hbody
  rwa [List.map_id] at hloop

end Check

theorem Rule.le_belowOpenTag (source : Source) (anchor : Int) :
    anchor ≤ belowOpenTag source anchor := by
  rw [belowOpenTag]
  split <;> omega

theorem Source.Moves.belowOpenTag_eq {shift : Shift} {blanks : List Token} {source source' : Source}
    (hmoves : source.Moves shift blanks source') (anchor : Int) :
    Rule.belowOpenTag source' (anchor + shift.positions) =
      Rule.belowOpenTag source anchor + shift.positions := by
  have hsize := hmoves.size_eq
  rw [Rule.belowOpenTag, Rule.belowOpenTag]
  split <;> split <;> omega

section Moved

variable {shift : Shift} {blanks : List Token} {site : Site} {source' : Source} {block : Block}

/-! ## Speaking up -/

section Speaking

variable {position position' : Int} (hmoves : site.source.Moves shift blanks source')
variable (hfront : 0 ≤ position) (hposition : position' = position + shift.positions)

include hmoves hfront hposition

theorem Site.shiftsTo_line :
    (site.line position).ShiftsTo shift (· + shift.lines)
      ((shift.site source' site).line position') := by
  apply shiftsTo_ofExcept
  intro line hline
  obtain ⟨token, hat, rfl⟩ := Source.exists_token?_of_line hline
  have hat' : source'.token? position' = some (shift.token token) := by
    rw [hposition, hmoves.token?_eq hfront, hat]
    rfl
  exact Source.line_of_token? hat'

/-- What is reported about a token is reported about it after the move. -/
theorem Site.shiftsTo_blame (violation : Violation) (edit? : Option Edit) :
    (site.blame position violation edit?).ShiftsTo shift id
      ((shift.site source' site).blame position' violation (edit?.map shift.edit)) := by
  intro _ hvalue
  rcases site.blame_eq_fail_or_found position violation edit? with
    ⟨fault, hblame⟩ | ⟨diagnostic, hblame, hworded⟩
  · rw [hblame] at hvalue
    cases hvalue
  · have hline : (shift.site source' site).source.line position' =
        .ok (diagnostic.line + shift.lines) :=
      congrArg outcome (Site.shiftsTo_line hmoves hfront hposition _ hworded.line)
    rw [hblame, blame_eq, hline, hposition, hworded.eq]
    rfl

theorem Site.shiftsTo_expectOrEdit {condition condition' : Bool}
    (hcondition : condition' = condition) (violation : Violation) (edit? : Option Edit) :
    (site.expectOrEdit condition position violation edit?).ShiftsTo shift id
      ((shift.site source' site).expectOrEdit condition' position' violation
        (edit?.map shift.edit)) := by
  rw [hcondition, expectOrEdit, expectOrEdit]
  cases condition with
  | true => exact shiftsTo_done id ()
  | false => exact Site.shiftsTo_blame hmoves hfront hposition violation edit?

theorem Site.shiftsTo_expect {condition condition' : Bool} (hcondition : condition' = condition)
    (violation : Violation) :
    (site.expect condition position violation).ShiftsTo shift id
      ((shift.site source' site).expect condition' position' violation) :=
  Site.shiftsTo_expectOrEdit hmoves hfront hposition hcondition violation none

/-- Two lines that are compared are compared after the move. -/
theorem Site.shiftsTo_expect_beq {line other line' other' : Int}
    (hlines : line' = other' ↔ line = other) (violation : Violation) :
    (site.expect (line == other) position violation).ShiftsTo shift id
      ((shift.site source' site).expect (line' == other') position' violation) := by
  apply Site.shiftsTo_expect hmoves hfront hposition
  rw [Bool.eq_iff_iff, beq_iff_eq, beq_iff_eq]
  exact hlines

end Speaking

namespace Rule

variable (hmoves : site.source.Moves shift blanks source') (hcounts : block.CountsFromFront)

include hmoves hcounts

/-! ## Descriptions -/

theorem shiftsTo_firstLine :
    (firstLine site block).ShiftsTo shift id
      (firstLine (shift.site source' site) (shift.block block)) := by
  apply (shiftsTo_require _ _ _).bind
  intro first _
  apply (Site.shiftsTo_line hmoves hcounts.opener rfl).bind
  intro opening _
  have hfront := hcounts.opener
  apply Site.shiftsTo_expect_beq hmoves (by omega) (Int.add_right_comm _ _ _)
  rw [Shift.line_slot]
  omega

theorem shiftsTo_shortCapital (policy : Capitalization) :
    (shortCapital site block policy).ShiftsTo shift id
      (shortCapital (shift.site source' site) (shift.block block) policy) := by
  rw [shortCapital, shortCapital, Shift.short?_block]
  cases hshort : block.short? with
  | none => exact shiftsTo_done id ()
  | some short => exact Site.shiftsTo_expect hmoves (hcounts.short short hshort) rfl rfl _

theorem shiftsTo_shortFullStop :
    (shortFullStop site block).ShiftsTo shift id
      (shortFullStop (shift.site source' site) (shift.block block)) := by
  rw [shortFullStop, shortFullStop, Shift.short?_block]
  cases block.short? with
  | none => exact shiftsTo_done id ()
  | some short =>
    apply Site.shiftsTo_expect hmoves hcounts.opener rfl
    rw [Shift.isSingleLine_span]
    rfl

theorem shiftsTo_shortOnOneLine :
    (shortOnOneLine site block).ShiftsTo shift id
      (shortOnOneLine (shift.site source' site) (shift.block block)) := by
  have hfront := hcounts.opener
  rw [shortOnOneLine, shortOnOneLine, Shift.short?_block]
  cases block.short? with
  | none => exact shiftsTo_done id ()
  | some short =>
    exact Site.shiftsTo_expect hmoves (by omega) (Int.add_right_comm _ _ _)
      (shift.isSingleLine_span short) _

theorem shiftsTo_longDescription (policy : Capitalization) :
    (longDescription site block policy).ShiftsTo shift id
      (longDescription (shift.site source' site) (shift.block block) policy) := by
  rw [longDescription.eq_def, longDescription.eq_def, Shift.short?_block, Shift.long?_block]
  cases hshort : block.short? with
  | none => exact shiftsTo_done id ()
  | some short =>
    cases hlong : block.long? with
    | none => exact shiftsTo_done id ()
    | some long =>
      have hfront := hcounts.long long hlong
      have hlines : (shift.span long).first.line = (shift.span short).last.line + 2 ↔
          long.first.line = short.last.line + 2 := by
        rw [Shift.last_span, Shift.line_slot]
        show long.first.line + shift.lines = _ ↔ _
        omega
      apply (Site.shiftsTo_expect_beq hmoves hfront rfl hlines _).bind
      intro _ _
      apply (Site.shiftsTo_expect hmoves hfront rfl rfl _).bind
      intro _ _
      apply Site.shiftsTo_expect hmoves hcounts.opener rfl
      rw [Shift.lines_span]

omit hcounts in
/-- The last content before a position is the same. -/
theorem contentBefore?_block (hfront : 0 ≤ block.opener) (position : Int) :
    contentBefore? (shift.site source' site) (shift.block block) (position + shift.positions) =
      (contentBefore? site block position).map shift.slot := by
  rw [contentBefore?, contentBefore?,
    show position + shift.positions - 1 = position - 1 + shift.positions by omega]
  exact hmoves.prev?_eq_of_stop hfront

theorem shiftsTo_blankLineBefore {tag : Tag} (htag : tag ∈ block.tags) (violation : Violation) :
    (blankLineBefore site block tag violation).ShiftsTo shift id
      (blankLineBefore (shift.site source' site) (shift.block block) (shift.tag tag)
        violation) := by
  rw [blankLineBefore, blankLineBefore]
  show ShiftsTo shift id _ (require (contentBefore? (shift.site source' site) (shift.block block)
    (tag.position + shift.positions)) _ >>= _)
  rw [contentBefore?_block hmoves hcounts.opener]
  apply (shiftsTo_require _ _ _).bind
  intro before _
  apply Site.shiftsTo_expect_beq hmoves (hcounts.tag tag htag) rfl
  show tag.line + shift.lines = before.line + shift.lines + 2 ↔ _
  omega

/-- The same unless the tag comes first. -/
theorem shiftsTo_blankLineBefore_unless {tag : Tag} (htag : tag ∈ block.tags)
    (violation : Violation) (first? : Option Int) :
    ShiftsTo shift id
      (if first? = some tag.position then .done () else blankLineBefore site block tag violation)
      (if first?.map (· + (shift.positions : Int)) = some (shift.tag tag).position then .done ()
        else blankLineBefore (shift.site source' site) (shift.block block) (shift.tag tag)
          violation) := by
  have hfirst : first?.map (· + (shift.positions : Int)) = some (shift.tag tag).position ↔
      first? = some tag.position := by
    cases first? <;> simp [Shift.tag]
  by_cases hnone : first? = some tag.position
  · rw [if_pos hnone, if_pos (hfirst.mpr hnone)]
    exact shiftsTo_done id ()
  · rw [if_neg hnone, if_neg (mt hfirst.mp hnone)]
    exact shiftsTo_blankLineBefore hmoves hcounts htag violation

theorem shiftsTo_blankLineBeforeTags :
    (blankLineBeforeTags site block).ShiftsTo shift id
      (blankLineBeforeTags (shift.site source' site) (shift.block block)) := by
  have hfirst : (block.firstContent?.map shift.slot).map Slot.position =
      (block.firstContent?.map Slot.position).map (· + (shift.positions : Int)) := by
    rw [Option.map_map, Option.map_map]
    rfl
  rw [blankLineBeforeTags, blankLineBeforeTags, Shift.tags_block, Shift.firstContent?_block, hfirst]
  cases htags : block.tags with
  | nil => exact shiftsTo_done id ()
  | cons tag tags =>
    have htag : tag ∈ block.tags := by
      rw [htags]
      exact List.mem_cons_self
    exact shiftsTo_blankLineBefore_unless hmoves hcounts htag _ _

theorem shiftsTo_blankLineBeforeParams :
    (blankLineBeforeParams site block).ShiftsTo shift id
      (blankLineBeforeParams (shift.site source' site) (shift.block block)) := by
  have hfirst : (block.tags.head?.map shift.tag).map Tag.position =
      (block.tags.head?.map Tag.position).map (· + (shift.positions : Int)) := by
    rw [Option.map_map, Option.map_map]
    rfl
  rw [blankLineBeforeParams, blankLineBeforeParams, Shift.tagsNamed_block, Shift.tags_block,
    List.head?_map, hfirst]
  cases hparams : block.tagsNamed "@param" with
  | nil => exact shiftsTo_done id ()
  | cons param params =>
    have hparam : param ∈ block.tagsNamed "@param" := by
      rw [hparams]
      exact List.mem_cons_self
    exact shiftsTo_blankLineBefore_unless hmoves hcounts (List.mem_of_mem_filter hparam) _ _

theorem shiftsTo_shortDescription (present : Bool) (construct : String) :
    (shortDescription site block present construct).ShiftsTo shift id
      (shortDescription (shift.site source' site) (shift.block block) present construct) := by
  apply (Site.shiftsTo_expect hmoves hcounts.opener rfl rfl _).bind
  intro _ _
  exact shiftsTo_done id present

/-! ## Layout -/

omit hcounts in
theorem lastContent?_block (hfront : 0 ≤ block.opener) :
    lastContent? (shift.site source' site) (shift.block block) =
      (lastContent? site block).map shift.slot :=
  contentBefore?_block hmoves hfront block.closer

theorem shiftsTo_closerAlone :
    (closerAlone site block).ShiftsTo shift id
      (closerAlone (shift.site source' site) (shift.block block)) := by
  rw [closerAlone, closerAlone, lastContent?_block hmoves hcounts.opener]
  apply (shiftsTo_require _ _ _).bind
  intro last _
  apply (Site.shiftsTo_line hmoves hcounts.closer rfl).bind
  intro closing _
  have halone : ((shift.slot last).line != closing + shift.lines) = (last.line != closing) := by
    rw [Bool.eq_iff_iff, bne_iff_ne, bne_iff_ne, Shift.line_slot]
    omega
  rw [halone]
  apply (Site.shiftsTo_expect hmoves hcounts.opener rfl rfl _).bind
  intro _ _
  exact shiftsTo_done id _

theorem shiftsTo_noBlankBeforeCloser :
    (noBlankBeforeCloser site block).ShiftsTo shift id
      (noBlankBeforeCloser (shift.site source' site) (shift.block block)) := by
  rw [noBlankBeforeCloser, noBlankBeforeCloser, lastContent?_block hmoves hcounts.opener]
  apply (Site.shiftsTo_line hmoves hcounts.closer rfl).bind
  intro closing _
  apply (shiftsTo_require _ _ _).bind
  intro last _
  apply Site.shiftsTo_expect_beq hmoves hcounts.closer rfl
  rw [Shift.line_slot]
  omega

theorem shiftsTo_noBlankAfterComment (hanchor : 0 ≤ site.anchor) (construct : String) :
    (noBlankAfterComment site block construct).ShiftsTo shift id
      (noBlankAfterComment (shift.site source' site) (shift.block block) construct) := by
  apply (Site.shiftsTo_line hmoves hcounts.closer rfl).bind
  intro closing _
  apply (Site.shiftsTo_line hmoves hanchor rfl).bind
  intro declaration _
  apply Site.shiftsTo_expect_beq hmoves hcounts.closer rfl
  omega

theorem shiftsTo_rightBelowOpenTag (hanchor : 0 ≤ site.anchor) :
    (rightBelowOpenTag site block).ShiftsTo shift id
      (rightBelowOpenTag (shift.site source' site) (shift.block block)) := by
  apply (Site.shiftsTo_line hmoves hcounts.opener rfl).bind
  intro opening _
  apply (Site.shiftsTo_line hmoves hanchor rfl).bind
  intro openTag _
  have hbelow := le_belowOpenTag site.source site.anchor
  apply Site.shiftsTo_expect_beq hmoves (by omega) (hmoves.belowOpenTag_eq site.anchor)
  omega

theorem shiftsTo_blankLineAfterFileComment :
    (blankLineAfterFileComment site block).ShiftsTo shift id
      (blankLineAfterFileComment (shift.site source' site) (shift.block block)) := by
  have hfront := hcounts.closer
  have hnext : (shift.site source' site).source.next? (fun kind => kind != .whitespace)
      ((shift.block block).closer + 1) none =
        (site.source.next? (fun kind => kind != .whitespace) (block.closer + 1) none).map
          shift.slot := by
    rw [show (shift.block block).closer + 1 = block.closer + 1 + shift.positions from
      Int.add_right_comm _ _ _]
    exact hmoves.next?_eq_of_none (by omega)
  rw [blankLineAfterFileComment, blankLineAfterFileComment, hnext]
  cases site.source.next? (fun kind => kind != .whitespace) (block.closer + 1) none with
  | none => exact shiftsTo_done id ()
  | some following =>
    apply (Site.shiftsTo_line hmoves hcounts.closer rfl).bind
    intro closing _
    apply Site.shiftsTo_expect_beq hmoves (by omega) (Int.add_right_comm _ _ _)
    rw [Shift.line_slot]
    omega

/-! ## Tags of a file comment -/

omit hcounts in
theorem shiftsTo_tagOccurrence (specs : List TagSpec) (construct : String) (earlier : List Tag)
    {tag : Tag} (hfront : 0 ≤ tag.position) :
    (tagOccurrence site specs construct earlier tag).ShiftsTo shift id
      (tagOccurrence (shift.site source' site) specs construct (earlier.map shift.tag)
        (shift.tag tag)) := by
  have hearlier : (earlier.map shift.tag).any (fun other => other.name == (shift.tag tag).name) =
      earlier.any fun other => other.name == tag.name := List.any_map
  rw [tagOccurrence, tagOccurrence, hearlier]
  apply (Site.shiftsTo_expect hmoves hfront rfl rfl _).bind
  intro _ _
  exact Site.shiftsTo_expect hmoves hfront rfl Option.isSome_map _

omit hcounts in
theorem shiftsTo_tagOccurrences (specs : List TagSpec) (construct : String)
    (earlier : List Tag) {tags : List Tag} (hfront : ∀ tag ∈ tags, 0 ≤ tag.position) :
    (tagOccurrences site specs construct earlier tags).ShiftsTo shift id
      (tagOccurrences (shift.site source' site) specs construct (earlier.map shift.tag)
        (tags.map shift.tag)) := by
  induction tags generalizing earlier with
  | nil => exact shiftsTo_done id ()
  | cons tag tags ih =>
    obtain ⟨htag, hrest⟩ := List.forall_mem_cons.mp hfront
    apply (shiftsTo_tagOccurrence hmoves specs construct earlier htag).bind
    intro _ _
    have happend := ih (earlier ++ [tag]) hrest
    rw [List.map_append] at happend
    exact happend

omit hcounts in
theorem shiftsTo_copyright {tags : List Tag} (hfront : ∀ tag ∈ tags, 0 ≤ tag.position) :
    (copyright site block tags).ShiftsTo shift id
      (copyright (shift.site source' site) (shift.block block) (tags.map shift.tag)) := by
  have hright : (tags.map shift.tag).any (fun tag => tag.inline?.any fun inline =>
      isCopyright site.config.file inline.text) = tags.any fun tag => tag.inline?.any fun inline =>
        isCopyright site.config.file inline.text := by
    rw [List.any_map]
    congr 1
    funext tag
    exact Option.any_map
  rw [copyright, copyright]
  simp only [show (shift.site source' site).config = site.config from rfl, hright]
  split
  · exact shiftsTo_done id ()
  · rw [List.getLast?_map]
    apply (shiftsTo_require _ _ _).bind
    intro last hlast
    have hmem : last ∈ tags := List.mem_of_getLast? (require_outcome_eq_ok_iff.mp hlast)
    exact Site.shiftsTo_blame hmoves (hfront last hmem) rfl _ none

omit hcounts in
theorem shiftsTo_license {tags : List Tag} (hfront : ∀ tag ∈ tags, 0 ≤ tag.position) :
    (license site block tags).ShiftsTo shift id
      (license (shift.site source' site) (shift.block block) (tags.map shift.tag)) := by
  apply shiftsTo_forM
  intro tag htag
  rw [Shift.inline?_tag]
  cases tag.inline? with
  | none => exact shiftsTo_done id ()
  | some inline => exact Site.shiftsTo_expect hmoves (hfront tag htag) rfl rfl _

omit hcounts in
theorem shiftsTo_processTags (name : String) {tags : List Tag}
    (hfront : ∀ tag ∈ tags, 0 ≤ tag.position) :
    (processTags site block .builtIn name tags).ShiftsTo shift id
      (processTags (shift.site source' site) (shift.block block) .builtIn name
        (tags.map shift.tag)) := by
  rw [processTags, processTags, Processors.builtIn]
  simp only [List.lookup_cons, List.lookup_nil]
  cases name == "@copyright" with
  | true => exact shiftsTo_copyright hmoves hfront
  | false =>
    cases name == "@license" with
    | true => exact shiftsTo_license hmoves hfront
    | false => exact shiftsTo_done id ()

theorem shiftsTo_tagOrder (construct : String) (place : Nat) {rest : List Tag}
    (hfront : ∀ tag ∈ rest, 0 ≤ tag.position) (specs : List TagSpec) :
    (tagOrder site block construct .builtIn place rest specs).ShiftsTo shift id
      (tagOrder (shift.site source' site) (shift.block block) construct .builtIn place
        (rest.map shift.tag) specs) := by
  induction specs generalizing place rest with
  | nil => exact shiftsTo_done id ()
  | cons spec specs ih =>
    rw [tagOrder.eq_def, tagOrder.eq_def]
    simp only [Shift.tagsNamed_block]
    cases hnamed : block.tagsNamed spec.name with
    | nil =>
      apply (Site.shiftsTo_expect hmoves hcounts.closer rfl rfl _).bind
      intro _ _
      exact ih place hfront
    | cons first others =>
      have htags : ∀ tag ∈ first :: others, 0 ≤ tag.position := by
        rw [← hnamed]
        exact fun tag htag => hcounts.tag tag (List.mem_of_mem_filter htag)
      apply (shiftsTo_processTags hmoves spec.name htags).bind
      intro _ _
      cases rest with
      | nil => exact shiftsTo_done id ()
      | cons tag rest =>
        obtain ⟨htag, hrest⟩ := List.forall_mem_cons.mp hfront
        apply (Site.shiftsTo_expect hmoves htag rfl rfl _).bind
        intro _ _
        have hdifferent : ∀ other ∈ rest.dropWhile fun other => other.name == spec.name,
            0 ≤ other.position :=
          fun other hother => hrest other ((List.dropWhile_sublist _).mem hother)
        have hlater := ih (place + 1 + (rest.takeWhile fun other => other.name == spec.name).length)
          hdifferent
        rw [List.takeWhile_map, List.dropWhile_map, List.length_map]
        exact hlater

theorem shiftsTo_tagTable (specs : List TagSpec) (construct : String) :
    (tagTable site block specs construct .builtIn).ShiftsTo shift id
      (tagTable (shift.site source' site) (shift.block block) specs construct .builtIn) := by
  have htable : tableTags specs (shift.block block) = (tableTags specs block).map shift.tag := by
    rw [tableTags, tableTags, Shift.tags_block, List.filter_map]
    rfl
  have hfront : ∀ tag ∈ tableTags specs block, 0 ≤ tag.position :=
    fun tag htag => hcounts.tag tag (List.mem_of_mem_filter htag)
  rw [tagTable, tagTable, htable]
  apply (shiftsTo_tagOccurrences hmoves specs construct [] hfront).bind
  intro _ _
  exact shiftsTo_tagOrder hmoves hcounts construct 0 hfront specs

/-! ## Tags of a function comment -/

theorem shiftsTo_see :
    (see site block).ShiftsTo shift id (see (shift.site source' site) (shift.block block)) := by
  rw [see, see, Shift.tagsNamed_block]
  apply shiftsTo_forM
  intro tag htag
  exact Site.shiftsTo_expect hmoves (hcounts.tag tag (List.mem_of_mem_filter htag)) rfl
    Option.isSome_map _

theorem shiftsTo_returns (name? : Option String) :
    (returns site block name?).ShiftsTo shift id
      (returns (shift.site source' site) (shift.block block) name?) := by
  have hfront : ∀ tag ∈ block.tagsNamed "@return", 0 ≤ tag.position :=
    fun tag htag => hcounts.tag tag (List.mem_of_mem_filter htag)
  rw [returns, returns, Shift.tagsNamed_block]
  simp only [show (shift.site source' site).config = site.config from rfl]
  split
  · exact shiftsTo_done id ()
  · rcases hreturns : block.tagsNamed "@return" with _ | ⟨first, _ | ⟨second, others⟩⟩
    · exact shiftsTo_done id ()
    · apply Site.shiftsTo_expect hmoves (hfront first (by simp [hreturns])) rfl
      rw [Shift.inlineText_tag]
    · exact Site.shiftsTo_blame hmoves (hfront second (by simp [hreturns])) rfl _ none

theorem shiftsTo_throwsTag (policy : Capitalization) {tag : Tag} (htag : tag ∈ block.tags) :
    (throwsTag site policy tag).ShiftsTo shift id
      (throwsTag (shift.site source' site) policy (shift.tag tag)) := by
  have hfront := hcounts.tag tag htag
  have htext : ThrowsText.ofTag? (shift.tag tag) = ThrowsText.ofTag? tag := Option.bind_map
  rw [throwsTag.eq_def, throwsTag.eq_def, htext, Shift.inline?_tag]
  cases hinline : tag.inline? with
  | none => exact Site.shiftsTo_blame hmoves hfront rfl _ none
  | some inline =>
    have hbehind := hcounts.inline tag htag inline hinline
    cases ThrowsText.ofTag? tag with
    | none => exact Site.shiftsTo_blame hmoves hfront rfl _ none
    | some text =>
      rcases text with ⟨exception, _ | comment⟩
      · exact Site.shiftsTo_blame hmoves hfront rfl _ none
      · apply (Site.shiftsTo_expect hmoves hbehind rfl rfl _).bind
        intro _ _
        exact Site.shiftsTo_expect hmoves hbehind rfl rfl _

theorem shiftsTo_throws (policy : Capitalization) :
    (throws site block policy).ShiftsTo shift id
      (throws (shift.site source' site) (shift.block block) policy) := by
  rw [throws, throws, Shift.tagsNamed_block]
  apply shiftsTo_forM
  intro tag htag
  exact shiftsTo_throwsTag hmoves hcounts policy (List.mem_of_mem_filter htag)

/-! ## Parameters -/

omit hcounts in
theorem shiftsTo_paramFields {param : ParamTag} (hfront : 0 ≤ param.tag.position) :
    (paramFields site param).ShiftsTo shift id
      (paramFields (shift.site source' site) (shift.param param)) := by
  apply (Site.shiftsTo_expect hmoves hfront rfl rfl _).bind
  intro _ _
  exact Site.shiftsTo_expect hmoves hfront rfl rfl _

omit hcounts in
theorem shiftsTo_param (declared? : Option String) {param : ParamTag}
    (hfront : 0 ≤ param.tag.position) :
    (Rule.param site declared? param).ShiftsTo shift id
      (Rule.param (shift.site source' site) declared? (shift.param param)) := by
  have hedit : (shift.param param).canonicalEdit? = param.canonicalEdit?.map shift.edit := by
    rw [ParamTag.canonicalEdit?, ParamTag.canonicalEdit?]
    show (param.tag.inline?.map shift.inline).map _ = _
    rw [Option.map_map, Option.map_map]
    rfl
  rw [Rule.param, Rule.param, show (shift.param param).isNamed = param.isNamed from rfl]
  split
  · rw [paramTypeSpace, paramTypeSpace, paramNameSpace, paramNameSpace, hedit]
    apply (Site.shiftsTo_expectOrEdit hmoves hfront rfl rfl _ _).bind
    intro _ _
    have hname : (paramName site declared? param).ShiftsTo shift id
        (paramName (shift.site source' site) declared? (shift.param param)) := by
      cases declared? with
      | none => exact Site.shiftsTo_expect hmoves hfront rfl rfl _
      | some declared => exact Site.shiftsTo_expect hmoves hfront rfl rfl _
    apply hname.bind
    intro _ _
    exact Site.shiftsTo_expectOrEdit hmoves hfront rfl rfl _ _
  · exact shiftsTo_done id ()

omit hcounts in
theorem shiftsTo_paramPairs (declared : List String) {params : List ParamTag}
    (hfront : ∀ param ∈ params, 0 ≤ param.tag.position) :
    (paramPairs site declared params).ShiftsTo shift id
      (paramPairs (shift.site source' site) declared (params.map shift.param)) := by
  induction params generalizing declared with
  | nil => exact shiftsTo_done id ()
  | cons param params ih =>
    obtain ⟨hparam, hrest⟩ := List.forall_mem_cons.mp hfront
    apply (shiftsTo_param hmoves declared.head? hparam).bind
    intro _ _
    exact ih declared.tail hrest

theorem shiftsTo_paramsDocumented (declared : List String) (params : List ParamTag) :
    (paramsDocumented site block declared params).ShiftsTo shift id
      (paramsDocumented (shift.site source' site) (shift.block block) declared
        (params.map shift.param)) := by
  apply shiftsTo_forM_same
  intro name _
  have hnamed : (params.map shift.param).any (fun param =>
      param.isNamed && param.fields.variableName == name) = params.any fun param =>
        param.isNamed && param.fields.variableName == name := List.any_map
  exact Site.shiftsTo_expect hmoves hcounts.opener rfl hnamed _

theorem shiftsTo_params (hinside : site.source.RefersInside) (hanchor : 0 ≤ site.anchor)
    (htokens : site.signatures = .ofTokens) :
    (params site block).ShiftsTo shift id
      (params (shift.site source' site) (shift.block block)) := by
  have hparams : paramTags (shift.block block) = (paramTags block).map shift.param := by
    rw [paramTags, paramTags, Shift.tagsNamed_block, List.map_map, List.map_map]
    apply List.map_congr_left
    intro tag _
    exact shift.ofTag_tag tag
  have hfront : ∀ param ∈ paramTags block, 0 ≤ param.tag.position := by
    intro param hparam
    obtain ⟨tag, htag, rfl⟩ := List.mem_map.mp hparam
    exact hcounts.tag tag (List.mem_of_mem_filter htag)
  rw [params, params, hparams, Shift.tagsNamed_block, List.isEmpty_map]
  apply (shiftsTo_forM fun param hparam => shiftsTo_paramFields hmoves (hfront param hparam)).bind
  intro _ _
  have hdeclared : (Check.ofExcept (site.signatures.parameters site.source site.anchor)).ShiftsTo
      shift id (Check.ofExcept ((shift.site source' site).signatures.parameters source'
        (site.anchor + shift.positions))) := by
    rw [show (shift.site source' site).signatures = site.signatures from rfl, htokens]
    exact shiftsTo_ofExcept fun names hnames =>
      hmoves.parametersFromTokens_eq hinside hanchor hnames
  apply hdeclared.bind
  intro declared _
  apply (shiftsTo_paramPairs hmoves declared hfront).bind
  intro _ _
  split
  · exact shiftsTo_paramsDocumented hmoves hcounts declared _
  · exact shiftsTo_done id ()

end Rule

end Moved

end DocLint

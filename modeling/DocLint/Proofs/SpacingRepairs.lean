import DocLint.Proofs.Findings
import DocLint.Proofs.SpacingEdits
import DocLint.Proofs.UniqueReading

/-!
# What a repair does to the rest of a text

The blanks of a parameter text are counted at two places, after the type and after the variable. A
wrong number is reported, and the report comes with an edit. But the edit writes the whole text
again from its fields, and so a repair reaches further than the report it belongs to.

The main result says how far. If the blanks of a text are wrong at one place only, the edit changes
that place and nothing else exactly if the rest of the text is plain: single spaces stand at the
other place, and nothing stands at the end. A tab counts as one blank, so it is not reported, but it
is replaced by a space all the same. Blanks and line feeds at the end are dropped.
-/

namespace DocLint

open Check

/-! ## Reports with certain codes -/

namespace Check

variable {site : Site} {codes : List String} {findings more : List Finding}

/-- The check ends well, and of the given codes it reports the given findings, in order. -/
structure FindsOf (site : Site) (codes : List String) (findings : List Finding)
    (check : Check Unit) : Prop where
  /-- It ends well. -/
  succeeds : check.Succeeds
  /-- Its diagnostics with one of the codes word the findings one by one. -/
  worded : List.Forall₂ (Finding.WordedAs site) findings
    (check.diagnostics.filter fun diagnostic => codes.contains diagnostic.code)

theorem Finds.findsOf (codes : List String) {check : Check Unit}
    (hcheck : check.Finds site findings) :
    check.FindsOf site codes
      (findings.filter fun finding => codes.contains finding.violation.code) := by
  refine ⟨hcheck.succeeds, List.rel_filter ?_ hcheck.worded⟩
  intro finding diagnostic hworded
  simp only [hworded.code_eq]

theorem FindsOf.bind {check : Check Unit} {next : Unit → Check Unit}
    (hcheck : check.FindsOf site codes findings) (hnext : (next ()).FindsOf site codes more) :
    (check >>= next).FindsOf site codes (findings ++ more) := by
  refine ⟨hcheck.succeeds.bind fun _ _ => hnext.succeeds, ?_⟩
  rw [diagnostics_bind (succeeds_iff_outcome.mp hcheck.succeeds), List.filter_append]
  exact List.rel_append hcheck.worded hnext.worded

/-- A loop reports none of the codes if its body reports none. -/
theorem findsOf_forM_nil {α : Type} {items : List α} {body : α → Check Unit}
    (hbody : ∀ item ∈ items, (body item).FindsOf site codes []) :
    (items.forM body).FindsOf site codes [] := by
  induction items with
  | nil => exact finds_done.findsOf codes
  | cons item rest ih =>
    obtain ⟨hitem, hrest⟩ := List.forall_mem_cons.mp hbody
    rw [List.forM_eq_forM, List.forM_cons]
    exact hitem.bind (ih hrest)

end Check

namespace Site

variable {site : Site} {codes : List String} {position : Int} {violation : Violation}

/-- A condition with another code is passed over. -/
theorem findsOf_expect_nil (hholds : site.source.Holds position) (condition : Bool)
    (hcode : codes.contains violation.code = false) :
    (site.expect condition position violation).FindsOf site codes [] := by
  have hfinds := (finds_expect hholds condition violation).findsOf codes
  cases condition with
  | true => exact hfinds
  | false => rwa [if_neg Bool.false_ne_true, List.filter_singleton, hcode] at hfinds

theorem findsOf_expectOrEdit (hholds : site.source.Holds position) (condition : Bool)
    (edit? : Option Edit) (hcode : codes.contains violation.code = true) :
    (site.expectOrEdit condition position violation edit?).FindsOf site codes
      (if condition then [] else [⟨position, violation, edit?⟩]) := by
  have hfinds := (finds_expectOrEdit hholds condition violation edit?).findsOf codes
  cases condition with
  | true => exact hfinds
  | false => rwa [if_neg Bool.false_ne_true, List.filter_singleton, hcode] at hfinds

end Site

/-! ## Blanks at two places -/

namespace ParamText

open Text

/-- The two places of a parameter text at which blanks are counted. -/
inductive Gap where
  /-- Between the type and the variable. -/
  | afterType
  /-- Between the variable and the comment. -/
  | afterVariable

namespace Reading

variable (reading : Reading)

/-- The text with a single space at one place. All else is kept. -/
def narrowed : Gap → List Char
  | .afterType =>
    reading.lead ++ reading.type ++ ' ' :: reading.mark :: (reading.name ++ reading.back)
  | .afterVariable =>
    reading.front ++ reading.mark ::
      (reading.name ++ ' ' :: (reading.comment ++ reading.feed))

/-- What stands elsewhere is plain: a single space between two fields, and nothing at the end. -/
def PlainElsewhere : Gap → Prop
  | .afterType =>
    reading.blanks = (if reading.comment = [] then [] else [' ']) ∧ reading.feed = []
  | .afterVariable => reading.trail = [' '] ∧ reading.feed = []

variable {reading}

/-- The end of the text is written again as it was exactly if it was plain. -/
theorem plain_back_iff :
    (if reading.comment = [] then [] else [' ']) ++ reading.comment = reading.back ↔
      reading.PlainElsewhere .afterType := by
  refine ⟨fun hback => ?_, ?_⟩
  · unfold back at hback
    by_cases hcomment : reading.comment = []
    · have hnil : reading.blanks = [] ∧ reading.feed = [] := by simpa [hcomment] using hback.symm
      simpa [PlainElsewhere, hcomment] using hnil
    · have hblanks := List.length_pos_iff.mpr (reading.comment_apart hcomment)
      have hlength := congrArg List.length hback
      simp only [hcomment, if_false, List.length_append, List.length_singleton] at hlength
      -- The blanks and the line feed together are one character, and there is a blank.
      have hfeed : reading.feed = [] := List.eq_nil_of_length_eq_zero (by omega)
      rw [hfeed, List.append_nil] at hback
      exact ⟨(List.append_cancel_right hback).symm, hfeed⟩
  · rintro ⟨hblanks, hfeed⟩
    rw [back, hblanks, hfeed, List.append_nil]

/-- The canonical text of a reading with a type. -/
theorem canonical_text (htype : reading.type ≠ []) :
    reading.canonical.text =
      reading.type ++ ' ' :: reading.mark ::
        (reading.name ++ ((if reading.comment = [] then [] else [' ']) ++ reading.comment)) := by
  simp [text, front, back, canonical, htype]

theorem canonical_text_eq_narrowed_afterType_iff (hlead : reading.lead = [])
    (htype : reading.type ≠ []) :
    reading.canonical.text = reading.narrowed .afterType ↔
      reading.PlainElsewhere .afterType := by
  rw [canonical_text htype, narrowed, hlead, List.nil_append, List.append_cancel_left_eq,
    ← plain_back_iff]
  simp only [List.cons.injEq, true_and, List.append_cancel_left_eq]

theorem canonical_text_eq_narrowed_afterVariable_iff (hlead : reading.lead = [])
    (htype : reading.type ≠ []) (hcomment : reading.comment ≠ []) :
    reading.canonical.text = reading.narrowed .afterVariable ↔
      reading.PlainElsewhere .afterVariable := by
  rw [canonical_text htype, narrowed, front, hlead, List.nil_append, List.append_assoc,
    List.append_cancel_left_eq, if_neg hcomment, List.singleton_append, PlainElsewhere]
  refine ⟨fun htext => ?_, ?_⟩
  · cases htrail : reading.trail with
    | nil =>
      -- Without blanks before it the mark would have to be the space.
      rw [htrail, List.nil_append] at htext
      have hmark := reading.mark_isMark
      rw [← (List.cons.inj htext).1] at hmark
      exact absurd hmark (by decide)
    | cons first rest =>
      rw [htrail, List.cons_append, List.cons.injEq] at htext
      obtain ⟨rfl, hrest⟩ := htext
      have hlength := congrArg List.length hrest
      simp only [List.length_append, List.length_cons] at hlength
      have hnil : rest = [] := List.eq_nil_of_length_eq_zero (by omega)
      exact ⟨by rw [hnil], List.eq_nil_of_length_eq_zero (by omega)⟩
  · rintro ⟨htrail, hfeed⟩
    rw [htrail, hfeed, List.append_nil]
    rfl

/-- **Writing a text again.** It changes the blanks at one place and nothing else exactly if the
rest of the text is plain. -/
theorem canonical_text_eq_narrowed_iff {gap : Gap} (hlead : reading.lead = [])
    (htype : reading.type ≠ []) (hcomment : gap = .afterVariable → reading.comment ≠ []) :
    reading.canonical.text = reading.narrowed gap ↔ reading.PlainElsewhere gap := by
  cases gap with
  | afterType => exact canonical_text_eq_narrowed_afterType_iff hlead htype
  | afterVariable => exact canonical_text_eq_narrowed_afterVariable_iff hlead htype (hcomment rfl)

/-- A text that does not begin with a blank has no blanks before the type. -/
theorem lead_eq_nil (hhead : ∀ c ∈ reading.text.head?, isBlank c = false) : reading.lead = [] := by
  cases hlead : reading.lead with
  | nil => rfl
  | cons first rest =>
    have hblank := reading.lead_blank first (by rw [hlead]; exact List.mem_cons_self)
    have hfirst := hhead first (by simp [text, front, hlead])
    exact absurd hblank (by simp [hfirst])

/-- With one space after the type, the text is put together from the fields and the pieces. -/
theorem narrowed_afterType_eq (hlead : reading.lead = []) :
    reading.narrowed .afterType =
      reading.fields.type.toList ++ ' ' :: (reading.pieces.named ++
        (reading.pieces.blanks ++ (reading.pieces.comment ++ reading.pieces.feed))) := by
  simp [narrowed, hlead, fields, pieces, back]

end Reading

end ParamText

/-! ## Reports about blanks -/

namespace ParamTag

/-- The places at which the number of blanks is wrong. A tag that names no variable has none. -/
def wrongGaps (param : ParamTag) : List ParamText.Gap :=
  if param.isNamed then
    (if param.typeSpaced then [] else [.afterType]) ++
      (if param.nameSpaced then [] else [.afterVariable])
  else []

/-- The report of a wrong number of blanks. -/
def gapFinding (param : ParamTag) : ParamText.Gap → Finding
  | .afterType =>
    ⟨param.tag.position, .spacingAfterParamType ParamText.fieldSpace param.fields.typeSpace,
      param.canonicalEdit?⟩
  | .afterVariable =>
    ⟨param.tag.position, .spacingAfterParamName ParamText.fieldSpace param.fields.variableSpace,
      param.canonicalEdit?⟩

/-- The codes of reports about blanks. -/
def gapCodes : List String :=
  ["SpacingAfterParamType", "SpacingAfterParamName"]

end ParamTag

namespace Rule

open ParamTag

variable {site : Site} {block : Block} {param : ParamTag}

theorem findsOf_paramFields (hholds : site.source.Holds param.tag.position) :
    (paramFields site param).FindsOf site gapCodes [] :=
  (Site.findsOf_expect_nil hholds _ rfl).bind (Site.findsOf_expect_nil hholds _ rfl)

theorem findsOf_paramName (hholds : site.source.Holds param.tag.position)
    (declared? : Option String) : (paramName site declared? param).FindsOf site gapCodes [] := by
  unfold paramName
  cases declared? with
  | none => exact Site.findsOf_expect_nil hholds _ rfl
  | some declared =>
    refine Site.findsOf_expect_nil hholds _ ?_
    unfold nameMismatch
    split <;> rfl

/-- Of a single tag exactly the places with wrong blanks are reported. -/
theorem findsOf_param (hholds : site.source.Holds param.tag.position)
    (declared? : Option String) :
    (Rule.param site declared? param).FindsOf site gapCodes
      (param.wrongGaps.map param.gapFinding) := by
  unfold Rule.param wrongGaps
  split
  · have htype : (paramTypeSpace site param).FindsOf site gapCodes
        (if param.typeSpaced then [] else [param.gapFinding .afterType]) :=
      Site.findsOf_expectOrEdit hholds _ _ rfl
    have hname : (paramNameSpace site param).FindsOf site gapCodes
        (if param.nameSpaced then [] else [param.gapFinding .afterVariable]) :=
      Site.findsOf_expectOrEdit hholds _ _ rfl
    rw [List.map_append, apply_ite (List.map _), apply_ite (List.map _)]
    exact htype.bind ((findsOf_paramName hholds declared?).bind hname)
  · exact finds_done.findsOf gapCodes

theorem findsOf_paramPairs {params : List ParamTag}
    (hholds : ∀ param ∈ params, site.source.Holds param.tag.position) (declared : List String) :
    (paramPairs site declared params : Check Unit).FindsOf site gapCodes
      (params.flatMap fun param => param.wrongGaps.map param.gapFinding) := by
  induction params generalizing declared with
  | nil => exact finds_done.findsOf gapCodes
  | cons param rest ih =>
    obtain ⟨hparam, hrest⟩ := List.forall_mem_cons.mp hholds
    exact (findsOf_param hparam declared.head?).bind (ih hrest declared.tail)

/-- **Reports about blanks.** They are those of the parameter tags, one after the other. -/
theorem findsOf_params (hstands : block.Stands site.source) {declared : List String}
    (hdeclared : site.signatures.parameters site.source site.anchor = .ok declared) :
    (params site block : Check Unit).FindsOf site gapCodes
      ((paramTags block).flatMap fun param => param.wrongGaps.map param.gapFinding) := by
  have hholds : ∀ param ∈ paramTags block, site.source.Holds param.tag.position :=
    fun param hparam => (stands_of_mem_paramTags hstands hparam).position
  have hfields : ((paramTags block).forM (paramFields site)).FindsOf site gapCodes [] :=
    findsOf_forM_nil fun param hparam => findsOf_paramFields (hholds param hparam)
  have hlast : (if (block.tagsNamed "@inheritdoc").isEmpty then
      paramsDocumented site block declared (paramTags block) else pure ()).FindsOf site
        gapCodes [] := by
    split
    · exact findsOf_forM_nil fun _ _ => Site.findsOf_expect_nil hstands.opener _ rfl
    · exact finds_done.findsOf gapCodes
  rw [Rule.params, hdeclared, ofExcept_ok_bind, ← List.append_nil (List.flatMap _ _)]
  exact hfields.bind ((findsOf_paramPairs hholds declared).bind hlast)

end Rule

/-! ## What a repair changes -/

namespace ParamTag

variable {tag : Tag} {inline : Inline} {gap : ParamText.Gap}

/-- The edit of a report writes the fields of the text again. -/
theorem edit?_gapFinding (hinline : tag.inline? = some inline) :
    ((ofTag tag).gapFinding gap).edit? =
      some ⟨inline.position, (ParamText.parse inline.text).canonical⟩ := by
  have hedit : (ofTag tag).canonicalEdit? =
      some ⟨inline.position, (ParamText.parse inline.text).canonical⟩ := by
    simp [canonicalEdit?, ofTag, hinline, ParamText.ofInline]
  cases gap <;> exact hedit

/-- Blanks after a variable are wrong only before a comment. -/
theorem comment_ne_of_wrongGaps {param : ParamTag}
    (hwrong : .afterVariable ∈ param.wrongGaps) : param.fields.comment ≠ "" := by
  intro hcomment
  have hspaced : param.nameSpaced = true := by simp [nameSpaced, hcomment]
  rw [wrongGaps, hspaced] at hwrong
  revert hwrong
  cases param.isNamed <;> cases param.typeSpaced <;> simp

theorem canonical_eq_narrowed_iff (hinline : tag.inline? = some inline)
    (hhead : ∀ c ∈ inline.text.toList.head?, Text.isBlank c = false)
    (htype : (ParamText.parse inline.text).type ≠ "") {reading : ParamText.Reading}
    (hreading : reading.text = inline.text.toList) (hwrong : gap ∈ (ofTag tag).wrongGaps) :
    (ParamText.parse inline.text).canonical.toList = reading.narrowed gap ↔
      reading.PlainElsewhere gap := by
  have hparse : ParamText.parse inline.text = reading.fields := by
    rw [ParamText.parse, ← hreading, reading.ofChars_text]
  have hfields : (ofTag tag).fields = reading.fields := by
    rw [← hparse, ofTag, hinline]
    rfl
  rw [hparse] at htype ⊢
  rw [reading.canonical_fields, String.toList_ofList]
  apply ParamText.Reading.canonical_text_eq_narrowed_iff
  · exact ParamText.Reading.lead_eq_nil (hreading ▸ hhead)
  · intro hnil
    exact htype (by rw [ParamText.Reading.fields, hnil, String.ofList_nil])
  · rintro rfl hnil
    refine comment_ne_of_wrongGaps hwrong ?_
    rw [hfields, ParamText.Reading.fields, hnil, String.ofList_nil]

end ParamTag

namespace Rule

/-- **How far a repair reaches.** Wrong numbers of blanks are reported tag by tag. Where a tag with
a type and a variable is reported for one place only, the edit changes the blanks at this place and
nothing else exactly if the rest of the text is plain. -/
theorem repair_narrows_gap_iff (site : Site) (block : Block) (hstands : block.Stands site.source)
    {declared : List String}
    (hdeclared : site.signatures.parameters site.source site.anchor = .ok declared) :
    (params site block : Check Unit).FindsOf site ParamTag.gapCodes
        ((paramTags block).flatMap fun param => param.wrongGaps.map param.gapFinding) ∧
      ∀ tag ∈ block.tagsNamed "@param", ∀ inline, tag.inline? = some inline →
        (∀ c ∈ inline.text.toList.head?, Text.isBlank c = false) →
        (ParamText.parse inline.text).type ≠ "" → (ParamText.parse inline.text).variableName ≠ "" →
        (∃ reading : ParamText.Reading, reading.text = inline.text.toList) ∧
          ∀ reading : ParamText.Reading, reading.text = inline.text.toList →
            ∀ gap, (ParamTag.ofTag tag).wrongGaps = [gap] →
              ∃ content, ((ParamTag.ofTag tag).gapFinding gap).edit? =
                  some ⟨inline.position, content⟩ ∧
                (content.toList = reading.narrowed gap ↔ reading.PlainElsewhere gap) := by
  refine ⟨findsOf_params hstands hdeclared, ?_⟩
  intro tag _ inline hinline hhead htype hvariable
  refine ⟨ParamText.exists_reading hvariable, fun reading hreading gap hwrong => ?_⟩
  have hmem : gap ∈ (ParamTag.ofTag tag).wrongGaps := by
    rw [hwrong]
    exact List.mem_singleton_self gap
  exact ⟨_, ParamTag.edit?_gapFinding hinline,
    ParamTag.canonical_eq_narrowed_iff hinline hhead htype hreading hmem⟩

end Rule

/-- A function of one parameter, whose comment has a parameter tag with the given text. -/
def oneParam (text : String) : Source :=
  ⟨#[⟨.docOpen, "/**", 1, none, some 3, [1]⟩, ⟨.docTag, "@param", 2, none, none, []⟩,
    ⟨.docString, text, 2, none, none, []⟩, ⟨.docClose, "*/", 3, some 0, none, []⟩,
    ⟨.function, "function", 4, none, none, []⟩, ⟨.identifier, "f", 4, none, none, []⟩,
    ⟨.openParenthesis, "(", 4, none, some 8, []⟩, ⟨.variableName, "$a", 4, none, none, []⟩,
    ⟨.closeParenthesis, ")", 4, some 6, none, []⟩]⟩

/-- The site of the function. -/
def Site.ofOneParam (text : String) : Site :=
  ⟨oneParam text, 4, {}, .ofTokens, Text.letterClass, "Rules"⟩

/-- With a single space after the variable, the edit for the two spaces after the type changes
nothing else. -/
theorem oneParam_spaces_narrowed :
    ∃ block, Block.read (oneParam "int  $a The count.") 0 = .ok block ∧
      (Rule.params (.ofOneParam "int  $a The count.") block : Check Unit).FindsOf
        (.ofOneParam "int  $a The count.") ParamTag.gapCodes
        ((Rule.paramTags block).flatMap fun param => param.wrongGaps.map param.gapFinding) ∧
      (Rule.params (.ofOneParam "int  $a The count.") block).edits =
        [⟨2, "int $a The count."⟩] ∧
      ∃ reading : ParamText.Reading, reading.text = "int  $a The count.".toList ∧
        "int $a The count.".toList = reading.narrowed .afterType := by
  have hread : Block.read (oneParam "int  $a The count.") 0 = .ok _ := rfl
  have hdeclared : SignatureReader.ofTokens.parameters (oneParam "int  $a The count.") 4 =
      .ok ["$a"] := rfl
  obtain ⟨-, token, hreads⟩ := Block.read_eq_ok_iff.mp hread
  obtain ⟨hfinds, hrepairs⟩ := Rule.repair_narrows_gap_iff (.ofOneParam "int  $a The count.") _
    hreads.stands hdeclared
  refine ⟨_, hread, hfinds, rfl, ?_⟩
  obtain ⟨⟨reading, hreading⟩, hrepairs⟩ := hrepairs _ List.mem_cons_self _ rfl
    (fun c hc => by obtain rfl := Option.some.inj hc; rfl) (by decide) (by decide)
  obtain ⟨content, hedit, hiff⟩ := hrepairs reading hreading .afterType rfl
  have hpieces : reading.pieces =
      ⟨"int  ".toList, "$a".toList, [' '], "The count.".toList, []⟩ := by
    rw [reading.pieces_eq_cut, hreading]
    decide
  have hcomment : reading.comment = "The count.".toList :=
    congrArg ParamText.Pieces.comment hpieces
  have hplain : reading.PlainElsewhere .afterType := by
    refine ⟨?_, congrArg ParamText.Pieces.feed hpieces⟩
    rw [hcomment]
    exact congrArg ParamText.Pieces.blanks hpieces
  obtain rfl : "int $a The count." = content := congrArg Edit.content (Option.some.inj hedit)
  exact ⟨reading, hreading, hiff.mpr hplain⟩

/-- A tab after the variable is one blank and not reported. The edit for the two spaces after the
type replaces it. -/
theorem oneParam_tab_replaced :
    ∃ block, Block.read (oneParam "int  $a\tThe count.") 0 = .ok block ∧
      (Rule.params (.ofOneParam "int  $a\tThe count.") block).diagnostics.map Diagnostic.code =
        ["SpacingAfterParamType"] ∧
      (Rule.params (.ofOneParam "int  $a\tThe count.") block).edits =
        [⟨2, "int $a The count."⟩] ∧
      ∃ reading : ParamText.Reading, reading.text = "int  $a\tThe count.".toList ∧
        reading.narrowed .afterType = "int $a\tThe count.".toList ∧
        "int $a The count.".toList ≠ reading.narrowed .afterType := by
  refine ⟨_, rfl, rfl, rfl, ?_⟩
  obtain ⟨reading, hreading⟩ := ParamText.exists_reading
    (by decide : (ParamText.ofChars "int  $a\tThe count.".toList).variableName ≠ "")
  have hfields : reading.fields = ⟨"int", 2, "$a", 1, "The count."⟩ := by
    rw [← reading.ofChars_text, hreading]
    decide
  have hpieces : reading.pieces =
      ⟨"int  ".toList, "$a".toList, ['\t'], "The count.".toList, []⟩ := by
    rw [reading.pieces_eq_cut, hreading]
    decide
  have hlead : reading.lead = [] := by
    refine ParamText.Reading.lead_eq_nil fun c hc => ?_
    rw [hreading] at hc
    obtain rfl := Option.some.inj hc
    rfl
  have hnarrowed : reading.narrowed .afterType = "int $a\tThe count.".toList := by
    rw [ParamText.Reading.narrowed_afterType_eq hlead, hfields, hpieces]
    rfl
  refine ⟨reading, hreading, hnarrowed, ?_⟩
  rw [hnarrowed]
  decide

end DocLint

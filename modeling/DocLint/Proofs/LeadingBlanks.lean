import DocLint.Proofs.ShiftedRules

/-!
# White space at the top of a file

White space that is put before the first token of a file changes nothing but coordinates. Whatever
was reported about the file is reported about the file that was moved, in the same order and in the
same words, and every edit is aimed at the token that it was aimed at.

The references of the file have to be counted from the front. One that is counted from the back
would come to name another token, unless it is left as it was.
-/

namespace DocLint

open Check

section Moved

variable {shift : Shift} {blanks : List Token} {site : Site} {source' : Source} {block : Block}
variable (hmoves : site.source.Moves shift blanks source') (hcounts : block.CountsFromFront)
variable (hanchor : 0 ≤ site.anchor)

/-! ## Reviews -/

namespace Review

include hmoves hcounts hanchor

theorem shiftsTo_file :
    (file site .builtIn block).ShiftsTo shift id
      (file (shift.site source' site) .builtIn (shift.block block)) := by
  apply (Rule.shiftsTo_rightBelowOpenTag hmoves hcounts hanchor).bind
  intro _ _
  apply (Rule.shiftsTo_blankLineAfterFileComment hmoves hcounts).bind
  intro _ _
  rw [Shift.firstContent?_block, Option.isSome_map]
  apply (Rule.shiftsTo_shortDescription hmoves hcounts _ _).bind
  intro described _
  show ShiftsTo shift id _ (if (described && site.config.file.checkTags) = true then _ else _)
  split
  · exact Rule.shiftsTo_tagTable hmoves hcounts _ _
  · exact shiftsTo_done id ()

theorem shiftsTo_classBody (construct : String) :
    (classBody site block construct).ShiftsTo shift id
      (classBody (shift.site source' site) (shift.block block) construct) := by
  apply (Rule.shiftsTo_firstLine hmoves hcounts).bind
  intro _ _
  apply (Rule.shiftsTo_shortOnOneLine hmoves hcounts).bind
  intro _ _
  apply (Rule.shiftsTo_shortCapital hmoves hcounts _).bind
  intro _ _
  apply (Rule.shiftsTo_shortFullStop hmoves hcounts).bind
  intro _ _
  apply (Rule.shiftsTo_longDescription hmoves hcounts _).bind
  intro _ _
  have htags : (noTags site block).ShiftsTo shift id
      (noTags (shift.site source' site) (shift.block block)) :=
    shiftsTo_forM fun tag htag => Site.shiftsTo_blame hmoves (hcounts.tag tag htag) rfl _ none
  apply htags.bind
  intro _ _
  apply (Rule.shiftsTo_noBlankBeforeCloser hmoves hcounts).bind
  intro _ _
  exact Rule.shiftsTo_noBlankAfterComment hmoves hcounts hanchor construct

theorem shiftsTo_classLike :
    (classLike site block).ShiftsTo shift id
      (classLike (shift.site source' site) (shift.block block)) := by
  have htoken : (ofExcept (site.source.get site.anchor)).ShiftsTo shift shift.token
      (ofExcept (source'.get (site.anchor + shift.positions))) := by
    apply shiftsTo_ofExcept
    intro token hget
    apply Source.get_eq_ok_iff.mpr
    rw [hmoves.token?_eq hanchor, Source.get_eq_ok_iff.mp hget]
    rfl
  apply htoken.bind
  intro token _
  apply (Rule.shiftsTo_closerAlone hmoves hcounts).bind
  intro alone _
  cases alone with
  | false => exact shiftsTo_done id ()
  | true =>
    have hdescribed : (shift.block block).short?.isSome = block.short?.isSome := Option.isSome_map
    simp only [id, if_true, hdescribed]
    apply (Rule.shiftsTo_shortDescription hmoves hcounts _ _).bind
    intro described _
    cases described with
    | false => exact shiftsTo_done id ()
    | true => exact shiftsTo_classBody hmoves hcounts hanchor _

variable (hinside : site.source.RefersInside) (htokens : site.signatures = .ofTokens)

include hinside htokens

theorem shiftsTo_functionTags :
    (functionTags site block).ShiftsTo shift id
      (functionTags (shift.site source' site) (shift.block block)) := by
  apply (Rule.shiftsTo_see hmoves hcounts).bind
  intro _ _
  apply (Rule.shiftsTo_blankLineBeforeTags hmoves hcounts).bind
  intro _ _
  apply (Rule.shiftsTo_blankLineBeforeParams hmoves hcounts).bind
  intro _ _
  have hname : (ofExcept (site.signatures.name? site.source site.anchor)).ShiftsTo shift id
      (ofExcept ((shift.site source' site).signatures.name? source'
        (site.anchor + shift.positions))) := by
    rw [show (shift.site source' site).signatures = site.signatures from rfl, htokens]
    exact shiftsTo_ofExcept fun name? hname => hmoves.nameFromTokens_eq hanchor hname
  apply hname.bind
  intro name? _
  apply (Rule.shiftsTo_returns hmoves hcounts name?).bind
  intro _ _
  apply (Rule.shiftsTo_throws hmoves hcounts _).bind
  intro _ _
  exact Rule.shiftsTo_params hmoves hcounts hinside hanchor htokens

theorem shiftsTo_function :
    (Review.function site block).ShiftsTo shift id
      (Review.function (shift.site source' site) (shift.block block)) := by
  have hstop : (functionFullStop site block).ShiftsTo shift id
      (functionFullStop (shift.site source' site) (shift.block block)) := by
    rw [functionFullStop, functionFullStop,
      show (shift.site source' site).config = site.config from rfl]
    split
    · exact Rule.shiftsTo_shortFullStop hmoves hcounts
    · exact shiftsTo_done id ()
  apply (Rule.shiftsTo_noBlankAfterComment hmoves hcounts hanchor _).bind
  intro _ _
  rw [Shift.firstContent?_block, Option.isSome_map]
  apply (Rule.shiftsTo_shortDescription hmoves hcounts _ _).bind
  intro described _
  cases described with
  | false => exact shiftsTo_done id ()
  | true =>
    simp only [id, if_true, functionBody_eq]
    apply (Rule.shiftsTo_firstLine hmoves hcounts).bind
    intro _ _
    apply (Rule.shiftsTo_shortCapital hmoves hcounts _).bind
    intro _ _
    apply hstop.bind
    intro _ _
    show ShiftsTo shift id _ (if block.inheritsDoc = true then _ else _)
    split
    · exact shiftsTo_done id ()
    · exact shiftsTo_functionTags hmoves hcounts hanchor hinside htokens

end Review

include hmoves hcounts hanchor in
/-- **A review finds the same after the move.** -/
theorem Subject.shiftsTo_review (hinside : site.source.RefersInside)
    (htokens : site.signatures = .ofTokens) (subject : Subject) :
    (subject.review site .builtIn block).ShiftsTo shift id
      (subject.review (shift.site source' site) .builtIn (shift.block block)) := by
  cases subject with
  | file => exact Review.shiftsTo_file hmoves hcounts hanchor
  | classLike => exact Review.shiftsTo_classLike hmoves hcounts hanchor
  | function => exact Review.shiftsTo_function hmoves hcounts hanchor hinside htokens

end Moved

/-! ## Inspections -/

/-- The comment of a declaration begins behind the front. -/
theorem Source.RefersInside.opener_nonneg {source : Source} (hinside : source.RefersInside)
    {anchor : Slot} (hanchor : anchor ∈ source.slots) {subject : Subject} {opener closer : Int}
    (hlocate : source.locate anchor.position = .ok (some (.doc subject opener closer))) :
    0 ≤ opener := by
  rcases Source.exists_opening_or_closesComment hanchor hlocate with
    ⟨opening, hopening, rfl, -⟩ | ⟨slot, hcloses, -⟩
  · exact (Source.bounds_of_mem_slots hopening).1
  · exact (hinside.opener slot hcloses.reached.mem opener hcloses.opener).1

namespace DocChecker

variable {shift : Shift} {blanks : List Token} {source source' : Source}
variable (hmoves : source.Moves shift blanks source') (hinside : source.RefersInside)
variable (config : Config)

include hmoves

theorem missingPosition_eq (subject : Subject) (position : Int) :
    missingPosition subject source' (position + shift.positions) =
      missingPosition subject source position + shift.positions := by
  cases subject with
  | file => exact hmoves.belowOpenTag_eq position
  | _ => rfl

include hinside

/-- What was found for a declaration is checked to the same effect. -/
theorem shiftsTo_inspectPlacement {position : Int} (hfront : 0 ≤ position) (subject : Subject)
    (token : Token) {placement : Placement}
    (hopener : ∀ owner opener closer, placement = .doc owner opener closer → 0 ≤ opener) :
    ((ofConfig config).inspectPlacement source position subject token placement).ShiftsTo shift id
      ((ofConfig config).inspectPlacement source' (position + shift.positions) subject
        (shift.token token) (shift.placement placement)) := by
  have hmissing : 0 ≤ missingPosition subject source position := by
    cases subject with
    | file => exact Int.le_trans hfront (Rule.le_belowOpenTag source position)
    | _ => exact hfront
  have hblame : ∀ violation, (((ofConfig config).site source position subject).blame
      (missingPosition subject source position) violation none).ShiftsTo shift id
        (((ofConfig config).site source' (position + shift.positions) subject).blame
          (missingPosition subject source' (position + shift.positions)) violation none) :=
    fun violation => Site.shiftsTo_blame hmoves hmissing
      (missingPosition_eq hmoves subject position) violation none
  have hconstruct : construct subject (shift.token token) = construct subject token := by
    cases subject <;> rfl
  cases placement with
  | doc owner opener closer =>
    simp only [Shift.placement, inspectPlacement, hconstruct]
    split
    · have hread : (ofExcept (Block.read source opener)).ShiftsTo shift shift.block
          (ofExcept (Block.read source' (opener + shift.positions))) :=
        shiftsTo_ofExcept fun block hread =>
          (hmoves.blockRead_eq hinside (hopener owner opener closer rfl) hread).1
      apply hread.bind
      intro block hblock
      have hcounts := (hmoves.blockRead_eq hinside (hopener owner opener closer rfl) hblock).2
      exact Subject.shiftsTo_review hmoves hcounts hfront hinside rfl subject
    · exact hblame _
  | _ =>
    simp only [Shift.placement, inspectPlacement, hconstruct]
    exact hblame _

/-- **A declaration is inspected to the same effect after the move.** -/
theorem shiftsTo_inspect {slot : Slot} (hslot : slot ∈ source.slots) :
    ((ofConfig config).inspect source slot.position).ShiftsTo shift id
      ((ofConfig config).inspect source' (shift.slot slot).position) := by
  have hfront := (Source.bounds_of_mem_slots hslot).1
  have hget := Source.get_eq_ok_iff.mpr (Source.token?_of_mem_slots hslot)
  have hget' := Source.get_eq_ok_iff.mpr (Source.token?_of_mem_slots (hmoves.mem_slots hslot))
  rw [inspect, inspect, hget, hget', ofExcept_ok_bind, ofExcept_ok_bind]
  show ShiftsTo shift id (require (Subject.ofKind? slot.kind) _ >>= _)
    (require (Subject.ofKind? slot.kind) _ >>= _)
  cases Subject.ofKind? slot.kind with
  | none => rintro _ ⟨⟩
  | some subject =>
    rw [require_some_bind, require_some_bind]
    have hlocate : (ofExcept (source.locate slot.position)).ShiftsTo shift
        (Option.map shift.placement) (ofExcept (source'.locate (shift.slot slot).position)) :=
      shiftsTo_ofExcept fun placement? hplacement => hmoves.locate_eq hslot hplacement
    apply hlocate.bind
    intro placement? hplacement
    cases placement? with
    | none => exact shiftsTo_done id ()
    | some placement =>
      apply shiftsTo_inspectPlacement hmoves hinside config hfront
      rintro owner opener closer rfl
      exact hinside.opener_nonneg hslot hplacement

end DocChecker

/-! ## Passes -/

namespace Source.Moves

variable {shift : Shift} {blanks : List Token} {source source' : Source}
variable (hmoves : source.Moves shift blanks source')

include hmoves

/-- A pass over the source goes over the white space and then over the slots that were moved. -/
theorem slots_eq :
    source'.slots = (blanks.mapIdx fun index token => (⟨index, token⟩ : Slot)) ++
      source.slots.map shift.slot := by
  rw [slots, slots, hmoves.tokens, List.mapIdx_append, hmoves.length]
  congr 1
  apply List.ext_getElem?
  intro index
  rw [List.getElem?_mapIdx, List.getElem?_map, List.getElem?_map, List.getElem?_mapIdx]
  cases source.tokens.toList[index]? <;> rfl

/-- **A pass finds the same after the move.** White space is not looked at. -/
theorem shiftsTo_inspect (hinside : source.RefersInside) (configs : List Config) :
    (source.inspect (Config.checkers configs)).ShiftsTo shift id
      (source'.inspect (Config.checkers configs)) := by
  have hblanks : (blanks.mapIdx fun index token => (⟨index, token⟩ : Slot)).forM
      (source'.inspectSlot (Config.checkers configs)) = done () := by
    apply forM_eq_done_iff.mpr
    intro slot hslot
    obtain ⟨index, hindex, rfl⟩ := List.mem_mapIdx.mp hslot
    have hblank : (⟨index, blanks[index]⟩ : Slot).kind = .whitespace :=
      hmoves.blank _ (List.getElem_mem hindex)
    apply forM_eq_done_iff.mpr
    intro checker hchecker
    obtain ⟨docChecker, -, rfl⟩ := List.mem_map.mp hchecker
    -- white space declares nothing, so no checker wants to see it
    apply if_neg
    intro hwanted
    obtain ⟨subject, hsubject⟩ := DocChecker.exists_subject_of_mem_kinds hwanted
    rw [hblank] at hsubject
    cases hsubject
  have hslots : (source.slots.forM (source.inspectSlot (Config.checkers configs))).ShiftsTo shift id
      ((source.slots.map shift.slot).forM (source'.inspectSlot (Config.checkers configs))) := by
    apply shiftsTo_forM
    intro slot hslot
    apply shiftsTo_forM_same
    intro checker hchecker
    obtain ⟨docChecker, hmem, rfl⟩ := List.mem_map.mp hchecker
    obtain ⟨config, -, rfl⟩ := List.mem_map.mp hmem
    rw [Shift.kind_slot]
    split
    · exact DocChecker.shiftsTo_inspect hmoves hinside config hslot
    · exact shiftsTo_done id ()
  rw [inspect, inspect, hmoves.slots_eq, List.forM_eq_forM, List.forM_append,
    ← List.forM_eq_forM, hblanks, done_bind]
  exact hslots

end Source.Moves

/-- The report with its diagnostics and edits moved. -/
def Shift.report (shift : Shift) (report : Report) : Report :=
  ⟨report.fixing, report.diagnostics.map shift.diagnostic, report.edits.map shift.edit⟩

/-- What can be repaired can be repaired after the move. -/
theorem Shift.fixable_report (shift : Shift) (report : Report) :
    (shift.report report).fixable = report.fixable.map shift.diagnostic := by
  have hfixable : Diagnostic.isFixable ∘ shift.diagnostic = Diagnostic.isFixable :=
    funext fun _ => Option.isSome_map
  rw [Report.fixable, Report.fixable, Shift.report, List.filter_map, hfixable]

/-- A report that has come to hold some diagnostics would have come to hold them moved. -/
theorem Shift.report_ofDiagnostics (shift : Shift) (fixing : Bool)
    (diagnostics : List Diagnostic) :
    shift.report (.ofDiagnostics fixing diagnostics) =
      .ofDiagnostics fixing (diagnostics.map shift.diagnostic) := by
  rw [Shift.report, Report.ofDiagnostics, Report.ofDiagnostics]
  cases fixing with
  | false => rfl
  | true =>
    rw [if_pos rfl, if_pos rfl, List.filterMap_map, List.map_filterMap]
    rfl

/-- The source with white space before it. Its tokens are moved by as many positions, and by some
number of lines. -/
def Source.moved (source : Source) (blanks : List Token) (lines : Int) : Source :=
  ⟨(blanks ++ source.tokens.toList.map (Shift.token ⟨blanks.length, lines⟩)).toArray⟩

namespace Source

variable {source : Source} {blanks : List Token}

theorem moves_moved (hblanks : ∀ token ∈ blanks, token.kind = .whitespace) (lines : Int) :
    source.Moves ⟨blanks.length, lines⟩ blanks (source.moved blanks lines) :=
  ⟨List.toList_toArray, rfl, hblanks⟩

/-- **White space at the top of a file changes nothing but coordinates.** Put any white space before
a source whose references are counted from the front, and move its tokens by any number of lines. If
the source has a report then so has the one that was moved, under the same configurations. It is the
same report with all positions and lines moved: every diagnostic keeps its severity, code, message,
family and data, the same ones can be repaired, and the edits are the same, in the same order. -/
theorem leading_blanks_change_only_coordinates (hinside : source.RefersInside)
    (hblanks : ∀ token ∈ blanks, token.kind = .whitespace) (lines : Int) (configs : List Config)
    {fixing : Bool} {report : Report}
    (hreport : source.report (Config.checkers configs) fixing = .ok report) :
    (source.moved blanks lines).report (Config.checkers configs) fixing =
        .ok (Shift.report ⟨blanks.length, lines⟩ report) ∧
      (Shift.report ⟨blanks.length, lines⟩ report).fixable =
        report.fixable.map (Shift.diagnostic ⟨blanks.length, lines⟩) ∧
      (Shift.report ⟨blanks.length, lines⟩ report).edits =
        report.edits.map (Shift.edit ⟨blanks.length, lines⟩) := by
  obtain ⟨hsucceeds, rfl⟩ := report_eq_ok_iff.mp hreport
  have hmoved := (moves_moved hblanks lines).shiftsTo_inspect hinside configs ()
    (succeeds_iff_outcome.mp hsucceeds)
  refine ⟨?_, Shift.fixable_report _ _, rfl⟩
  rw [report_eq_map, hmoved, Shift.report_ofDiagnostics]
  rfl

/-- Two blank lines on top of a file with a function. -/
def topBlanks : List Token :=
  [⟨.whitespace, "\n", 1, none, none, []⟩, ⟨.whitespace, "\n", 2, none, none, []⟩]

/-- The file and its function are blamed for what they were blamed for, two positions and two lines
further on, and the text of the parameter tag is edited there. -/
theorem fileAndFunction_moved :
    DocChecker.fileAndFunction.RefersInside ∧ (∀ token ∈ topBlanks, token.kind = .whitespace) ∧
      ∃ report, DocChecker.fileAndFunction.report (Config.checkers [{}]) true = .ok report ∧
        report.diagnostics.map (fun diagnostic => (diagnostic.position, diagnostic.line)) =
          [(1, 3), (4, 6), (3, 5), (6, 9), (6, 9)] ∧
        report.edits = List.replicate 2 ⟨7, "int $x The number."⟩ ∧
        ∃ moved, (DocChecker.fileAndFunction.moved topBlanks 2).report (Config.checkers [{}]) true =
            .ok moved ∧
          moved.codes = report.codes ∧
          moved.diagnostics.map (fun diagnostic => (diagnostic.position, diagnostic.line)) =
            [(3, 5), (6, 8), (5, 7), (8, 11), (8, 11)] ∧
          moved.edits = List.replicate 2 ⟨9, "int $x The number."⟩ := by
  have hinside : DocChecker.fileAndFunction.RefersInside := ⟨by decide, by decide, by decide⟩
  have hblanks : ∀ token ∈ topBlanks, token.kind = .whitespace := by decide
  refine ⟨hinside, hblanks, _, rfl, rfl, rfl, ?_⟩
  obtain ⟨hmoved, -, hedits⟩ := leading_blanks_change_only_coordinates hinside hblanks 2 [{}] rfl
  exact ⟨_, hmoved, rfl, rfl, hedits⟩

end Source

end DocLint

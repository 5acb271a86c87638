import DocLint.Call
import DocLint.Proofs.BlockReading
import DocLint.Proofs.Filing

/-!
# The history of a report

A call either fails as a whole or adds one diagnostic at the end of the report, and its edit if it
has one and edits are wanted. This module says which calls succeed, and what a report holds after
any history of calls, of which some may have failed: the diagnostics of the calls that succeeded, in
order. What the report tells about itself follows from that. Its errors and its warnings together
are its diagnostics, only errors can be repaired, and the edits are those of the calls that
succeeded.

How templates are filled plays no part. Everything here holds for every way to fill them, whatever
templates and values it accepts.
-/

namespace DocLint

variable {filler : Template.Filler} {source : Source}

/-! ## One call -/

/-- A notice becomes a diagnostic exactly if its template can be filled and a token stands at its
position. The line is that of the token, and all else is taken from the notice. -/
theorem Notice.diagnosticBy_eq_ok_iff {notice : Notice} {diagnostic : Diagnostic} :
    notice.diagnosticBy filler source = .ok diagnostic ↔
      ∃ message token, Template.messageBy filler notice.template notice.data = .ok message ∧
        source.token? notice.position = some token ∧
        diagnostic = { notice with message, line := token.line } := by
  rw [Notice.diagnosticBy, except_bind_eq_ok_iff]
  refine ⟨?_, ?_⟩
  · rintro ⟨message, hmessage, hrest⟩
    obtain ⟨line, hline, hresult⟩ := except_bind_eq_ok_iff.mp hrest
    obtain ⟨token, hat, rfl⟩ := Source.exists_token?_of_line hline
    refine ⟨message, token, ?_, hat, (Except.ok.inj hresult).symm⟩
    cases hfilled : Template.messageBy filler notice.template notice.data with
    | error fault =>
      rw [hfilled] at hmessage
      cases hmessage
    | ok filled =>
      rw [hfilled] at hmessage
      exact congrArg Except.ok (Except.ok.inj hmessage)
  · rintro ⟨message, token, hmessage, hat, rfl⟩
    refine ⟨message, by rw [hmessage]; rfl, ?_⟩
    rw [Source.line_of_token? hat]
    rfl

namespace Call

variable {call : Call} {diagnostic : Diagnostic}

/-- Whether a call succeeds: its template can be filled, and a token stands at its position. -/
def succeeds (filler : Template.Filler) (source : Source) (call : Call) : Bool :=
  (Template.messageBy filler call.remark.template call.remark.data).isOk &&
    (source.token? call.remark.position).isSome

/-- The diagnostic of a call that succeeds. -/
def diagnostic? (filler : Template.Filler) (source : Source) (call : Call) : Option Diagnostic :=
  (call.notice.diagnosticBy filler source).toOption

theorem diagnostic?_eq_some_iff :
    call.diagnostic? filler source = some diagnostic ↔
      call.notice.diagnosticBy filler source = .ok diagnostic := by
  rw [diagnostic?]
  cases call.notice.diagnosticBy filler source <;> simp [Except.toOption]

/-- A call succeeds exactly if it has a diagnostic. -/
theorem succeeds_eq_isSome :
    call.succeeds filler source = (call.diagnostic? filler source).isSome := by
  rw [Bool.eq_iff_iff, Option.isSome_iff_exists]
  simp only [diagnostic?_eq_some_iff, Notice.diagnosticBy_eq_ok_iff]
  rw [succeeds, Bool.and_eq_true, Option.isSome_iff_exists]
  refine ⟨?_, ?_⟩
  · rintro ⟨hmessage, token, hat⟩
    cases hfilled : Template.messageBy filler call.remark.template call.remark.data with
    | error fault =>
      rw [hfilled] at hmessage
      cases hmessage
    | ok message => exact ⟨_, message, token, hfilled, hat, rfl⟩
  · rintro ⟨-, message, token, hmessage, hat, -⟩
    have hfilled : Template.messageBy filler call.remark.template call.remark.data =
        .ok message := hmessage
    exact ⟨by rw [hfilled]; rfl, token, hat⟩

/-- The diagnostic of a call has its gravity, its edit, and the line of the token. -/
theorem of_diagnostic? (hdiagnostic : call.diagnostic? filler source = some diagnostic) :
    diagnostic.severity = call.severity ∧ diagnostic.edit? = call.edit? ∧
      ∃ token, source.token? call.remark.position = some token ∧ diagnostic.line = token.line := by
  obtain ⟨message, token, -, hat, rfl⟩ :=
    Notice.diagnosticBy_eq_ok_iff.mp (diagnostic?_eq_some_iff.mp hdiagnostic)
  exact ⟨rfl, rfl, token, hat, rfl⟩

/-- What comes with an edit is an error. -/
theorem severity_of_edit? {edit : Edit} (hedit : call.edit? = some edit) :
    call.severity = .error := by
  cases call with
  | error remark => rfl
  | warning remark => cases hedit
  | fixable remark edit => rfl

end Call

namespace Report

variable {report : Report} {fixing : Bool} {calls : List Call}

/-- **What a call does.** It fails and leaves the report as it was, or it files its diagnostic. -/
theorem answer_cases (report : Report) (filler : Template.Filler) (source : Source) (call : Call) :
    (call.diagnostic? filler source = none ∧
        ∃ fault, report.answer filler source call = (.error fault, report)) ∨
      ∃ diagnostic, call.diagnostic? filler source = some diagnostic ∧
        report.answer filler source call =
          (.ok (call.answer report.fixing diagnostic), report.file diagnostic) := by
  unfold answer post Call.diagnostic?
  cases call.notice.diagnosticBy filler source with
  | error fault => exact Or.inl ⟨rfl, fault, rfl⟩
  | ok diagnostic => exact Or.inr ⟨diagnostic, rfl, rfl⟩

theorem answer_snd (report : Report) (filler : Template.Filler) (source : Source) (call : Call) :
    (report.answer filler source call).2 =
      report.fileAll ([call].filterMap (Call.diagnostic? filler source)) := by
  obtain ⟨hnone, fault, hanswer⟩ | ⟨diagnostic, hsome, hanswer⟩ :=
    report.answer_cases filler source call
  · rw [hanswer, List.filterMap_cons_none hnone]
    rfl
  · rw [hanswer, List.filterMap_cons_some hsome]
    rfl

/-- **A call keeps the tie between the two lists**, whether it fails or not. -/
theorem Balanced.answer (hbalanced : report.Balanced) (call : Call) :
    (report.answer filler source call).2.Balanced := by
  obtain ⟨-, fault, hanswer⟩ | ⟨diagnostic, -, hanswer⟩ := report.answer_cases filler source call
  · rwa [hanswer]
  · rw [hanswer]
    exact hbalanced.file diagnostic

/-! ## Histories -/

/-- **What a history of calls does.** It files the diagnostics of the calls that succeed. -/
theorem answerAll_eq (report : Report) (filler : Template.Filler) (source : Source)
    (calls : List Call) :
    report.answerAll filler source calls =
      report.fileAll (calls.filterMap (Call.diagnostic? filler source)) := by
  induction calls generalizing report with
  | nil => rfl
  | cons call rest ih =>
    rw [answerAll, ih, answer_snd, ← fileAll_append, ← List.filterMap_append,
      List.singleton_append]

/-- **A history of calls keeps the tie between the two lists.** -/
theorem Balanced.answerAll (hbalanced : report.Balanced) (calls : List Call) :
    (report.answerAll filler source calls).Balanced := by
  induction calls generalizing report with
  | nil => exact hbalanced
  | cons call rest ih => exact ih (hbalanced.answer call)

theorem balanced_after (filler : Template.Filler) (source : Source) (fixing : Bool)
    (calls : List Call) : (after filler source fixing calls).Balanced :=
  (balanced_empty fixing).answerAll calls

/-- What a new report holds after a history of calls. -/
theorem after_eq (filler : Template.Filler) (source : Source) (fixing : Bool)
    (calls : List Call) :
    after filler source fixing calls =
      ofDiagnostics fixing (calls.filterMap (Call.diagnostic? filler source)) := by
  rw [after, answerAll_eq, fileAll_empty]

/-- A longer history adds to the report. -/
theorem after_append (filler : Template.Filler) (source : Source) (fixing : Bool)
    (calls more : List Call) :
    after filler source fixing (calls ++ more) =
      (after filler source fixing calls).fileAll
        (more.filterMap (Call.diagnostic? filler source)) := by
  rw [after, after, answerAll_eq, answerAll_eq, List.filterMap_append, fileAll_append]

/-- The report after one more call is the one that the call leaves. -/
theorem after_concat (filler : Template.Filler) (source : Source) (fixing : Bool)
    (calls : List Call) (call : Call) :
    after filler source fixing (calls ++ [call]) =
      ((after filler source fixing calls).answer filler source call).2 := by
  rw [after_append, answer_snd]

/-- Filing puts nothing in front of what a report holds. -/
theorem prefix_fileAll (report : Report) (diagnostics : List Diagnostic) :
    report.diagnostics <+: (report.fileAll diagnostics).diagnostics ∧
      report.edits <+: (report.fileAll diagnostics).edits := by
  rw [fileAll_eq]
  exact ⟨List.prefix_append _ _, List.prefix_append _ _⟩

/-! ## Views of a report -/

/-- Every diagnostic is either an error or a warning. -/
theorem partition_diagnostics (report : Report) :
    report.diagnostics.partition (fun diagnostic => diagnostic.severity == .error) =
      (report.errors, report.warnings) := by
  have hwarning : ∀ diagnostic : Diagnostic,
      (!(diagnostic.severity == .error)) = (diagnostic.severity == .warning) := by
    intro diagnostic
    cases diagnostic.severity <;> rfl
  rw [List.partition_eq_filter_filter, errors, warnings]
  exact congrArg _ (List.filter_congr fun diagnostic _ => hwarning diagnostic)

/-- What can be repaired is found among the errors, if only errors can be repaired. -/
theorem fixable_sublist_errors
    (herrors : ∀ diagnostic ∈ report.diagnostics, diagnostic.isFixable = true →
      diagnostic.severity = .error) : report.fixable.Sublist report.errors := by
  have hfixable : report.fixable = report.errors.filter Diagnostic.isFixable := by
    rw [fixable, errors, List.filter_filter]
    refine List.filter_congr fun diagnostic hdiagnostic => ?_
    cases hrepair : diagnostic.isFixable with
    | false => rfl
    | true => simp [herrors diagnostic hdiagnostic hrepair]
  rw [hfixable]
  exact List.filter_sublist

/-- Only errors can be repaired after a history of calls. -/
theorem severity_of_isFixable {diagnostic : Diagnostic}
    (hdiagnostic : diagnostic ∈ (after filler source fixing calls).diagnostics)
    (hfixable : diagnostic.isFixable = true) : diagnostic.severity = .error := by
  rw [after_eq] at hdiagnostic
  obtain ⟨call, -, hcall⟩ := List.mem_filterMap.mp hdiagnostic
  obtain ⟨hseverity, hedit, -⟩ := Call.of_diagnostic? hcall
  rw [Diagnostic.isFixable, hedit, Option.isSome_iff_exists] at hfixable
  obtain ⟨edit, hedit⟩ := hfixable
  rw [hseverity, Call.severity_of_edit? hedit]

/-- **The edits after a history of calls** are those of the calls that succeeded. -/
theorem edits_after (filler : Template.Filler) (source : Source) (fixing : Bool)
    (calls : List Call) :
    (after filler source fixing calls).edits =
      if fixing then (calls.filter (Call.succeeds filler source)).filterMap Call.edit? else [] := by
  have hcall : ∀ call : Call, (call.diagnostic? filler source).bind Diagnostic.edit? =
      if call.succeeds filler source then call.edit? else none := by
    intro call
    rw [Call.succeeds_eq_isSome]
    cases hdiagnostic : call.diagnostic? filler source with
    | none => rfl
    | some diagnostic => exact (Call.of_diagnostic? hdiagnostic).2.1
  rw [after_eq, ofDiagnostics, List.filterMap_filterMap, List.filterMap_filter]
  simp only [hcall]

/-- **A report only grows, and a call does all or nothing.** This holds for every way to fill
templates. After any history of calls, the next one fails and leaves the diagnostics and the edits
as they were, or it adds one diagnostic, on the line of the token at the position that it names. It
succeeds exactly if its template can be filled and there is such a token. What a report holds stays
at its front whatever calls follow. Errors and warnings are the diagnostics parted in two, and what
can be repaired is among the errors. There are no edits unless they are wanted. If they are, the
edits are those of the calls that succeeded, and as many as there are diagnostics that can be
repaired. -/
theorem calls_add_all_or_nothing (filler : Template.Filler) (source : Source) (fixing : Bool)
    (calls : List Call) :
    (∀ call : Call,
      (call.succeeds filler source = false ∧ ∃ fault,
          (after filler source fixing calls).answer filler source call =
            (.error fault, after filler source fixing (calls ++ [call])) ∧
          (after filler source fixing (calls ++ [call])).diagnostics =
            (after filler source fixing calls).diagnostics ∧
          (after filler source fixing (calls ++ [call])).edits =
            (after filler source fixing calls).edits) ∨
        (call.succeeds filler source = true ∧ ∃ diagnostic token,
          (after filler source fixing calls).answer filler source call =
            (.ok (call.answer fixing diagnostic),
              after filler source fixing (calls ++ [call])) ∧
          (after filler source fixing (calls ++ [call])).diagnostics =
            (after filler source fixing calls).diagnostics ++ [diagnostic] ∧
          source.token? call.remark.position = some token ∧ diagnostic.line = token.line)) ∧
      (∀ more : List Call,
        (after filler source fixing calls).diagnostics <+:
            (after filler source fixing (calls ++ more)).diagnostics ∧
          (after filler source fixing calls).edits <+:
            (after filler source fixing (calls ++ more)).edits) ∧
      (after filler source fixing calls).diagnostics.partition
          (fun diagnostic => diagnostic.severity == .error) =
        ((after filler source fixing calls).errors, (after filler source fixing calls).warnings) ∧
      (after filler source fixing calls).fixable.Sublist
        (after filler source fixing calls).errors ∧
      (after filler source fixing calls).edits =
        (if fixing then (calls.filter (Call.succeeds filler source)).filterMap Call.edit?
          else []) ∧
      (fixing = true →
        (after filler source fixing calls).edits.length =
          (after filler source fixing calls).fixable.length) := by
  have hfixing : (after filler source fixing calls).fixing = fixing := by
    rw [after_eq, fixing_ofDiagnostics]
  refine ⟨fun call => ?_, fun more => ?_, partition_diagnostics _, ?_, edits_after .., ?_⟩
  · rw [after_concat, Call.succeeds_eq_isSome]
    obtain ⟨hnone, fault, hanswer⟩ | ⟨diagnostic, hsome, hanswer⟩ :=
      (after filler source fixing calls).answer_cases filler source call
    · rw [hanswer, hnone]
      exact Or.inl ⟨rfl, fault, rfl, rfl, rfl⟩
    · obtain ⟨-, -, token, hat, hline⟩ := Call.of_diagnostic? hsome
      rw [hanswer, hsome, hfixing, diagnostics_file]
      exact Or.inr ⟨rfl, diagnostic, token, rfl, rfl, hat, hline⟩
  · rw [after_append]
    exact prefix_fileAll _ _
  · exact fixable_sublist_errors fun _ => severity_of_isFixable
  · intro hwanted
    exact (balanced_after filler source fixing calls).length_edits (hfixing.trans hwanted)

end Report

/-- A file of two tokens. -/
def Source.twoTokens : Source :=
  ⟨#[⟨.openTag, "<?php\n", 1, none, none, []⟩, ⟨.variableName, "$a", 2, none, none, []⟩]⟩

/-- Calls of all sorts. The template of the second takes a number and is given a text, and the third
names a position at which nothing stands. -/
def mixedCalls : List Call :=
  [.error ⟨"Found %s in %s", 1, "Found", [.text "$a", .text "file"], ""⟩,
    .error ⟨"Found %d", 1, "Found", [.text "$a"], ""⟩,
    .fixable ⟨"Too far", 2, "Far", [], ""⟩ ⟨1, "$far"⟩,
    .warning ⟨"100% literal", 0, "Literal", [], ""⟩,
    .fixable ⟨"Expected %d letters", -1, "Short", [.number 3], "Names"⟩ ⟨1, "$abc"⟩]

/-- Two of them fail, and one of these has an edit. Only the edit of the last call is kept. -/
theorem mixedCalls_recorded :
    mixedCalls.map (Call.succeeds Template.fill .twoTokens) = [true, false, false, true, true] ∧
      (Report.after Template.fill .twoTokens true mixedCalls).codes =
        ["Found", "Literal", "Short"] ∧
      (Report.after Template.fill .twoTokens true mixedCalls).edits = [⟨1, "$abc"⟩] ∧
      (Report.after Template.fill .twoTokens true mixedCalls).fixable.length = 1 := by
  obtain ⟨-, -, -, -, hedits, hcount⟩ :=
    Report.calls_add_all_or_nothing Template.fill .twoTokens true mixedCalls
  have hkept : (Report.after Template.fill .twoTokens true mixedCalls).edits = [⟨1, "$abc"⟩] :=
    hedits.trans (by decide +kernel)
  refine ⟨by decide +kernel, by decide +kernel, hkept, ?_⟩
  rw [← hcount rfl, hkept]
  rfl

end DocLint

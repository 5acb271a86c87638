import DocLint.Report

/-!
# The two lists of a report

Diagnostics and edits are kept in two lists, and filing a diagnostic may add to both. This module
says what filing does to each list, and which tie between the lists it keeps: a report that wants no
edits has none, and in one that wants them the edits are those of the diagnostics that can be
repaired, one for each and in order. A new report has this tie, one step of filing keeps it, and so
does filing any number of diagnostics.

The tie is not part of the type: a report that is put together by hand may have any two lists.
-/

namespace DocLint

namespace Report

variable {report : Report}

/-! ## What filing does -/

/-- **What one step of filing does.** -/
theorem file_eq (report : Report) (diagnostic : Diagnostic) :
    report.file diagnostic =
      ⟨report.fixing, report.diagnostics ++ [diagnostic],
        report.edits ++ if report.fixing then diagnostic.edit?.toList else []⟩ := by
  unfold file queue note
  cases diagnostic.edit? with
  | none => simp
  | some edit => cases report.fixing <;> simp

@[simp]
theorem fixing_file (report : Report) (diagnostic : Diagnostic) :
    (report.file diagnostic).fixing = report.fixing := by
  rw [file_eq]

@[simp]
theorem diagnostics_file (report : Report) (diagnostic : Diagnostic) :
    (report.file diagnostic).diagnostics = report.diagnostics ++ [diagnostic] := by
  rw [file_eq]

theorem edits_file (report : Report) (diagnostic : Diagnostic) :
    (report.file diagnostic).edits =
      report.edits ++ if report.fixing then diagnostic.edit?.toList else [] := by
  rw [file_eq]

theorem fileAll_cons (report : Report) (diagnostic : Diagnostic) (rest : List Diagnostic) :
    report.fileAll (diagnostic :: rest) = (report.file diagnostic).fileAll rest := rfl

theorem fileAll_append (report : Report) (first second : List Diagnostic) :
    report.fileAll (first ++ second) = (report.fileAll first).fileAll second :=
  List.foldl_append

/-- **What filing diagnostics does.** All are noted, and their edits are queued if edits are
wanted. -/
theorem fileAll_eq (report : Report) (diagnostics : List Diagnostic) :
    report.fileAll diagnostics =
      ⟨report.fixing, report.diagnostics ++ diagnostics,
        report.edits ++ if report.fixing then diagnostics.filterMap Diagnostic.edit? else []⟩ := by
  induction diagnostics generalizing report with
  | nil =>
    cases report with
    | mk fixing noted queued => cases fixing <;> simp [fileAll]
  | cons diagnostic rest ih =>
    rw [fileAll_cons, ih, file_eq, List.append_assoc, List.append_assoc, List.singleton_append]
    cases report.fixing with
    | false => rfl
    | true => cases hedit : diagnostic.edit? <;> simp [hedit]

/-- The report that has come to hold some diagnostics. -/
def ofDiagnostics (fixing : Bool) (diagnostics : List Diagnostic) : Report :=
  ⟨fixing, diagnostics, if fixing then diagnostics.filterMap Diagnostic.edit? else []⟩

@[simp]
theorem fixing_ofDiagnostics (fixing : Bool) (diagnostics : List Diagnostic) :
    (ofDiagnostics fixing diagnostics).fixing = fixing := rfl

@[simp]
theorem diagnostics_ofDiagnostics (fixing : Bool) (diagnostics : List Diagnostic) :
    (ofDiagnostics fixing diagnostics).diagnostics = diagnostics := rfl

theorem fileAll_empty (fixing : Bool) (diagnostics : List Diagnostic) :
    (empty fixing).fileAll diagnostics = ofDiagnostics fixing diagnostics :=
  fileAll_eq _ _

/-! ## The tie -/

/-- The edits are those of the diagnostics that can be repaired, if edits are wanted. -/
structure Balanced (report : Report) : Prop where
  /-- Where no edits are wanted there are none. -/
  unwanted : report.fixing = false → report.edits = []
  /-- Where they are wanted, the diagnostics that can be repaired carry them, one by one. -/
  wanted : report.fixing = true → report.fixable.map Diagnostic.edit? = report.edits.map some

theorem balanced_empty (fixing : Bool) : (empty fixing).Balanced :=
  ⟨fun _ => rfl, fun _ => rfl⟩

/-- **One step of filing keeps the tie.** -/
theorem Balanced.file (hbalanced : report.Balanced) (diagnostic : Diagnostic) :
    (report.file diagnostic).Balanced := by
  refine ⟨fun hfixing => ?_, fun hfixing => ?_⟩
  · rw [fixing_file] at hfixing
    rw [edits_file, hfixing, hbalanced.unwanted hfixing]
    rfl
  · rw [fixing_file] at hfixing
    have hwanted := hbalanced.wanted hfixing
    rw [fixable] at hwanted ⊢
    rw [diagnostics_file, edits_file, hfixing, if_pos rfl, List.filter_append, List.map_append,
      List.map_append, hwanted]
    cases hedit : diagnostic.edit? <;> simp [Diagnostic.isFixable, hedit]

/-- **So does filing any number of diagnostics.** -/
theorem Balanced.fileAll (hbalanced : report.Balanced) (diagnostics : List Diagnostic) :
    (report.fileAll diagnostics).Balanced := by
  induction diagnostics generalizing report with
  | nil => exact hbalanced
  | cons diagnostic rest ih =>
    rw [fileAll_cons]
    exact ih (hbalanced.file diagnostic)

theorem balanced_ofDiagnostics (fixing : Bool) (diagnostics : List Diagnostic) :
    (ofDiagnostics fixing diagnostics).Balanced := by
  rw [← fileAll_empty]
  exact (balanced_empty fixing).fileAll diagnostics

/-- There are as many edits as diagnostics that can be repaired. -/
theorem Balanced.length_edits (hbalanced : report.Balanced) (hfixing : report.fixing = true) :
    report.edits.length = report.fixable.length := by
  have hlength := congrArg List.length (hbalanced.wanted hfixing)
  rw [List.length_map, List.length_map] at hlength
  exact hlength.symm

end Report

end DocLint

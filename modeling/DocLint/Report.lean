import DocLint.Diagnostic

/-!
# Reports

A report collects what is found in one pass over a source. It keeps two lists: the diagnostics, in
the order in which they were found, and the edits of those that can be repaired. Edits are queued
only if the report was opened for fixing. A notice that fails leaves the report as it was.

Nothing in the type of a report ties the two lists to each other.
-/

namespace DocLint

/-- The findings of one pass. -/
structure Report where
  /-- Whether edits are wanted. -/
  fixing : Bool
  /-- What has been found, in order. -/
  diagnostics : List Diagnostic
  /-- The edits that have been queued, in order. -/
  edits : List Edit

namespace Report

/-- A report without diagnostics. -/
def empty (fixing : Bool) : Report :=
  ⟨fixing, [], []⟩

/-- The errors. -/
def errors (report : Report) : List Diagnostic :=
  report.diagnostics.filter fun diagnostic => diagnostic.severity == .error

/-- The warnings. -/
def warnings (report : Report) : List Diagnostic :=
  report.diagnostics.filter fun diagnostic => diagnostic.severity == .warning

/-- The diagnostics that can be repaired. -/
def fixable (report : Report) : List Diagnostic :=
  report.diagnostics.filter Diagnostic.isFixable

/-- The codes of the diagnostics. -/
def codes (report : Report) : List String :=
  report.diagnostics.map Diagnostic.code

/-- Notes a diagnostic. -/
def note (report : Report) (diagnostic : Diagnostic) : Report :=
  { report with diagnostics := report.diagnostics ++ [diagnostic] }

/-- Queues an edit, if edits are wanted. -/
def queue (report : Report) (edit : Edit) : Report :=
  if report.fixing then { report with edits := report.edits ++ [edit] } else report

/-- Notes a diagnostic and queues its edit, if it has one. -/
def file (report : Report) (diagnostic : Diagnostic) : Report :=
  match diagnostic.edit? with
  | none => report.note diagnostic
  | some edit => (report.note diagnostic).queue edit

/-- Files diagnostics one after the other. -/
def fileAll (report : Report) (diagnostics : List Diagnostic) : Report :=
  diagnostics.foldl file report

/-- Posts one notice: its diagnostic or its fault, and the report after it. -/
def post (report : Report) (filler : Template.Filler) (source : Source) (notice : Notice) :
    Except Fault Diagnostic × Report :=
  match notice.diagnosticBy filler source with
  | .ok diagnostic => (.ok diagnostic, report.file diagnostic)
  | .error fault => (.error fault, report)

end Report

end DocLint

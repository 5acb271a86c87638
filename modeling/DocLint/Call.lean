import DocLint.Report

/-!
# Calls of a report

A report is given notice in three ways: of an error, of a warning, and of an error together with the
edit that repairs it. So an edit never comes with a warning. The first two ways are answered with
the diagnostic, the third with whether the edit was queued.

How a template is filled with values is left open here. Filling may fail, and so may looking up the
position of the call.
-/

namespace DocLint

/-- What a call says about a position. -/
structure Remark where
  /-- The template of the message. -/
  template : String
  /-- The position that is blamed. -/
  position : Int
  /-- The short name of the rule. -/
  code : String
  /-- The values for the template. -/
  data : List Datum
  /-- The family of checks that the rule belongs to; may be empty. -/
  origin : String

/-- A call of a report. -/
inductive Call where
  /-- Something is wrong. -/
  | error (remark : Remark)
  /-- Something may be wrong. -/
  | warning (remark : Remark)
  /-- Something is wrong, and the edit repairs it. -/
  | fixable (remark : Remark) (edit : Edit)

/-- The answer to a call. -/
inductive Answer where
  /-- The diagnostic that was noted. -/
  | noted (diagnostic : Diagnostic)
  /-- Whether the edit was queued. -/
  | queued (whether : Bool)
  deriving DecidableEq

namespace Call

/-- What the call says. -/
def remark : Call → Remark
  | error remark => remark
  | warning remark => remark
  | fixable remark _ => remark

/-- How grave it is. -/
def severity : Call → Severity
  | error _ => .error
  | warning _ => .warning
  | fixable _ _ => .error

/-- The edit that comes with the call. -/
def edit? : Call → Option Edit
  | fixable _ edit => some edit
  | _ => none

/-- The notice that the call gives. -/
def notice (call : Call) : Notice :=
  { call.remark with severity := call.severity, edit? := call.edit? }

/-- The answer to the call, given its diagnostic and whether edits are wanted. -/
def answer (call : Call) (fixing : Bool) (diagnostic : Diagnostic) : Answer :=
  match call with
  | error _ => .noted diagnostic
  | warning _ => .noted diagnostic
  | fixable _ _ => .queued fixing

end Call

namespace Report

/-- Answers a call or fails, and says what the report is after it. -/
def answer (report : Report) (filler : Template.Filler) (source : Source) (call : Call) :
    Except Fault Answer × Report :=
  let (posted, after) := report.post filler source call.notice
  (posted.map (call.answer report.fixing), after)

/-- The report after a history of calls, of which those that fail leave no trace. -/
def answerAll (filler : Template.Filler) (source : Source) : Report → List Call → Report
  | report, [] => report
  | report, call :: calls => answerAll filler source (report.answer filler source call).2 calls

/-- A new report after a history of calls. -/
def after (filler : Template.Filler) (source : Source) (fixing : Bool) (calls : List Call) :
    Report :=
  answerAll filler source (empty fixing) calls

end Report

end DocLint

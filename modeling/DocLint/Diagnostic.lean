import DocLint.Source

/-!
# Diagnostics

A diagnostic says what is wrong at a position. One that can be repaired carries the edit that
repairs it: the new text of a single token.

A `Notice` is a diagnostic in the making. Its message is a template still to be filled, and its
position still has to be looked up. Either may fail, the template first; then there is no
diagnostic.
-/

namespace DocLint

/-- How grave a diagnostic is. -/
inductive Severity where
  | error
  | warning
  deriving DecidableEq

/-- The name of a severity in listings. -/
def Severity.name : Severity → String
  | .error => "error"
  | .warning => "warning"

/-- A new text for a single token. -/
structure Edit where
  /-- Where the token stands. -/
  position : Int
  /-- Its new text. -/
  content : String
  deriving DecidableEq

/-- What is wrong at a position. -/
structure Diagnostic where
  /-- How grave it is. -/
  severity : Severity
  /-- The short name of the rule. -/
  code : String
  /-- The message. -/
  message : String
  /-- The position that is blamed. -/
  position : Int
  /-- The line of the token at that position. -/
  line : Int
  /-- The family of checks that the rule belongs to; may be empty. -/
  origin : String
  /-- The values that the message mentions. -/
  data : List Datum
  /-- The edit that repairs it, if there is one. -/
  edit? : Option Edit
  deriving DecidableEq

namespace Diagnostic

/-- Whether an edit can repair what is wrong. -/
def isFixable (diagnostic : Diagnostic) : Bool :=
  diagnostic.edit?.isSome

/-- The code with the family before it. -/
def qualifiedCode (diagnostic : Diagnostic) : String :=
  if diagnostic.origin.isEmpty then diagnostic.code
  else diagnostic.origin ++ "." ++ diagnostic.code

end Diagnostic

/-- A diagnostic whose message and line are not known yet. -/
structure Notice where
  /-- How grave it is. -/
  severity : Severity
  /-- The template of the message. -/
  template : String
  /-- The position that is blamed. -/
  position : Int
  /-- The short name of the rule. -/
  code : String
  /-- The values for the template. -/
  data : List Datum
  /-- The family of checks that the rule belongs to; may be empty. -/
  origin : String
  /-- The edit that repairs it, if there is one. -/
  edit? : Option Edit

namespace Notice

/-- Fills the template of a notice in a given way and looks its line up. -/
def diagnosticBy (filler : Template.Filler) (notice : Notice) (source : Source) :
    Except Fault Diagnostic := do
  let message ← (Template.messageBy filler notice.template notice.data).mapError Fault.template
  let line ← source.line notice.position
  return { notice with message, line }

/-- Fills the template of a notice and looks its line up. -/
def diagnostic (notice : Notice) (source : Source) : Except Fault Diagnostic :=
  notice.diagnosticBy Template.fill source

end Notice

end DocLint

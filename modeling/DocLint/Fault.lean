import DocLint.Kind
import DocLint.Text.Quoted
import DocLint.Text.Template

/-!
# Faults

A fault ends an operation without a result. Most of them say that the tokens contradict each other;
a few say that a message or a set of edits is ill-formed. A violated style rule is not a fault: it
is reported and the checks go on.
-/

namespace DocLint

/-- Why an operation has no result. -/
inductive Fault where
  /-- No token stands at the position. -/
  | outOfRange (position : Int)
  /-- A token was needed where the search had found none. -/
  | noToken
  /-- Tags were needed and none were given. -/
  | noTags
  /-- Comments of tokens of this kind are not checked. -/
  | uncheckedKind (kind : Kind)
  /-- No comment can be looked for at a token of this kind. -/
  | notADeclaration (kind : Kind) (position : Int)
  /-- A token has no partner. -/
  | unmatchedDelimiter (kind : Kind) (position : Int)
  /-- The end of a doc comment does not know its beginning. -/
  | closerWithoutOpener (position : Int)
  /-- The beginning of a doc comment does not know its end. -/
  | openerWithoutCloser (position : Int)
  /-- No doc comment begins at the position, or it has no end. -/
  | noDocComment (position : Int)
  /-- The function has no parameter list. -/
  | noParameterList (position : Int)
  /-- The brackets of the parameter list lead in a circle. -/
  | circularBrackets (position : Int)
  /-- An edit is aimed at no token. -/
  | editOutside (position : Int)
  /-- Two edits of one token disagree. -/
  | editConflict (position : Int) (earlier later : String)
  /-- A message template does not fit its values. -/
  | template (fault : Template.Fault)
  deriving DecidableEq

/-- The wording of a fault. -/
def Fault.message : Fault → String
  | .outOfRange position => "No token stands at position " ++ toString position
  | .noToken => "A token is missing"
  | .noTags => "A tag is missing"
  | .uncheckedKind kind => "Comments of a " ++ kind.label ++ " token are not checked"
  | .notADeclaration kind _ => "Cannot locate a comment for a " ++ kind.label ++ " token"
  | .unmatchedDelimiter kind position =>
    "Token " ++ kind.label ++ " at " ++ toString position ++ " has no matching delimiter"
  | .closerWithoutOpener position =>
    "Doc comment close tag at " ++ toString position ++ " has no opener"
  | .openerWithoutCloser position =>
    "Doc comment open tag at " ++ toString position ++ " has no closer"
  | .noDocComment position => "No doc comment opens at position " ++ toString position
  | .noParameterList position =>
    "Function at " ++ toString position ++ " has no parameter list"
  | .circularBrackets position =>
    "Brackets of the function at " ++ toString position ++ " lead in a circle"
  | .editOutside position =>
    "Edit targets position " ++ toString position ++ " outside the token stream"
  | .editConflict position earlier later =>
    "Conflicting edits for token " ++ toString position ++ ": " ++ Text.quoted earlier ++
      " vs " ++ Text.quoted later
  | .template fault => fault.message

/-- The position that a fault is about. -/
def Fault.position? : Fault → Option Int
  | .outOfRange position => some position
  | .notADeclaration _ position => some position
  | .unmatchedDelimiter _ position => some position
  | .closerWithoutOpener position => some position
  | .openerWithoutCloser position => some position
  | .noDocComment position => some position
  | .noParameterList position => some position
  | .circularBrackets position => some position
  | .editOutside position => some position
  | .editConflict position _ _ => some position
  | .noToken | .noTags | .uncheckedKind _ | .template _ => none

end DocLint

import DocLint.Checker

/-!
# Fixing

Edits are applied to all tokens at once. Two edits of one token have to agree, and an edit has to be
aimed at a token; otherwise the first edit that offends decides the fault. Kinds, lines and
references never change, and no token is added or removed.

Fixing repeats a pass and the edits that it asks for until a pass asks for none or the budget of
passes is used up. Either way the last report describes the source that is returned.
-/

namespace DocLint

/-- What is wrong with an edit, given the edits before it. -/
def Edit.fault? (size : Nat) (earlier : List Edit) (edit : Edit) : Option Fault :=
  if 0 ≤ edit.position ∧ edit.position < size then
    match earlier.find? fun other => other.position == edit.position with
    | none => none
    | some other =>
      if other.content = edit.content then none
      else some (.editConflict edit.position other.content edit.content)
  else some (.editOutside edit.position)

/-- The first fault in a list of edits. -/
def Edit.firstFault? (size : Nat) : (earlier : List Edit) → List Edit → Option Fault
  | _, [] => none
  | earlier, edit :: rest =>
    match edit.fault? size earlier with
    | some fault => some fault
    | none => Edit.firstFault? size (earlier ++ [edit]) rest

/-- A token after the edits of the token at its place. -/
def Token.edited (edits : List Edit) (index : Nat) (token : Token) : Token :=
  match edits.find? fun edit => edit.position == (index : Int) with
  | some edit => { token with content := edit.content }
  | none => token

namespace Source

variable {m : Type → Type} [Monad m] [Reporting m]

/-- The source after edits. -/
def edited (source : Source) (edits : List Edit) : Source :=
  ⟨source.tokens.mapIdx (Token.edited edits)⟩

/-- Applies edits. -/
def apply (source : Source) (edits : List Edit) : Except Fault Source :=
  match Edit.firstFault? source.size [] edits with
  | some fault => .error fault
  | none => .ok (source.edited edits)

/-- The number of passes after which fixing gives up, if nothing else is asked for. -/
def defaultPasses : Nat := 50

/-- Fixes the source in at most the given number of passes. -/
def fix (checkers : List (Checker m)) : (passes : Nat) → Source → Except Fault (Source × Report)
  | 0, source => do
    let report ← source.report checkers false
    return (source, report)
  | passes + 1, source => do
    let report ← source.report checkers true
    if report.edits.isEmpty then return (source, report)
    else
      let next ← source.apply report.edits
      fix checkers passes next

end Source

end DocLint

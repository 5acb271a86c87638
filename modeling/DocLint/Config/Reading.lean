/-!
# Reading with all faults

Reading untyped data does not stop at the first fault: all faults of all fields are collected. A
`Reading` is therefore combined from independent parts, and never made to depend on an earlier one.
-/

namespace DocLint

/-- What is wrong with a value. -/
inductive ValueFault where
  /-- A section is not an object. -/
  | notAnObject
  /-- A field is not known. -/
  | unknownField
  /-- A field has to be present. -/
  | missingField
  /-- A number or text does not stand for a truth value. -/
  | notATruthValue
  /-- The value is of a sort that never stands for a truth value. -/
  | wrongSortForTruth
  /-- A text does not stand for a whole number. -/
  | notAWholeNumber
  /-- A number has a fraction. -/
  | fractionalNumber
  /-- A number is not finite. -/
  | boundlessNumber
  /-- A number is too large to be read. -/
  | unreadableSize
  /-- The value is of a sort that never stands for a number. -/
  | wrongSortForNumber
  /-- A number is below its range. -/
  | tooSmall
  /-- A number is above its range. -/
  | tooLarge
  /-- The value is not a text. -/
  | notAText
  /-- A text is empty. -/
  | emptyText
  /-- A text is not the name of a tag. -/
  | notATagName
  /-- The value is not a list. -/
  | notAList
  /-- The value is not one of the names of a closed list. -/
  | unknownChoice
  /-- Two tags have the same name. -/
  | repeatedTagName
  deriving DecidableEq

/-- The name of a fault in a listing of faults. -/
def ValueFault.name : ValueFault → String
  | .notAnObject => "model_type"
  | .unknownField => "extra_forbidden"
  | .missingField => "missing"
  | .notATruthValue => "bool_parsing"
  | .wrongSortForTruth => "bool_type"
  | .notAWholeNumber => "int_parsing"
  | .fractionalNumber => "int_from_float"
  | .boundlessNumber => "finite_number"
  | .unreadableSize => "int_parsing_size"
  | .wrongSortForNumber => "int_type"
  | .tooSmall => "greater_than_equal"
  | .tooLarge => "less_than_equal"
  | .notAText => "string_type"
  | .emptyText => "string_too_short"
  | .notATagName => "string_pattern_mismatch"
  | .notAList => "list_type"
  | .unknownChoice => "enum"
  | .repeatedTagName => "value_error"

/-- The explanation that goes with a fault, where its name does not say enough. -/
def ValueFault.note? : ValueFault → Option String
  | .repeatedTagName => some "tag names must be unique"
  | _ => none

/-- A step on the way to a value. -/
inductive PathStep where
  /-- Into a field of an object. -/
  | field (name : String)
  /-- To an item of a list. -/
  | item (index : Nat)
  deriving DecidableEq

/-- A step as it is compared with others. -/
def PathStep.text : PathStep → String
  | .field name => name
  | .item index => toString index

/-- A fault with the way to the value that has it. -/
structure Issue where
  /-- The way to the value. -/
  path : List PathStep
  /-- What is wrong with it. -/
  fault : ValueFault
  deriving DecidableEq

/-- An issue seen from one step further out. -/
def Issue.under (step : PathStep) (issue : Issue) : Issue :=
  { issue with path := step :: issue.path }

/-- Lists of texts in the order of a dictionary; a beginning comes before its continuations. -/
def textsAtMost : List String → List String → Bool
  | [], _ => true
  | _ :: _, [] => false
  | a :: as, b :: bs => if a = b then textsAtMost as bs else decide (a < b)

/-- Issues in the order of their paths. -/
def Issue.sort (issues : List Issue) : List Issue :=
  issues.mergeSort fun a b => textsAtMost (a.path.map PathStep.text) (b.path.map PathStep.text)

/-- The result of reading: a value or all the issues. -/
abbrev Reading (α : Type) := Except (List Issue) α

namespace Reading

/-- A reading that fails at the value itself. -/
def fail {α : Type} (fault : ValueFault) : Reading α :=
  .error [⟨[], fault⟩]

/-- A reading of a part, seen from the whole. -/
def under {α : Type} (step : PathStep) (reading : Reading α) : Reading α :=
  reading.mapError fun issues => issues.map (Issue.under step)

/-- Two readings side by side; the issues of both are kept. -/
def both {α β γ : Type} (combine : α → β → γ) (first : Reading α) (second : Reading β) :
    Reading γ :=
  match first, second with
  | .ok a, .ok b => .ok (combine a b)
  | .ok _, .error issues => .error issues
  | .error issues, .ok _ => .error issues
  | .error issues, .error more => .error (issues ++ more)

/-- A reading of a function next to a reading of its argument. -/
def next {α β : Type} (function : Reading (α → β)) (argument : Reading α) : Reading β :=
  both (fun f a => f a) function argument

/-- Readings of all items of a list. -/
def all {α : Type} : List (Reading α) → Reading (List α)
  | [] => .ok []
  | reading :: readings => both (fun a as => a :: as) reading (all readings)

end Reading

end DocLint

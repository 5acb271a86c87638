/-!
# Message templates

A template is a text with places for values. `%s` takes any value, `%d` takes a number, and `%%`
stands for a percent sign. Filling walks from left to right and takes the values in order; the
first thing that goes wrong decides the fault. Every value has to be used.

These are the places that the templates of the library have. A report does not depend on them: it
takes the way in which templates are filled as it comes.
-/

namespace DocLint

/-- A value that a message mentions. -/
inductive Datum where
  /-- A whole number. -/
  | number (value : Int)
  /-- A text. -/
  | text (value : String)
  /-- A value of any other sort, by the text that shows it. -/
  | other (shown : String)
  deriving DecidableEq

/-- How a value is shown inside a message. -/
def Datum.shown : Datum → String
  | .number value => toString value
  | .text value => value
  | .other shown => shown

namespace Template

/-- Why a template cannot be filled. -/
inductive Fault where
  /-- The template ends in the middle of a place. -/
  | incomplete
  /-- A place asks for something unknown; the index is that of the character in the template. -/
  | unsupported (mark : Char) (index : Nat)
  /-- There are more places than values. -/
  | tooFewValues
  /-- There are more values than places. -/
  | tooManyValues
  /-- A place for a number meets a text. -/
  | notANumber
  deriving DecidableEq

/-- A piece of a template. -/
inductive Piece where
  /-- A character that stands for itself. -/
  | plain (c : Char)
  /-- A place for any value. -/
  | value
  /-- A place for a number. -/
  | number
  /-- A place of an unknown sort, with the index of its character. -/
  | unknown (mark : Char) (index : Nat)
  /-- A percent sign at the very end. -/
  | cut
  deriving DecidableEq

/-- The piece that a percent sign and the character after it stand for. -/
def Piece.ofMark (mark : Char) (index : Nat) : Piece :=
  if mark = '%' then .plain '%'
  else if mark = 's' then .value
  else if mark = 'd' then .number
  else .unknown mark index

/-- The pieces of a template whose first character has the given index. -/
def pieces (index : Nat) : List Char → List Piece
  | [] => []
  | [c] => [if c = '%' then .cut else .plain c]
  | c :: d :: rest =>
    if c = '%' then Piece.ofMark d (index + 1) :: pieces (index + 2) rest
    else .plain c :: pieces (index + 1) (d :: rest)

/-- What a piece shows for a value. -/
def Piece.shown : Piece → Datum → Except Fault String
  | .plain c, _ => .ok (String.singleton c)
  | .value, datum => .ok datum.shown
  | .number, .number shown => .ok (toString shown)
  | .number, .text _ => .error .notANumber
  | .number, .other _ => .error .notANumber
  | .unknown mark index, _ => .error (.unsupported mark index)
  | .cut, _ => .error .incomplete

/-- Fills pieces with values. -/
def fillPieces : List Piece → List Datum → Except Fault String
  | [], [] => .ok ""
  | [], _ :: _ => .error .tooManyValues
  | .plain c :: rest, data => do
    let filled ← fillPieces rest data
    return String.singleton c ++ filled
  | .cut :: _, _ => .error .incomplete
  | _ :: _, [] => .error .tooFewValues
  | piece :: rest, datum :: data => do
    let shown ← piece.shown datum
    let filled ← fillPieces rest data
    return shown ++ filled

/-- Fills a template with values. -/
def fill (template : String) (data : List Datum) : Except Fault String :=
  fillPieces (pieces 0 template.toList) data

/-- How a faulty character is shown: anything outside the common range is a question mark. -/
def shownMark (mark : Char) : Char :=
  if 31 ≤ mark.toNat && mark.toNat ≤ 126 then mark else '?'

/-- The wording of a fault. -/
def Fault.message : Fault → String
  | .incomplete => "incomplete format"
  | .unsupported mark index =>
    "unsupported format character '" ++ String.singleton (shownMark mark) ++ "' (0x" ++
      String.ofList (Nat.toDigits 16 mark.toNat) ++ ") at index " ++ toString index
  | .tooFewValues => "not enough values for the template"
  | .tooManyValues => "not all values were used by the template"
  | .notANumber => "a number is required"

/-- A way to fill templates with values. -/
abbrev Filler := String → List Datum → Except Fault String

/-- The message of a template that is filled in a given way: without values it is taken as it
stands. -/
def messageBy (filler : Filler) (template : String) (data : List Datum) : Except Fault String :=
  if data.isEmpty then .ok template else filler template data

/-- The message of a template. -/
def message (template : String) (data : List Datum) : Except Fault String :=
  messageBy fill template data

end Template

end DocLint

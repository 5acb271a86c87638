import DocLint.Text.Blank

/-!
# The text of a parameter tag

The text after a parameter tag reads `type $name comment`, where the type and the comment may be
left out. The variable begins at the first `$` or `&`. What stands before it is the type, what
follows up to the next blank is the variable, and the rest of the line after the blanks is the
comment. A text that goes on over several lines, or whose mark is not followed by a name, has no
variable: all of it is a type.

`canonical` writes the fields again with single spaces between them.
-/

namespace DocLint

/-- The fields of a parameter tag's text, with the number of blanks that set them apart. -/
structure ParamText where
  /-- The type, without blanks at its ends. -/
  type : String
  /-- The number of blanks around the type. -/
  typeSpace : Nat
  /-- The variable with its mark; empty if there is none. -/
  variableName : String
  /-- The number of blanks after the variable. -/
  variableSpace : Nat
  /-- The comment. -/
  comment : String
  deriving DecidableEq

namespace ParamText

/-- A text without any field. -/
def empty : ParamText :=
  ⟨"", 0, "", 0, ""⟩

/-- Whether a character opens a variable. -/
def isMark (c : Char) : Bool :=
  c == '$' || c == '&'

/-- The fields of a text that is all type. -/
def typeOnly (text : List Char) : ParamText :=
  { empty with type := String.ofList (Text.strip text) }

/-- The fields of a text that has no mark. -/
def ofUnmarked (text : List Char) : ParamText :=
  { typeOnly text with typeSpace := text.length - (Text.strip text).length }

/-- The comment in what follows the blanks after the variable: one line, which may end with a line
feed. -/
def comment? (rest : List Char) : Option (List Char) :=
  match rest.dropWhile (· != '\n') with
  | [] => some rest
  | ['\n'] => some (rest.takeWhile (· != '\n'))
  | _ => none

/-- The fields of a text that is `type` followed by a mark and the characters `tail`, if there is a
variable. -/
def ofMarked? (type : List Char) (mark : Char) (tail : List Char) : Option ParamText :=
  let name := tail.takeWhile Text.isInk
  let spaced := tail.dropWhile Text.isInk
  let blanks := spaced.takeWhile Text.isBlank
  if name.isEmpty then none
  else
    (comment? (spaced.dropWhile Text.isBlank)).map fun comment =>
      { ofUnmarked type with
        variableName := String.ofList (mark :: name)
        variableSpace := blanks.length
        comment := String.ofList comment }

/-- The fields of a text. -/
def ofChars (text : List Char) : ParamText :=
  match text.dropWhile fun c => !isMark c with
  | [] => ofUnmarked text
  | mark :: tail =>
    (ofMarked? (text.takeWhile fun c => !isMark c) mark tail).getD (typeOnly text)

/-- The fields of a parameter tag's text. -/
def parse (text : String) : ParamText :=
  ofChars text.toList

/-- The fields of a tag that may have no text on its line. -/
def ofInline : Option String → ParamText
  | some text => parse text
  | none => empty

/-- The number of blanks between two fields. -/
def fieldSpace : Nat := 1

/-- The fields written with single spaces between them. -/
def canonical (fields : ParamText) : String :=
  (if fields.type.isEmpty then "" else fields.type ++ " ") ++ fields.variableName ++
    (if fields.comment.isEmpty then "" else " " ++ fields.comment)

end ParamText

end DocLint

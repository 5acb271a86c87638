import DocLint.Diagnostic
import DocLint.Text.Case

/-!
# Violations

Every way in which a comment can break the style rules, with its code, the template of its message
and the values that the message mentions.
-/

namespace DocLint

/-- A tag's name as a part of a code: without the at signs, and with a capital at the front. -/
def codeName (tagName : String) : String :=
  match tagName.toList.dropWhile (· == '@') with
  | [] => ""
  | c :: rest => String.ofList (Text.capitalForm c ++ rest)

/-- A broken style rule. -/
inductive Violation where
  /-- An ordinary comment stands where a doc comment should. -/
  | wrongCommentStyle (construct : String)
  /-- There is no doc comment. -/
  | missingDocComment (construct : String)
  /-- A comment has no short description. -/
  | missingShortDescription (construct : String)
  /-- The file comment is not right below the open tag. -/
  | spacingBeforeComment
  /-- There is not exactly one blank line after the file comment. -/
  | spacingAfterComment
  /-- The short description does not begin on the first line. -/
  | spacingBeforeShort
  /-- The short description of a class has several lines. -/
  | shortSingleLine
  /-- The short description begins wrongly. -/
  | shortNotCapital
  /-- The short description does not end with a full stop. -/
  | missingShortFullStop
  /-- There is not exactly one blank line between the descriptions. -/
  | spacingBetweenDescriptions
  /-- The long description begins wrongly. -/
  | longNotCapital
  /-- The long description does not end with a full stop. -/
  | missingLongFullStop
  /-- There is not exactly one blank line before the tags. -/
  | spacingBeforeTags
  /-- There is not exactly one blank line before the first parameter tag. -/
  | spacingBeforeFirstParam
  /-- Something else stands on the last line of the comment. -/
  | closeTagOwnLine
  /-- There are blank lines at the end of the comment. -/
  | spacingBeforeClose
  /-- There are blank lines between the comment and what it documents. -/
  | spacingAfter (construct : String)
  /-- A class comment has a tag. -/
  | tagNotAllowed (tagName : String)
  /-- A tag that may be present once is present again. -/
  | duplicateTag (tagName construct : String)
  /-- A tag has no text on its line. -/
  | emptyTag (tagName construct : String)
  /-- A required tag is not present. -/
  | missingTag (tagName construct : String)
  /-- Another tag is expected at this place among the tags of the table. -/
  | tagOrder (place : Nat) (tagName : String)
  /-- No copyright tag names the right years and holder. -/
  | incorrectCopyright (startYear : Int) (currentYear? : Option Int) (holder : String)
  /-- A license tag does not have an address and a name. -/
  | incompleteLicense
  /-- A see tag has no text. -/
  | emptySees
  /-- There is a second return tag. -/
  | duplicateReturn
  /-- A return tag names no type. -/
  | missingReturnType
  /-- A throws tag names no exception. -/
  | invalidThrows
  /-- A throws tag has no comment. -/
  | emptyThrows
  /-- The comment of a throws tag begins wrongly. -/
  | throwsNotCapital
  /-- The comment of a throws tag does not end with a full stop. -/
  | throwsMissingFullStop
  /-- A parameter tag names no type. -/
  | missingParamType
  /-- A parameter tag names no variable. -/
  | missingParamName
  /-- There is not one blank around the type of a parameter tag. -/
  | spacingAfterParamType (expected actual : Nat)
  /-- There is not one blank after the variable of a parameter tag. -/
  | spacingAfterParamName (expected actual : Nat)
  /-- A parameter tag names the parameter in other letter case. -/
  | paramNameNoCaseMatch (documented declared : String)
  /-- A parameter tag names another variable. -/
  | paramNameNoMatch (documented declared : String)
  /-- A parameter tag documents no parameter. -/
  | extraParamComment
  /-- A parameter has no tag. -/
  | missingParamTag (declared : String)

namespace Violation

/-- A tag in a class comment is only worth a warning. -/
def severity : Violation → Severity
  | tagNotAllowed _ => .warning
  | _ => .error

/-- The short name of the rule. -/
def code : Violation → String
  | wrongCommentStyle _ => "WrongCommentStyle"
  | missingDocComment _ => "MissingDocComment"
  | missingShortDescription _ => "MissingShortDescription"
  | spacingBeforeComment => "SpacingBeforeComment"
  | spacingAfterComment => "SpacingAfterComment"
  | spacingBeforeShort => "SpacingBeforeShort"
  | shortSingleLine => "ShortSingleLine"
  | shortNotCapital => "ShortNotCapital"
  | missingShortFullStop => "MissingShortFullStop"
  | spacingBetweenDescriptions => "SpacingBetweenDescriptions"
  | longNotCapital => "LongNotCapital"
  | missingLongFullStop => "MissingLongFullStop"
  | spacingBeforeTags => "SpacingBeforeTags"
  | spacingBeforeFirstParam => "SpacingBeforeFirstParam"
  | closeTagOwnLine => "CloseTagOwnLine"
  | spacingBeforeClose => "SpacingBeforeClose"
  | spacingAfter _ => "SpacingAfter"
  | tagNotAllowed _ => "TagNotAllowed"
  | duplicateTag tagName _ => "Duplicate" ++ codeName tagName ++ "Tag"
  | emptyTag tagName _ => "Empty" ++ codeName tagName ++ "Tag"
  | missingTag tagName _ => "Missing" ++ codeName tagName ++ "Tag"
  | tagOrder _ tagName => codeName tagName ++ "TagOrder"
  | incorrectCopyright _ _ _ => "IncorrectCopyright"
  | incompleteLicense => "IncompleteLicense"
  | emptySees => "EmptySees"
  | duplicateReturn => "DuplicateReturn"
  | missingReturnType => "MissingReturnType"
  | invalidThrows => "InvalidThrows"
  | emptyThrows => "EmptyThrows"
  | throwsNotCapital => "ThrowsNotCapital"
  | throwsMissingFullStop => "ThrowsMissingFullStop"
  | missingParamType => "MissingParamType"
  | missingParamName => "MissingParamName"
  | spacingAfterParamType _ _ => "SpacingAfterParamType"
  | spacingAfterParamName _ _ => "SpacingAfterParamName"
  | paramNameNoCaseMatch _ _ => "ParamNameNoCaseMatch"
  | paramNameNoMatch _ _ => "ParamNameNoMatch"
  | extraParamComment => "ExtraParamComment"
  | missingParamTag _ => "MissingParamTag"

/-- A year as a value of a message; an open year is shown by its pattern. -/
def yearDatum : Option Int → Datum
  | some year => .number year
  | none => .text "YYYY"

/-- The values that the message mentions. -/
def data : Violation → List Datum
  | wrongCommentStyle construct => [.text construct]
  | missingDocComment construct => [.text construct]
  | missingShortDescription construct => [.text construct]
  | spacingAfter construct => [.text construct]
  | tagNotAllowed tagName => [.text tagName]
  | duplicateTag tagName construct => [.text tagName, .text construct]
  | emptyTag tagName construct => [.text tagName, .text construct]
  | missingTag tagName construct => [.text tagName, .text construct]
  | tagOrder place tagName => [.number place, .text tagName]
  | incorrectCopyright startYear currentYear? holder =>
    [.number startYear, yearDatum currentYear?, .text holder]
  | spacingAfterParamType expected actual => [.number expected, .number actual]
  | spacingAfterParamName expected actual => [.number expected, .number actual]
  | paramNameNoCaseMatch documented declared => [.text documented, .text declared]
  | paramNameNoMatch documented declared => [.text documented, .text declared]
  | missingParamTag declared => [.text declared]
  | _ => []

/-- The template of the message. -/
def template : Violation → String
  | wrongCommentStyle _ => "You must use \"/**\" style comments for a %s comment"
  | missingDocComment _ => "Missing %s doc comment"
  | missingShortDescription _ => "Missing short description in %s doc comment"
  | spacingBeforeComment => "File comment must be right below the open tag"
  | spacingAfterComment => "There must be exactly one blank line after the file comment"
  | spacingBeforeShort => "Doc comment short description must be on the first line"
  | shortSingleLine => "Class comment short description must be on a single line"
  | shortNotCapital => "Doc comment short description must start with a capital letter"
  | missingShortFullStop => "Short description must end with a full stop"
  | spacingBetweenDescriptions =>
    "There must be exactly one blank line between descriptions in a doc comment"
  | longNotCapital => "Doc comment long description must start with a capital letter"
  | missingLongFullStop => "Long description must end with a full stop"
  | spacingBeforeTags => "There must be exactly one blank line before the tags in a doc comment"
  | spacingBeforeFirstParam =>
    "There must be exactly one blank line before the first param tag in a doc comment"
  | closeTagOwnLine => "The close comment tag must be the only content on the line"
  | spacingBeforeClose => "Additional blank lines found at end of doc comment"
  | spacingAfter _ => "There must be no blank lines after the %s comment"
  | tagNotAllowed _ => "%s tag is not allowed in class comment"
  | duplicateTag _ _ => "Only one %s tag is allowed in a %s comment"
  | emptyTag _ _ => "Content missing for %s tag in %s comment"
  | missingTag _ _ => "Missing %s tag in %s comment"
  | tagOrder _ _ => "The tag in position %s should be the %s tag"
  | incorrectCopyright _ _ _ => "Expected \"%s-%s %s\" for copyright declaration"
  | incompleteLicense => "@license tag must contain a URL and a license name"
  | emptySees => "Content missing for @see tag in function comment"
  | duplicateReturn => "Only 1 @return tag is allowed in a function comment"
  | missingReturnType => "Return type missing for @return tag in function comment"
  | invalidThrows => "Exception type and comment missing for @throws tag in function comment"
  | emptyThrows => "Comment missing for @throws tag in function comment"
  | throwsNotCapital => "@throws comment must start with a capital letter"
  | throwsMissingFullStop => "@throws comment must end with a full stop"
  | missingParamType => "Missing parameter type"
  | missingParamName => "Missing parameter name"
  | spacingAfterParamType _ _ => "Expected %s spaces after parameter type; %s found"
  | spacingAfterParamName _ _ => "Expected %s spaces after parameter name; %s found"
  | paramNameNoCaseMatch _ _ =>
    "Doc comment for parameter %s does not match case of actual variable name %s"
  | paramNameNoMatch _ _ => "Doc comment for parameter %s does not match actual variable name %s"
  | extraParamComment => "Superfluous parameter comment"
  | missingParamTag _ => "Doc comment for parameter \"%s\" missing"

/-- The notice of a violation at a position. -/
def notice (violation : Violation) (origin : String) (position : Int) (edit? : Option Edit) :
    Notice :=
  ⟨violation.severity, violation.template, position, violation.code, violation.data, origin, edit?⟩

end Violation

end DocLint

import DocLint.Config
import DocLint.Config.Reading
import DocLint.Config.Value
import DocLint.Text.Numeral
import DocLint.Text.Word

/-!
# Loading a configuration

A configuration is read from untyped data. Fields that are left out keep their default values, and
fields that are not known are refused. Truth values and numbers may be spelt in several ways, texts
and lists may not. All faults are reported, in the order of the paths to them.
-/

namespace DocLint

open Reading

/-! ## Single values -/

/-- A text with the capitals of the basic alphabet made small. -/
def smallAscii (text : String) : String :=
  String.ofList (text.toList.map Char.toLower)

/-- The truth value that a text stands for. -/
def truthOfText? (text : String) : Option Bool :=
  let word := smallAscii text
  if ["0", "off", "f", "false", "n", "no"].contains word then some false
  else if ["1", "on", "t", "true", "y", "yes"].contains word then some true
  else none

/-- A bound for numbers that fit a machine word: they lie between it and its negative. -/
def wordBound : Int := 0x8000000000000000

/-- The whole number that a measured one stands for. It has to lie strictly within the bound of a
word, where no neighbour is rounded to the bound itself. -/
def Measure.toInteger : Measure → Except ValueFault Int
  | .boundless => .error .boundlessNumber
  | .fraction => .error .fractionalNumber
  | .whole value =>
    if -wordBound < value ∧ value < wordBound then .ok value else .error .unreadableSize

/-- The truth value that a number stands for. -/
def truthOfNumber (value : Int) : Reading Bool :=
  if value = 0 then .ok false else if value = 1 then .ok true else fail .notATruthValue

/-- Reads a truth value. A number that does not fit a word is of the wrong sort. -/
def readTruth : Value → Reading Bool
  | .bool value => .ok value
  | .integer value =>
    if -wordBound ≤ value ∧ value < wordBound then truthOfNumber value
    else fail .wrongSortForTruth
  | .measure measure =>
    match measure.toInteger with
    | .ok value => truthOfNumber value
    | .error _ => fail .wrongSortForTruth
  | .text text =>
    match truthOfText? text with
    | some value => .ok value
    | none => fail .notATruthValue
  | _ => fail .wrongSortForTruth

/-- Reads a whole number. Only measured numbers and texts are limited in size. -/
def readInteger : Value → Reading Int
  | .integer value => .ok value
  | .bool value => .ok (if value then 1 else 0)
  | .measure measure =>
    match measure.toInteger with
    | .ok value => .ok value
    | .error fault => fail fault
  | .text text =>
    match Text.readNumeral text with
    | .ok value => .ok value
    | .error .tooLong => fail .unreadableSize
    | .error .malformed => fail .notAWholeNumber
  | _ => fail .wrongSortForNumber

/-- The first year that a configuration may name. -/
def earliestYear : Int := 1970

/-- The last year that a configuration may name. -/
def latestYear : Int := 9999

/-- Reads a year. -/
def readYear (value : Value) : Reading Int :=
  match readInteger value with
  | .error issues => .error issues
  | .ok year =>
    if year < earliestYear then fail .tooSmall
    else if latestYear < year then fail .tooLarge
    else .ok year

/-- Reads a year that may be left open. -/
def readYear? : Value → Reading (Option Int)
  | .null => .ok none
  | value => some <$> readYear value

/-- Reads a text. -/
def readText : Value → Reading String
  | .text text => .ok text
  | _ => fail .notAText

/-- Reads a text that is not empty. -/
def readFilledText (value : Value) : Reading String :=
  match readText value with
  | .error issues => .error issues
  | .ok text => if text.isEmpty then fail .emptyText else .ok text

/-- Whether a text is the name of a tag: an at sign, then word characters and hyphens. -/
def isTagName (text : String) : Bool :=
  match text.toList with
  | '@' :: rest => !rest.isEmpty && rest.all fun c => Text.isWordChar c || c == '-'
  | _ => false

/-- Reads the name of a tag. -/
def readTagName (value : Value) : Reading String :=
  match readText value with
  | .error issues => .error issues
  | .ok text => if isTagName text then .ok text else fail .notATagName

/-- Reads a policy. -/
def readPolicy : Value → Reading Capitalization
  | .text text =>
    match Capitalization.ofName? text with
    | some policy => .ok policy
    | none => fail .unknownChoice
  | _ => fail .unknownChoice

/-- Reads a list with a reader of its items. -/
def readList {α : Type} (readItem : Value → Reading α) : Value → Reading (List α)
  | .list items =>
    Reading.all (items.mapIdx fun index item => (readItem item).under (.item index))
  | _ => fail .notAList

/-! ## Objects -/

/-- Reads a field that may be left out. -/
def readField {α : Type} (fields : Fields) (name : String) (default : α)
    (read : Value → Reading α) : Reading α :=
  match fields.lookup name with
  | none => .ok default
  | some value => (read value).under (.field name)

/-- Reads a field that has to be present. -/
def readRequired {α : Type} (fields : Fields) (name : String) (read : Value → Reading α) :
    Reading α :=
  match fields.lookup name with
  | none => .error [⟨[.field name], .missingField⟩]
  | some value => (read value).under (.field name)

/-- Refuses fields that are not known. -/
def refuseOthers (fields : Fields) (known : List String) : Reading Unit :=
  match (fields.map Prod.fst).filter fun name => !known.contains name with
  | [] => .ok ()
  | names => .error (names.map fun name => ⟨[.field name], .unknownField⟩)

/-- Reads an object with a reader of its fields, refusing fields that are not known. -/
def readObject {α : Type} (known : List String) (read : Fields → Reading α) : Value → Reading α
  | .object fields => Reading.both (fun a _ => a) (read fields) (refuseOthers fields known)
  | _ => fail .notAnObject

/-- Reads an entry of the table of tags. -/
def TagSpec.load : Value → Reading TagSpec :=
  readObject ["name", "required", "allow_multiple"] fun fields =>
    (TagSpec.mk <$> readRequired fields "name" readTagName)
      |>.next (readField fields "required" false readTruth)
      |>.next (readField fields "allow_multiple" false readTruth)

/-- Reads the table of tags, whose names have to differ. -/
def readTagTable (value : Value) : Reading (List TagSpec) :=
  match readList TagSpec.load value with
  | .error issues => .error issues
  | .ok specs => if (specs.map TagSpec.name).Nodup then .ok specs else fail .repeatedTagName

/-- Reads the section of file comments. -/
def FileRules.load : Value → Reading FileRules :=
  let default : FileRules := {}
  readObject ["enabled", "check_tags", "tags", "copyright_holder", "copyright_start_year",
      "current_year"] fun fields =>
    (FileRules.mk <$> readField fields "enabled" default.enabled readTruth)
      |>.next (readField fields "check_tags" default.checkTags readTruth)
      |>.next (readField fields "tags" default.tags readTagTable)
      |>.next (readField fields "copyright_holder" default.copyrightHolder readFilledText)
      |>.next (readField fields "copyright_start_year" default.copyrightStartYear readYear)
      |>.next (readField fields "current_year" default.currentYear? readYear?)

/-- Reads the section of class comments. -/
def ClassRules.load : Value → Reading ClassRules :=
  let default : ClassRules := {}
  readObject ["enabled", "short_capitalization", "long_capitalization"] fun fields =>
    (ClassRules.mk <$> readField fields "enabled" default.enabled readTruth)
      |>.next (readField fields "short_capitalization" default.shortPolicy readPolicy)
      |>.next (readField fields "long_capitalization" default.longPolicy readPolicy)

/-- Reads the section of function comments. -/
def FunctionRules.load : Value → Reading FunctionRules :=
  let default : FunctionRules := {}
  readObject ["enabled", "short_capitalization", "throws_capitalization",
      "require_short_full_stop", "variadic_suffix", "special_methods"] fun fields =>
    (FunctionRules.mk <$> readField fields "enabled" default.enabled readTruth)
      |>.next (readField fields "short_capitalization" default.shortPolicy readPolicy)
      |>.next (readField fields "throws_capitalization" default.throwsPolicy readPolicy)
      |>.next (readField fields "require_short_full_stop" default.requireShortFullStop readTruth)
      |>.next (readField fields "variadic_suffix" default.variadicSuffix readText)
      |>.next (readField fields "special_methods" default.specialMethods (readList readText))

/-- Reads the three sections. -/
def Config.readSections (fields : Fields) : Reading Config :=
  (Config.mk <$> readField fields "file_comment" {} FileRules.load)
    |>.next (readField fields "class_comment" {} ClassRules.load)
    |>.next (readField fields "function_comment" {} FunctionRules.load)

/-- Loads a configuration, or all that is wrong with it in the order of the paths. -/
def Config.load (fields : Fields) : Reading Config :=
  (readObject ["file_comment", "class_comment", "function_comment"] Config.readSections
    (.object fields)).mapError Issue.sort

end DocLint

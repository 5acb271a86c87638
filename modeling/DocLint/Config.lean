import DocLint.Capitalization

/-!
# Configuration

A configuration has one section for each thing that is documented. Every section can be switched
off; the rest of its fields set what differs from house to house. The default values are the rules
of the house style.
-/

namespace DocLint

/-- An entry of the table of tags that a file comment may have. -/
structure TagSpec where
  /-- The name of the tag, with its at sign. -/
  name : String
  /-- Whether the tag has to be present. -/
  required : Bool := false
  /-- Whether the tag may be present more than once. -/
  repeatable : Bool := false
  deriving DecidableEq

/-- The rules of file comments. -/
structure FileRules where
  /-- Whether file comments are checked. -/
  enabled : Bool := true
  /-- Whether the tags of file comments are checked. -/
  checkTags : Bool := true
  /-- The table of tags, in the order in which they are expected. -/
  tags : List TagSpec :=
    [{ name := "@copyright", required := true, repeatable := true }, { name := "@license" }]
  /-- Who holds the copyright. -/
  copyrightHolder : String := "Vanilla Forums Inc."
  /-- The first year of the copyright. -/
  copyrightStartYear : Int := 2009
  /-- The last year of the copyright; any year will do if it is not set. -/
  currentYear? : Option Int := none
  deriving DecidableEq

/-- The rules of class and interface comments. -/
structure ClassRules where
  /-- Whether class comments are checked. -/
  enabled : Bool := true
  /-- How a short description begins. -/
  shortPolicy : Capitalization := .notLowercase
  /-- How a long description begins. -/
  longPolicy : Capitalization := .notLowercase
  deriving DecidableEq

/-- The rules of function comments. -/
structure FunctionRules where
  /-- Whether function comments are checked. -/
  enabled : Bool := true
  /-- How a short description begins. -/
  shortPolicy : Capitalization := .upperOrNonLetter
  /-- How the comment of a thrown exception begins. -/
  throwsPolicy : Capitalization := .notLowercase
  /-- Whether a short description ends with a full stop. -/
  requireShortFullStop : Bool := false
  /-- How the variable of a superfluous parameter tag has to end to be accepted. -/
  variadicSuffix : String := ",..."
  /-- Functions whose return tags are not checked. -/
  specialMethods : List String := ["__construct", "__destruct"]
  deriving DecidableEq

/-- A configuration. -/
structure Config where
  /-- The rules of file comments. -/
  file : FileRules := {}
  /-- The rules of class and interface comments. -/
  classLike : ClassRules := {}
  /-- The rules of function comments. -/
  function : FunctionRules := {}
  deriving DecidableEq

/-- The place of a tag in the table. -/
def FileRules.expectedOrder? (rules : FileRules) (name : String) : Option Nat :=
  rules.tags.findIdx? fun spec => spec.name == name

end DocLint

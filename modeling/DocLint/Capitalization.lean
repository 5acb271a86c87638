import DocLint.Text.Letter

/-!
# How a text has to begin

A description is judged by the class of its first character. Two policies exist, and they differ on
letters that have no case, such as ideographs: one accepts them and the other does not. They also
differ on an empty text. Which characters are letters, and of which case, is for the caller to say.
-/

namespace DocLint

/-- How the first character of a text is judged. -/
inductive Capitalization where
  /-- A capital letter or no letter at all. -/
  | upperOrNonLetter
  /-- Anything but a small letter. -/
  | notLowercase
  deriving DecidableEq

namespace Capitalization

/-- All policies. -/
def all : List Capitalization :=
  [upperOrNonLetter, notLowercase]

/-- The name of a policy in a configuration. -/
def name : Capitalization → String
  | upperOrNonLetter => "upper_or_non_letter"
  | notLowercase => "not_lowercase"

/-- The policy with a given name. -/
def ofName? (name : String) : Option Capitalization :=
  all.find? fun policy => policy.name == name

/-- Whether a text may begin with a character of this class. -/
def acceptsClass : Capitalization → Text.LetterClass → Bool
  | upperOrNonLetter, .capital => true
  | upperOrNonLetter, .nonLetter => true
  | upperOrNonLetter, _ => false
  | notLowercase, .small => false
  | notLowercase, _ => true

/-- Whether an empty text is accepted. -/
def acceptsEmpty : Capitalization → Bool
  | upperOrNonLetter => false
  | notLowercase => true

/-- Whether a text begins as the policy demands, with characters classed as given. -/
def accepts (policy : Capitalization) (letters : Char → Text.LetterClass) (text : String) : Bool :=
  match text.toList with
  | [] => policy.acceptsEmpty
  | c :: _ => policy.acceptsClass (letters c)

end Capitalization

end DocLint

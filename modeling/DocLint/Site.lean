import DocLint.Block
import DocLint.Check
import DocLint.Config
import DocLint.Signature
import DocLint.Violation

/-!
# The site of a check

A site is all that a rule may look at beside the comment and the report: the source, the declaration
that the comment documents, the configuration, the reader of signatures, and the classes of letters.
Rules report violations at a site.
-/

namespace DocLint

/-- Where a comment is checked, and by which rules. -/
structure Site where
  /-- The source that holds the comment. -/
  source : Source
  /-- Where the documented declaration stands. -/
  anchor : Int
  /-- The configuration. -/
  config : Config
  /-- Supplies what functions declare. -/
  signatures : SignatureReader
  /-- The class of each character. -/
  letters : Char → Text.LetterClass
  /-- The family under which violations are reported. -/
  origin : String

namespace Site

variable {m : Type → Type} [Monad m] [Reporting m]

/-- The line of the token at a position. -/
def line (site : Site) (position : Int) : m Int :=
  Check.ofExcept (site.source.line position)

/-- Reports a violation at a position, with the edit that repairs it if there is one. -/
def blame (site : Site) (position : Int) (violation : Violation) (edit? : Option Edit) : m Unit :=
  Check.post site.source (violation.notice site.origin position edit?)

/-- Reports a violation at a position unless a condition holds. -/
def expect (site : Site) (condition : Bool) (position : Int) (violation : Violation) : m Unit :=
  if condition then pure () else site.blame position violation none

/-- Reports a violation that an edit repairs, unless a condition holds. -/
def expectOrEdit (site : Site) (condition : Bool) (position : Int) (violation : Violation)
    (edit? : Option Edit) : m Unit :=
  if condition then pure () else site.blame position violation edit?

end Site

end DocLint

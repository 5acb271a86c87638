import DocLint.Rule.TagTable
import DocLint.Text.Blank
import DocLint.Text.Digit

/-!
# Rules about single tags of a file comment

The copyright tag and the license tag have checks of their own. Further checks can be registered
under the name of a tag, and a later check of a name takes the place of an earlier one.
-/

namespace DocLint

namespace Rule

open Text

variable {m : Type → Type} [Monad m] [Reporting m]

/-- What is left of a text after a beginning that it has to have. -/
def after? (beginning : List Char) (text : List Char) : Option (List Char) :=
  if beginning.isPrefixOf text then some (text.drop beginning.length) else none

/-- What is left of a text after a year: the given one, or any four digits. -/
def afterYear? (year? : Option Int) (text : List Char) : Option (List Char) :=
  match year? with
  | some year => after? (toString year).toList text
  | none =>
    if (text.take 4).length == 4 && (text.take 4).all isDecimalDigit then some (text.drop 4)
    else none

/-- Whether a text begins with the years and the holder of the copyright. -/
def isCopyright (rules : FileRules) (text : String) : Bool :=
  let rest? := (after? (toString rules.copyrightStartYear ++ "-").toList text.toList)
    |>.bind (afterYear? rules.currentYear?)
    |>.bind (after? (" " ++ rules.copyrightHolder).toList)
  rest?.isSome

/-- One of the copyright tags names the right years and holder; if not, the last one is blamed. -/
def copyright : TagProcessor m := fun site _ tags =>
  let rules := site.config.file
  let right (tag : Tag) : Bool := tag.inline?.any fun inline => isCopyright rules inline.text
  if tags.any right then pure ()
  else do
    let last ← Check.require tags.getLast? .noTags
    site.blame last.position
      (.incorrectCopyright rules.copyrightStartYear rules.currentYear? rules.copyrightHolder) none

/-- Whether a text has a first word with a blank after it. -/
def isLicense (text : String) : Bool :=
  match text.toList with
  | [] => false
  | c :: rest => isInk c && rest.any isBlank

/-- Every license tag with a text has an address and a name. -/
def license : TagProcessor m := fun site _ tags =>
  tags.forM fun tag =>
    match tag.inline? with
    | none => pure ()
    | some inline => site.expect (isLicense inline.text) tag.position .incompleteLicense

end Rule

namespace Processors

/-- The checks that exist from the start. -/
def builtIn {m : Type → Type} [Monad m] [Reporting m] : Processors m :=
  [("@copyright", Rule.copyright), ("@license", Rule.license)]

/-- Registers a check under a name, in place of an earlier one. -/
def register {m : Type → Type} (processors : Processors m) (name : String)
    (processor : TagProcessor m) : Processors m :=
  processors.filter (fun entry => entry.1 != name) ++ [(name, processor)]

/-- The names under which checks are registered, in order. -/
def names {m : Type → Type} (processors : Processors m) : List String :=
  (processors.map Prod.fst).mergeSort fun a b => decide (a ≤ b)

end Processors

end DocLint

import DocLint.Site
import DocLint.Text.Blank

/-!
# Rules about single tags of a function comment

The see tag, the return tag and the throws tag.
-/

namespace DocLint

/-- The text of a throws tag. -/
structure ThrowsText where
  /-- The exception, which is the first word. -/
  exception : String
  /-- The rest of the line after the exception, if there is any. -/
  comment? : Option String

namespace ThrowsText

/-- The text in its parts; nothing if it does not begin with a word. -/
def ofChars? (text : List Char) : Option ThrowsText :=
  let exception := text.takeWhile Text.isInk
  let rest := (text.dropWhile Text.isInk).dropWhile Text.isBlank
  let comment := rest.takeWhile (· != '\n')
  if exception.isEmpty then none
  else some
    ⟨String.ofList exception, if comment.isEmpty then none else some (String.ofList comment)⟩

/-- The text of a tag in its parts. -/
def ofTag? (tag : Tag) : Option ThrowsText :=
  tag.inline?.bind fun inline => ofChars? inline.text.toList

end ThrowsText

namespace Rule

variable {m : Type → Type} [Monad m] [Reporting m]

/-- Every see tag has text on its line. -/
def see (site : Site) (block : Block) : m Unit :=
  (block.tagsNamed "@see").forM fun tag =>
    site.expect tag.inline?.isSome tag.position .emptySees

/-- Whether the return tags of a function are left unchecked. -/
def isSpecialMethod (rules : FunctionRules) (name? : Option String) : Bool :=
  name?.any fun name => rules.specialMethods.contains name

/-- There is one return tag at most, and it names a type. -/
def returns (site : Site) (block : Block) (name? : Option String) : m Unit :=
  if isSpecialMethod site.config.function name? then pure ()
  else
    match block.tagsNamed "@return" with
    | [] => pure ()
    | [tag] => site.expect (!tag.inlineText.isEmpty) tag.position .missingReturnType
    | _ :: second :: _ => site.blame second.position .duplicateReturn none

/-- The comment of a throws tag, which may go on over several lines, begins as the policy demands
and ends with a full stop. -/
def throwsComment (site : Site) (policy : Capitalization) (tag : Tag) (inline : Inline)
    (comment : String) : m Unit := do
  let comment := " ".intercalate (comment :: tag.continuation)
  site.expect (policy.accepts site.letters comment) inline.position .throwsNotCapital
  site.expect (Text.endsWithFullStop comment) inline.position .throwsMissingFullStop

/-- A throws tag names an exception and has a comment. -/
def throwsTag (site : Site) (policy : Capitalization) (tag : Tag) : m Unit :=
  match tag.inline?, ThrowsText.ofTag? tag with
  | some inline, some text =>
    match text.comment? with
    | none => site.blame tag.position .emptyThrows none
    | some comment => throwsComment site policy tag inline comment
  | _, _ => site.blame tag.position .invalidThrows none

/-- Every throws tag names an exception and has a comment. -/
def throws (site : Site) (block : Block) (policy : Capitalization) : m Unit :=
  (block.tagsNamed "@throws").forM (throwsTag site policy)

end Rule

end DocLint

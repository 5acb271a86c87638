import DocLint.Site

/-!
# Rules about descriptions

Where descriptions begin and end, and how they are set apart from each other and from the tags.
-/

namespace DocLint.Rule

open Text

variable {m : Type → Type} [Monad m] [Reporting m]

/-- The first content stands on the line after the opener. -/
def firstLine (site : Site) (block : Block) : m Unit := do
  let first ← Check.require block.firstContent? .noToken
  let opening ← site.line block.opener
  site.expect (first.line == opening + 1) (block.opener + 1) .spacingBeforeShort

/-- The short description begins as the policy demands. -/
def shortCapital (site : Site) (block : Block) (policy : Capitalization) : m Unit :=
  match block.short? with
  | none => pure ()
  | some short =>
    site.expect (policy.accepts site.letters short.first.content) short.first.position
      .shortNotCapital

/-- A short description on a single line ends with a full stop. -/
def shortFullStop (site : Site) (block : Block) : m Unit :=
  match block.short? with
  | none => pure ()
  | some short =>
    site.expect (!short.isSingleLine || endsWithFullStop short.first.content) block.opener
      .missingShortFullStop

/-- The short description stands on a single line. -/
def shortOnOneLine (site : Site) (block : Block) : m Unit :=
  match block.short? with
  | none => pure ()
  | some short => site.expect short.isSingleLine (block.opener + 1) .shortSingleLine

/-- A long description comes after one blank line, begins as the policy demands and ends with a
full stop. -/
def longDescription (site : Site) (block : Block) (policy : Capitalization) : m Unit :=
  match block.short?, block.long? with
  | some short, some long => do
    site.expect (long.first.line == short.last.line + 2) long.first.position
      .spacingBetweenDescriptions
    site.expect (policy.accepts site.letters long.first.content) long.first.position .longNotCapital
    site.expect (endsWithFullStop (String.join long.lines)) block.opener .missingLongFullStop
  | _, _ => pure ()

/-- The last token before a position, back to the opener, that is not mere layout. -/
def contentBefore? (site : Site) (block : Block) (position : Int) : Option Slot :=
  site.source.prev? (fun kind => !kind.isFiller) (position - 1) (some block.opener)

/-- One blank line stands before a tag. -/
def blankLineBefore (site : Site) (block : Block) (tag : Tag) (violation : Violation) :
    m Unit := do
  let before ← Check.require (contentBefore? site block tag.position) .noToken
  site.expect (tag.line == before.line + 2) tag.position violation

/-- One blank line stands between the description and the first tag. -/
def blankLineBeforeTags (site : Site) (block : Block) : m Unit :=
  match block.tags with
  | [] => pure ()
  | tag :: _ =>
    if block.firstContent?.map Slot.position = some tag.position then pure ()
    else blankLineBefore site block tag .spacingBeforeTags

/-- One blank line stands between the first parameter tag and the tag before it. -/
def blankLineBeforeParams (site : Site) (block : Block) : m Unit :=
  match block.tagsNamed "@param" with
  | [] => pure ()
  | param :: _ =>
    if block.tags.head?.map Tag.position = some param.position then pure ()
    else blankLineBefore site block param .spacingBeforeFirstParam

/-- A comment has a short description; the answer is whether it does. -/
def shortDescription (site : Site) (block : Block) (present : Bool) (construct : String) :
    m Bool := do
  site.expect present block.opener (.missingShortDescription construct)
  return present

end DocLint.Rule

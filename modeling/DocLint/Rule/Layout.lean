import DocLint.Rule.Description

/-!
# Rules about the layout of a comment

Where the comment ends, and what stands around it.
-/

namespace DocLint.Rule

variable {m : Type → Type} [Monad m] [Reporting m]

/-- The last token of the comment that is not mere layout; the opener if the comment is empty. -/
def lastContent? (site : Site) (block : Block) : Option Slot :=
  contentBefore? site block block.closer

/-- The closer is alone on its line; the answer is whether it is. -/
def closerAlone (site : Site) (block : Block) : m Bool := do
  let last ← Check.require (lastContent? site block) .noToken
  let closing ← site.line block.closer
  let alone := last.line != closing
  site.expect alone block.opener .closeTagOwnLine
  return alone

/-- The closer stands on the line after the last content. -/
def noBlankBeforeCloser (site : Site) (block : Block) : m Unit := do
  let closing ← site.line block.closer
  let last ← Check.require (lastContent? site block) .noToken
  site.expect (closing - 1 == last.line) block.closer .spacingBeforeClose

/-- The declaration stands on the line after the closer. -/
def noBlankAfterComment (site : Site) (block : Block) (construct : String) : m Unit := do
  let closing ← site.line block.closer
  let declaration ← site.line site.anchor
  site.expect (closing == declaration - 1) block.closer (.spacingAfter construct)

/-- Where a violation about the place of a file comment is reported: right after the open tag,
unless the source ends there. -/
def belowOpenTag (source : Source) (anchor : Int) : Int :=
  if anchor + 1 < source.size then anchor + 1 else anchor

/-- The file comment stands on the line after the open tag. -/
def rightBelowOpenTag (site : Site) (block : Block) : m Unit := do
  let opening ← site.line block.opener
  let openTag ← site.line site.anchor
  site.expect (opening - 1 == openTag) (belowOpenTag site.source site.anchor) .spacingBeforeComment

/-- One blank line stands between the file comment and what follows. -/
def blankLineAfterFileComment (site : Site) (block : Block) : m Unit :=
  match site.source.next? (fun kind => kind != .whitespace) (block.closer + 1) none with
  | none => pure ()
  | some following => do
    let closing ← site.line block.closer
    site.expect (following.line - 2 == closing) (block.closer + 1) .spacingAfterComment

end DocLint.Rule

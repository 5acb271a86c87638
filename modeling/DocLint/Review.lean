import DocLint.Placement
import DocLint.Rule.Description
import DocLint.Rule.FileTags
import DocLint.Rule.FunctionTags
import DocLint.Rule.Layout
import DocLint.Rule.Params

/-!
# Reviewing a doc comment

Which rules apply to the comment of a file, of a class or interface, and of a function, and in which
order. A review ends early where the remaining rules would make no sense: without a short
description, with a misplaced end, or when a function comment is inherited.
-/

namespace DocLint

variable {m : Type → Type} [Monad m] [Reporting m]

namespace Review

/-- The comment of a file: its place, then its tags. -/
def file (site : Site) (processors : Processors m) (block : Block) : m Unit := do
  Rule.rightBelowOpenTag site block
  Rule.blankLineAfterFileComment site block
  let described ← Rule.shortDescription site block block.firstContent?.isSome "file"
  if described && site.config.file.checkTags then
    Rule.tagTable site block site.config.file.tags "file" processors
  else pure ()

/-- No tag is expected in the comment of a class. -/
def noTags (site : Site) (block : Block) : m Unit :=
  block.tags.forM fun tag => site.blame tag.position (.tagNotAllowed tag.name) none

/-- The rules of a class comment that has a short description. -/
def classBody (site : Site) (block : Block) (construct : String) : m Unit := do
  Rule.firstLine site block
  Rule.shortOnOneLine site block
  Rule.shortCapital site block site.config.classLike.shortPolicy
  Rule.shortFullStop site block
  Rule.longDescription site block site.config.classLike.longPolicy
  noTags site block
  Rule.noBlankBeforeCloser site block
  Rule.noBlankAfterComment site block construct

/-- The comment of a class or interface: descriptions only. -/
def classLike (site : Site) (block : Block) : m Unit := do
  let token ← Check.ofExcept (site.source.get site.anchor)
  let construct := Text.toSmall token.content
  let alone ← Rule.closerAlone site block
  if alone then
    let described ← Rule.shortDescription site block block.short?.isSome construct
    if described then classBody site block construct else pure ()
  else pure ()

/-- The rules about the tags of a function comment. -/
def functionTags (site : Site) (block : Block) : m Unit := do
  Rule.see site block
  Rule.blankLineBeforeTags site block
  Rule.blankLineBeforeParams site block
  let name? ← Check.ofExcept (site.signatures.name? site.source site.anchor)
  Rule.returns site block name?
  Rule.throws site block site.config.function.throwsPolicy
  Rule.params site block

/-- The rules of a function comment that has some content. -/
def functionBody (site : Site) (block : Block) : m Unit := do
  Rule.firstLine site block
  Rule.shortCapital site block site.config.function.shortPolicy
  if site.config.function.requireShortFullStop then Rule.shortFullStop site block else pure ()
  if block.inheritsDoc then pure () else functionTags site block

/-- The comment of a function: descriptions, then tags. -/
def function (site : Site) (block : Block) : m Unit := do
  Rule.noBlankAfterComment site block "function"
  let described ← Rule.shortDescription site block block.firstContent?.isSome "function"
  if described then functionBody site block else pure ()

end Review

/-- The review of the comment of a subject. -/
def Subject.review (subject : Subject) (site : Site) (processors : Processors m) (block : Block) :
    m Unit :=
  match subject with
  | .file => Review.file site processors block
  | .classLike => Review.classLike site block
  | .function => Review.function site block

end DocLint

import DocLint.Site

/-!
# Rules about the table of tags

A table lists the tags that a comment may have, in the order in which they are expected. Tags that
are not in the table are passed over.

The order is checked by walking through the table and the comment's tags side by side. A run of one
repeated tag takes one place. The walk ends when the comment's tags are used up.

Single tags can have checks of their own, which are kept by name.
-/

namespace DocLint

/-- A check of all tags of one name. -/
abbrev TagProcessor (m : Type → Type) := Site → Block → List Tag → m Unit

/-- Checks of single tags, by the name of the tag. -/
abbrev Processors (m : Type → Type) := List (String × TagProcessor m)

namespace Rule

variable {m : Type → Type} [Monad m] [Reporting m]

/-- The entry of the table for a name; the last one if there are several. -/
def specNamed? (specs : List TagSpec) (name : String) : Option TagSpec :=
  specs.reverse.find? fun spec => spec.name == name

/-- The tags of a comment that are in the table, in order. -/
def tableTags (specs : List TagSpec) (block : Block) : List Tag :=
  block.tags.filter fun tag => (specNamed? specs tag.name).isSome

/-- Whether a tag of this name may be present more than once. -/
def isRepeatable (specs : List TagSpec) (name : String) : Bool :=
  (specNamed? specs name).any TagSpec.repeatable

/-- A tag is not a second one unless it may be, and it has text on its line. -/
def tagOccurrence (site : Site) (specs : List TagSpec) (construct : String) (earlier : List Tag)
    (tag : Tag) : m Unit := do
  site.expect (isRepeatable specs tag.name || !earlier.any fun other => other.name == tag.name)
    tag.position (.duplicateTag tag.name construct)
  site.expect tag.inline?.isSome tag.position (.emptyTag tag.name construct)

/-- Each tag in turn, with the tags before it. -/
def tagOccurrences (site : Site) (specs : List TagSpec) (construct : String) :
    (earlier : List Tag) → List Tag → m Unit
  | _, [] => pure ()
  | earlier, tag :: rest => do
    tagOccurrence site specs construct earlier tag
    tagOccurrences site specs construct (earlier ++ [tag]) rest

/-- The check of a tag by its own processor, if it has one. -/
def processTags (site : Site) (block : Block) (processors : Processors m) (name : String)
    (tags : List Tag) : m Unit :=
  match processors.lookup name with
  | some processor => processor site block tags
  | none => pure ()

/-- Walks through the table. `place` counts the tags of the comment that have been passed, and
`rest` holds the others. -/
def tagOrder (site : Site) (block : Block) (construct : String) (processors : Processors m) :
    (place : Nat) → (rest : List Tag) → List TagSpec → m Unit
  | _, _, [] => pure ()
  | place, rest, spec :: specs =>
    match block.tagsNamed spec.name with
    | [] => do
      site.expect (!spec.required) block.closer (.missingTag spec.name construct)
      tagOrder site block construct processors place rest specs
    | tags => do
      processTags site block processors spec.name tags
      match rest with
      | [] => pure ()
      | tag :: others => do
        site.expect (tag.name == spec.name) tag.position (.tagOrder (place + 1) spec.name)
        let same := others.takeWhile fun other => other.name == spec.name
        let different := others.dropWhile fun other => other.name == spec.name
        tagOrder site block construct processors (place + 1 + same.length) different specs

/-- The tags of a comment follow the table. -/
def tagTable (site : Site) (block : Block) (specs : List TagSpec) (construct : String)
    (processors : Processors m) : m Unit := do
  let tags := tableTags specs block
  tagOccurrences site specs construct [] tags
  tagOrder site block construct processors 0 tags specs

end Rule

end DocLint

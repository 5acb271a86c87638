import DocLint.Proofs.References
import DocLint.Proofs.Sketch

/-!
# Comments as they are written

A doc comment with a short description and tag lines, as an author would write it: the short
description on the line after the opener, then a blank line, then one line for each tag with its
text, and the closer on the line after these. Between the texts stand blanks and stars as the author
likes.

This module sketches such comments, with any number of tags, and shows what is read off one wherever
it stands: the short description comes first, and the tags are those of the lines, each with its own
text.
-/

namespace DocLint

/-! ## Tags in a sketch -/

namespace Sketch

variable {sketch : Sketch}

/-- Where the tags of a sketch stand. -/
def tagPositions : (position : Int) → Sketch → List Int
  | _, [] => []
  | position, token :: rest =>
    if token.kind = .docTag then position :: tagPositions (position + 1) rest
    else tagPositions (position + 1) rest

theorem tagPositions_eq_nil (position : Int) (hnone : ∀ token ∈ sketch, token.kind ≠ .docTag) :
    tagPositions position sketch = [] := by
  induction sketch generalizing position with
  | nil => rfl
  | cons token rest ih =>
    rw [tagPositions, if_neg (hnone token List.mem_cons_self)]
    exact ih (position + 1) fun other hother => hnone other (List.mem_cons_of_mem token hother)

theorem tagPositions_append (position : Int) (first second : Sketch) :
    tagPositions position (first ++ second) =
      tagPositions position first ++ tagPositions (position + first.length) second := by
  induction first generalizing position with
  | nil => simp [tagPositions]
  | cons token rest ih =>
    have hnext : position + (rest.length + 1 : Nat) = position + 1 + rest.length := by omega
    rw [List.cons_append, tagPositions, tagPositions, ih, List.length_cons, hnext]
    by_cases htag : token.kind = .docTag <;> simp [htag]

/-- The tags of a sketch move with it. -/
theorem map_tagPositions (distance position : Int) (sketch : Sketch) :
    (tagPositions position sketch).map (· + distance) =
      tagPositions (position + distance) sketch := by
  induction sketch generalizing position with
  | nil => rfl
  | cons token rest ih =>
    have hnext : position + 1 + distance = position + distance + 1 := by omega
    rw [tagPositions, tagPositions, ← hnext, ← ih]
    by_cases htag : token.kind = .docTag <;> simp [htag]

end Sketch

/-! ## Tag lines -/

/-- Tokens inside a comment that carry no text. -/
structure Filling where
  /-- The tokens. -/
  tokens : Sketch
  filler : ∀ token ∈ tokens, token.kind.isFiller = true

/-- Blanks and stars are not of any other kind. -/
theorem Filling.kind_ne (filling : Filling) {kind : Kind} (hkind : kind.isFiller = false) :
    ∀ token ∈ filling.tokens, token.kind ≠ kind := by
  rintro token htoken rfl
  simp [filling.filler token htoken] at hkind

theorem Filling.filter_slots_eq_nil (filling : Filling) {kind : Kind}
    (hkind : kind.isFiller = false) (position : Int) :
    ((Sketch.slots position filling.tokens).filter fun slot => slot.kind == kind) = [] := by
  apply List.filter_eq_nil_iff.mpr
  intro slot hslot
  obtain ⟨token, htoken, hmoved⟩ := Sketch.exists_token_of_mem_slots hslot
  rw [Slot.kind, hmoved, beq_iff_eq]
  exact filling.kind_ne hkind token htoken

/-- A line of a comment with a tag and its text. -/
structure TagLine where
  /-- What stands before the tag. -/
  lead : Filling
  /-- The name of the tag, with its at sign. -/
  name : String
  /-- What stands between the tag and its text. -/
  gap : Filling
  /-- The text. -/
  text : String

namespace TagLine

variable (tagLine : TagLine) (line : Int)

/-- The token of the tag. -/
def tagToken : Token :=
  .plain .docTag tagLine.name line

/-- The token of the text. -/
def textToken : Token :=
  .plain .docString tagLine.text line

/-- The tag and its text. -/
def content : Sketch :=
  tagLine.tagToken line :: (tagLine.gap.tokens ++ [tagLine.textToken line])

/-- The tokens of a tag line. -/
def sketch : Sketch :=
  tagLine.lead.tokens ++ tagLine.content line

/-- The tokens of tag lines on consecutive lines, from the given one on. -/
def sketches : (line : Int) → List TagLine → Sketch
  | _, [] => []
  | line, first :: rest => first.sketch line ++ sketches (line + 1) rest

/-- Of tag lines that share a name, a filter by name keeps all or none. -/
theorem filter_name {tagLines : List TagLine} {own : String}
    (hown : ∀ tagLine ∈ tagLines, tagLine.name = own) (name : String) :
    (tagLines.filter fun tagLine => tagLine.name == name) =
      if own = name then tagLines else [] := by
  by_cases hname : own = name
  · rw [if_pos hname, List.filter_eq_self]
    intro tagLine htagLine
    rw [hown tagLine htagLine, hname, beq_self_eq_true]
  · rw [if_neg hname, List.filter_eq_nil_iff]
    intro tagLine htagLine
    rwa [hown tagLine htagLine, beq_iff_eq]

/-- The one tag of a line stands after the lead. -/
theorem tagPositions_sketch (position : Int) :
    Sketch.tagPositions position (tagLine.sketch line) =
      [position + tagLine.lead.tokens.length] := by
  rw [sketch, Sketch.tagPositions_append,
    Sketch.tagPositions_eq_nil position (tagLine.lead.kind_ne rfl), content, Sketch.tagPositions,
    Sketch.tagPositions_append, Sketch.tagPositions_eq_nil _ (tagLine.gap.kind_ne rfl)]
  rfl

/-- The tag that is read off a tag line. -/
structure Shows (tagLine : TagLine) (tag : Tag) : Prop where
  /-- It has the name of the line. -/
  name_eq : tag.name = tagLine.name
  /-- It has the text of the line. -/
  inline : ∃ position, tag.inline? = some ⟨position, tagLine.text⟩

variable {tagLine line} {source : Source} {position stop : Int}

/-- **Reading a tag line.** The tag has its own text and no other, up to the next tag or the end of
the comment. -/
theorem exists_read {follow : Filling}
    (hshows : source.Shows position (tagLine.content line ++ follow.tokens))
    (hstop : stop = position + (tagLine.content line).length + follow.tokens.length) :
    ∃ tag, Tag.read source position stop = .ok tag ∧ tagLine.Shows tag ∧
      tag.position = position ∧ tag.line = line := by
  rw [content, List.cons_append] at hshows
  have hend : stop =
      position + 1 + (tagLine.gap.tokens ++ [tagLine.textToken line] ++ follow.tokens).length := by
    simp only [content, List.length_cons, List.length_append] at hstop ⊢
    omega
  have hstretch := hshows.tail.stretch_eq hend
  have htexts : Tag.texts source position stop =
      Sketch.slots (position + 1 + tagLine.gap.tokens.length) [tagLine.textToken line] := by
    rw [Tag.texts, hstretch, Sketch.slots_append, Sketch.slots_append, List.filter_append,
      List.filter_append, tagLine.gap.filter_slots_eq_nil rfl, follow.filter_slots_eq_nil rfl]
    rfl
  refine ⟨_, Tag.read_eq_ok_iff.mpr ⟨_, hshows.head, by rw [hstretch], rfl⟩, ⟨?_, ?_⟩, ?_, ?_⟩
  · exact Tag.name_ofTexts ..
  · refine ⟨position + 1 + tagLine.gap.tokens.length, ?_⟩
    rw [htexts, Sketch.slots, Tag.inline?_ofTexts_cons]
    exact if_pos rfl
  · exact Tag.position_ofTexts ..
  · exact Tag.line_ofTexts ..

end TagLine

/-- Tags are read one after the other, each up to the next one. -/
theorem Tag.readAll_cons_eq_ok {source : Source} {position closer : Int} {positions : List Int}
    {tag : Tag} {tags : List Tag}
    (htag : Tag.read source position (positions.headD closer) = .ok tag)
    (htags : Tag.readAll source positions closer = .ok tags) :
    Tag.readAll source (position :: positions) closer = .ok (tag :: tags) := by
  rw [readAll_eq_ok_iff] at htags ⊢
  cases positions with
  | nil => exact .cons htag htags
  | cons next others => exact .cons htag htags

namespace TagLine

variable {source : Source} {lines : List TagLine} {trail : Filling}

/-- The first tag comes right after what leads up to it. -/
theorem tagPositions_sketches_cons (line position : Int) (first : TagLine)
    (rest : List TagLine) :
    Sketch.tagPositions position (sketches line (first :: rest)) =
      (position + first.lead.tokens.length) ::
        Sketch.tagPositions (position + (first.sketch line).length) (sketches (line + 1) rest) := by
  rw [sketches, Sketch.tagPositions_append, tagPositions_sketch]
  rfl

/-- Up to the next tag, or to the end of the comment if there is none, there is only filling. -/
theorem exists_follow {line position closer : Int}
    (hshows : source.Shows position (sketches line lines ++ trail.tokens))
    (hcloser : closer = position + (sketches line lines).length + trail.tokens.length) :
    ∃ follow : Filling, source.Shows position follow.tokens ∧
      (Sketch.tagPositions position (sketches line lines)).headD closer =
        position + follow.tokens.length := by
  cases lines with
  | nil =>
    refine ⟨trail, hshows, ?_⟩
    simpa [sketches, Sketch.tagPositions] using hcloser
  | cons first rest =>
    refine ⟨first.lead, hshows.left.left.left, ?_⟩
    rw [tagPositions_sketches_cons]
    rfl

/-- **Reading all tag lines.** The tags are those of the lines, in order. -/
theorem exists_readAll {line position closer : Int}
    (hshows : source.Shows position (sketches line lines ++ trail.tokens))
    (hcloser : closer = position + (sketches line lines).length + trail.tokens.length) :
    ∃ tags, Tag.readAll source (Sketch.tagPositions position (sketches line lines)) closer =
        .ok tags ∧
      List.Forall₂ Shows lines tags ∧
      tags.head?.map (fun tag => (tag.position, tag.line)) =
        lines.head?.map fun first => (position + first.lead.tokens.length, line) := by
  induction lines generalizing position line with
  | nil => exact ⟨[], rfl, .nil, rfl⟩
  | cons first rest ih =>
    have hlength : position + ((sketches line (first :: rest)).length : Int) =
        position + (first.sketch line).length + (sketches (line + 1) rest).length := by
      rw [sketches, List.length_append]
      omega
    rw [hlength] at hcloser
    rw [sketches, List.append_assoc] at hshows
    obtain ⟨tags, htags, hlines, hhead⟩ := ih hshows.right hcloser
    obtain ⟨follow, hfollow, hnext⟩ := exists_follow hshows.right hcloser
    have hwidth : position + ((first.sketch line).length : Int) =
        position + first.lead.tokens.length + (first.content line).length := by
      rw [sketch, List.length_append]
      omega
    rw [hwidth] at hfollow
    have hcontent : source.Shows (position + first.lead.tokens.length)
        (first.content line ++ follow.tokens) :=
      Source.Shows.append hshows.left.right hfollow
    obtain ⟨tag, htag, hfirst, hposition, hline⟩ :=
      exists_read hcontent (hnext.trans (by omega))
    refine ⟨tag :: tags, ?_, .cons hfirst hlines, ?_⟩
    · rw [tagPositions_sketches_cons]
      exact Tag.readAll_cons_eq_ok htag htags
    · simp [hposition, hline]

end TagLine

/-! ## Comments -/

/-- A doc comment with a short description and tag lines. -/
structure WrittenComment where
  /-- The line on which the comment begins. -/
  line : Int
  /-- What stands before the short description. -/
  lead : Filling
  /-- The short description. -/
  short : String
  /-- The tag lines. -/
  lines : List TagLine
  /-- What stands before the closer. -/
  trail : Filling

namespace WrittenComment

variable (comment : WrittenComment)

/-- The token of the short description. -/
def shortToken : Token :=
  .plain .docString comment.short (comment.line + 1)

/-- The tokens between the two ends. A blank line sets the tags apart from the description. -/
def body : Sketch :=
  comment.lead.tokens ++ comment.shortToken ::
    (TagLine.sketches (comment.line + 3) comment.lines ++ comment.trail.tokens)

/-- The opener, which knows the closer and the tags. -/
def opener : Token :=
  ⟨.docOpen, "/**", comment.line, none, some (comment.body.length + 1),
    Sketch.tagPositions 1 comment.body⟩

/-- The line of the closer. -/
def lastLine : Int :=
  comment.line + 3 + comment.lines.length

/-- The closer, which knows the opener. -/
def closer : Token :=
  ⟨.docClose, "*/", comment.lastLine, some (-(comment.body.length + 1)), none, []⟩

/-- The tokens of a comment. -/
def sketch : Sketch :=
  comment.opener :: (comment.body ++ [comment.closer])

/-- Whether the comment says that it is inherited. -/
def inheritsDoc : Bool :=
  Text.occursIn Block.inheritMarker (Text.toSmall (Source.textOf comment.body)).toList

/-- The slot of the short description, in a comment that begins at a position. -/
def shortSlot (position : Int) : Slot :=
  ⟨position + 1 + comment.lead.tokens.length,
    comment.shortToken.moved (position + 1 + comment.lead.tokens.length)⟩

/-- The slot of the closer, in a comment that begins at a position. -/
def closerSlot (position : Int) : Slot :=
  ⟨position + 1 + comment.body.length,
    comment.closer.moved (position + 1 + comment.body.length)⟩

theorem position_closerSlot (position : Int) :
    (comment.closerSlot position).position = position + 1 + comment.body.length := rfl

/-- The block is what is read off the comment at a position. -/
structure Shows (source : Source) (position : Int) (block : Block) : Prop where
  /-- The comment can be read. -/
  reads : ∃ token, block.Reads source token
  /-- It begins at the position. -/
  opener_eq : block.opener = position
  /-- It ends with its last token. -/
  closer_eq : block.closer = (comment.closerSlot position).position
  /-- Its content begins with the short description. -/
  first : block.firstContent? = some (comment.shortSlot position)
  short : ∃ span, block.short? = some span ∧ span.first = comment.shortSlot position
  /-- Its tags are those of the tag lines. -/
  tags : List.Forall₂ TagLine.Shows comment.lines block.tags
  /-- The first of them stands after the short description. -/
  head : block.tags.head?.map (fun tag => (tag.position, tag.line)) =
    comment.lines.head?.map fun first =>
      (position + 1 + comment.lead.tokens.length + 1 + first.lead.tokens.length, comment.line + 3)

/-- The tags of a comment are those of its tag lines. -/
theorem tagPositions_body (position : Int) :
    Sketch.tagPositions position comment.body =
      Sketch.tagPositions (position + comment.lead.tokens.length + 1)
        (TagLine.sketches (comment.line + 3) comment.lines) := by
  rw [body, Sketch.tagPositions_append,
    Sketch.tagPositions_eq_nil position (comment.lead.kind_ne rfl), Sketch.tagPositions,
    Sketch.tagPositions_append, Sketch.tagPositions_eq_nil _ (comment.trail.kind_ne rfl),
    List.append_nil]
  rfl

variable {comment} {source : Source} {position : Int}

theorem length_sketch (comment : WrittenComment) :
    comment.sketch.length = comment.body.length + 2 := by
  rw [sketch, List.length_cons, List.length_append, List.length_singleton]

theorem length_body (comment : WrittenComment) :
    comment.body.length = comment.lead.tokens.length + 1 +
      (TagLine.sketches (comment.line + 3) comment.lines).length + comment.trail.tokens.length := by
  rw [body, List.length_append, List.length_cons, List.length_append]
  omega

/-- The closer leads back to the opener. -/
theorem opener?_closerSlot (comment : WrittenComment) (position : Int) :
    (comment.closerSlot position).token.opener? = some position := by
  show some (-(comment.body.length + 1 : Int) + (position + 1 + comment.body.length)) = _
  rw [Option.some.injEq]
  omega

/-- The opener lists the tags of the tag lines. -/
theorem tagPositions_moved_opener (comment : WrittenComment) (position : Int) :
    (comment.opener.moved position).tagPositions =
      Sketch.tagPositions (position + 1 + comment.lead.tokens.length + 1)
        (TagLine.sketches (comment.line + 3) comment.lines) := by
  show (Sketch.tagPositions 1 comment.body).map (· + position) = _
  rw [Sketch.map_tagPositions, tagPositions_body, Int.add_comm 1 position]

/-- The first content of a written comment is its short description. -/
theorem content?_eq_some (hfront : 0 ≤ position) (hshows : source.Shows position comment.sketch) :
    Block.content? source (position + 1) (comment.body.length + 1 + position) =
      some (comment.shortSlot position) := by
  have hbody := hshows.tail.left
  rw [body] at hbody
  apply hbody.next?_eq_some (by omega)
  · intro token htoken
    simp [comment.lead.filler token htoken]
  · rfl
  · intro stop hstop
    obtain rfl := Option.some.inj hstop
    rw [length_body]
    omega

/-- **Reading a written comment.** -/
theorem exists_read (hfront : 0 ≤ position) (hshows : source.Shows position comment.sketch) :
    ∃ block, comment.Shows source position block := by
  have hsize : comment.body.length + 1 + position ≤ source.size := by
    have hcloser := hshows.tail.right.lt_size (by omega)
    omega
  have hfirst := content?_eq_some hfront hshows
  have hplace : 0 ≤ (comment.shortSlot position).position := by
    show 0 ≤ position + 1 + _
    omega
  obtain ⟨span, hspan⟩ := Span.exists_read hplace hsize
  have hshort : Block.description? source (some (comment.shortSlot position))
      (comment.body.length + 1 + position) = .ok (some span) := by
    have hkind : (comment.shortSlot position).kind = .docString := rfl
    rw [Block.description?, if_pos hkind, hspan]
    rfl
  obtain ⟨long?, hlong⟩ := Block.exists_longDescription? source (some span) hsize
  have hlines : source.Shows (position + 1 + comment.lead.tokens.length + 1)
      (TagLine.sketches (comment.line + 3) comment.lines ++ comment.trail.tokens) :=
    hshows.tail.left.right.tail
  have hcloser : comment.body.length + 1 + position =
      position + 1 + comment.lead.tokens.length + 1 +
        (TagLine.sketches (comment.line + 3) comment.lines).length +
          comment.trail.tokens.length := by
    rw [length_body]
    omega
  obtain ⟨tags, htags, hforall, hhead⟩ := TagLine.exists_readAll hlines hcloser
  rw [← tagPositions_moved_opener] at htags
  let block : Block := ⟨position, comment.body.length + 1 + position,
    some (comment.shortSlot position), some span, long?, tags,
    source.text (position + 1) (comment.body.length + 1 + position)⟩
  have hreads : block.Reads source (comment.opener.moved position) :=
    ⟨hshows.head, rfl, rfl, hfirst.symm, hshort, hlong, htags, rfl⟩
  refine ⟨block, ⟨_, hreads⟩, rfl, ?_, rfl, ⟨span, rfl, ?_⟩, hforall, hhead⟩
  · show comment.body.length + 1 + position = position + 1 + comment.body.length
    omega
  · rw [(Span.read_eq_ok_iff.mp hspan).2]

/-- Whether a comment is inherited can be seen before it is placed. -/
theorem Shows.inheritsDoc_eq {block : Block} (hblock : comment.Shows source position block)
    (hfront : 0 ≤ position) (hshows : source.Shows position comment.sketch) :
    block.inheritsDoc = comment.inheritsDoc := by
  obtain ⟨token, hreads⟩ := hblock.reads
  have htext : block.text = Source.textOf comment.body := by
    rw [hreads.text, hblock.opener_eq, hblock.closer_eq, position_closerSlot]
    exact hshows.tail.left.text_eq (by omega) rfl
  rw [Block.inheritsDoc, htext, inheritsDoc]

/-- The tags of a name are those of the tag lines of that name. -/
theorem Shows.tagsNamed {block : Block} (hblock : comment.Shows source position block)
    (name : String) :
    List.Forall₂ TagLine.Shows (comment.lines.filter fun tagLine => tagLine.name == name)
      (block.tagsNamed name) := by
  refine List.rel_filter (fun tagLine tag htag => ?_) hblock.tags
  show (tagLine.name == name) = true ↔ (tag.name == name) = true
  rw [htag.name_eq]

end WrittenComment

end DocLint

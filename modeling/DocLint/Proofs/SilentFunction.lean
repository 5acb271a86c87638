import DocLint.Proofs.DeclaredParameters
import DocLint.Proofs.Inspection
import DocLint.Proofs.ParameterMatching
import DocLint.Proofs.WrittenComment

/-!
# Functions about which there is nothing to say

A function whose comment documents exactly its parameters, in the layout of the house style, is
passed over in silence. This module sketches functions in that layout in full generality: any number
of parameter tags with any types, names and comments, any short description that begins rightly,
perhaps a return tag, any modifiers, and any declaration.

Of all rules only one is left that can find anything in such a function, whatever stands around it:
the one that compares the documented parameters with the declared ones. Rule by rule there is a
lemma that says when the rule finds nothing, and the layout meets its condition. So the function is
passed over exactly when the names fit.
-/

namespace DocLint

open Check

/-! ## When a rule finds nothing -/

namespace Rule

variable {site : Site} {block : Block}

theorem firstLine_eq_done {first : Slot} {opener : Token}
    (hfirst : block.firstContent? = some first)
    (hopener : site.source.token? block.opener = some opener)
    (hline : first.line = opener.line + 1) : firstLine site block = .done () := by
  rw [firstLine, hfirst, require_some_bind, Site.line_eq_done hopener, done_bind,
    Site.expect_eq_done_iff, beq_iff_eq]
  exact hline

theorem shortCapital_eq_done {short : Span} (hshort : block.short? = some short)
    {policy : Capitalization}
    (haccepts : policy.accepts site.letters short.first.content = true) :
    shortCapital site block policy = .done () := by
  rw [shortCapital, hshort]
  exact Site.expect_eq_done_iff.mpr haccepts

theorem shortFullStop_eq_done {short : Span} (hshort : block.short? = some short)
    (hstop : Text.endsWithFullStop short.first.content = true) :
    shortFullStop site block = .done () := by
  rw [shortFullStop, hshort]
  exact Site.expect_eq_done_iff.mpr (by rw [hstop, Bool.or_true])

theorem noBlankAfterComment_eq_done {closer declaration : Token}
    (hcloser : site.source.token? block.closer = some closer)
    (hdeclaration : site.source.token? site.anchor = some declaration)
    (hline : closer.line = declaration.line - 1) (construct : String) :
    noBlankAfterComment site block construct = .done () := by
  rw [noBlankAfterComment, Site.line_eq_done hcloser, done_bind, Site.line_eq_done hdeclaration,
    done_bind, Site.expect_eq_done_iff, beq_iff_eq]
  exact hline

theorem blankLineBefore_eq_done {tag : Tag} {before : Slot}
    (hbefore : contentBefore? site block tag.position = some before)
    (hline : tag.line = before.line + 2) (violation : Violation) :
    blankLineBefore site block tag violation = .done () := by
  rw [blankLineBefore, hbefore, require_some_bind, Site.expect_eq_done_iff, beq_iff_eq]
  exact hline

theorem shortDescription_eq_done (construct : String) :
    shortDescription site block true construct = .done true := by
  rw [shortDescription, Site.expect_eq_done_iff.mpr rfl, done_bind]
  rfl

theorem returns_eq_done (hlength : (block.tagsNamed "@return").length ≤ 1)
    (htext : ∀ tag ∈ block.tagsNamed "@return", tag.inlineText ≠ "") (name? : Option String) :
    returns site block name? = .done () := by
  rw [returns]
  split
  · rfl
  · split
    · rfl
    · rename_i tag htags
      apply Site.expect_eq_done_iff.mpr
      simpa [String.isEmpty_iff] using htext tag (htags ▸ List.mem_cons_self)
    · rename_i htags
      simp [htags] at hlength

end Rule

namespace WrittenComment

variable {comment : WrittenComment} {site : Site} {position : Int} {block : Block}
variable (hblock : comment.Shows site.source position block)
variable (hfront : 0 ≤ position) (hshows : site.source.Shows position comment.sketch)

include hblock hfront hshows

/-- What comes before the first tag is the short description. -/
theorem Shows.contentBefore?_eq_some {first : TagLine} {rest : List TagLine}
    (hfirst : comment.lines = first :: rest) :
    Rule.contentBefore? site block
        (position + 1 + comment.lead.tokens.length + 1 + first.lead.tokens.length) =
      some (comment.shortSlot position) := by
  have hshort : site.source.Shows (position + 1 + comment.lead.tokens.length)
      (comment.shortToken :: first.lead.tokens) := by
    have hcontent := hshows.tail.left.right
    rw [hfirst, TagLine.sketches, TagLine.sketch, List.append_assoc, List.append_assoc,
      ← List.cons_append] at hcontent
    exact hcontent.left
  apply hshort.prev?_eq_some (by omega) (by omega) rfl
  · intro token htoken
    simp [first.lead.filler token htoken]
  · intro stop hstop
    obtain rfl := Option.some.inj hstop
    rw [hblock.opener_eq]
    omega

/-- The first tag, if there is one, comes one blank line after the short description. -/
theorem Shows.blankLineBeforeTags_eq_done : Rule.blankLineBeforeTags site block = .done () := by
  rw [Rule.blankLineBeforeTags]
  have hlines := hblock.tags
  have hhead := hblock.head
  cases htags : block.tags with
  | nil => rfl
  | cons tag others =>
    rw [htags] at hlines hhead
    cases hfirst : comment.lines with
    | nil =>
      rw [hfirst] at hlines
      cases hlines
    | cons first rest =>
      obtain ⟨hposition, hline⟩ : tag.position = position + 1 + comment.lead.tokens.length + 1 +
          first.lead.tokens.length ∧ tag.line = comment.line + 3 := by
        simpa [hfirst] using hhead
      have hbefore := hblock.contentBefore?_eq_some hfront hshows hfirst
      rw [← hposition] at hbefore
      simp only
      split
      · rfl
      · apply Rule.blankLineBefore_eq_done hbefore
        show tag.line = comment.line + 1 + 2
        omega

end WrittenComment

/-- A doc comment that ends right before a function is the comment of the function. -/
theorem Source.locateFunction_of_docClose {source : Source} {anchor opener : Int} {last : Slot}
    (hlast : source.beforeLeadIn? anchor = some last) (hkind : last.kind = .docClose)
    (hopener : last.token.opener? = some opener) :
    source.locateFunction anchor = .ok (.doc .function opener last.position) := by
  have hend : source.functionCommentEnd? anchor = some last := by
    simp [functionCommentEnd?, hlast, hkind]
  rw [locateFunction, hend]
  simp only [hkind, Slot.docOpener, hopener]
  rfl

/-! ## Functions as they are written -/

/-- The documentation of a parameter: its type, its name and a comment, which may be empty. -/
structure ParamDoc where
  /-- What stands before the tag. -/
  lead : Filling
  /-- What stands between the tag and its text. -/
  gap : Filling
  /-- The type. -/
  type : List Char
  /-- The name without its mark. -/
  bareName : List Char
  /-- The comment. -/
  comment : List Char
  type_ne_nil : type ≠ []
  type_unmarked : ∀ c ∈ type, ParamText.isMark c = false
  type_head : ∀ c ∈ type.head?, Text.isBlank c = false
  type_last : ∀ c ∈ type.getLast?, Text.isBlank c = false
  name_ne_nil : bareName ≠ []
  name_ink : ∀ c ∈ bareName, Text.isInk c = true
  comment_head : ∀ c ∈ comment.head?, Text.isBlank c = false
  comment_line : '\n' ∉ comment

namespace ParamDoc

variable (doc : ParamDoc)

/-- The name with its mark. -/
def name : String :=
  String.ofList ('$' :: doc.bareName)

/-- The text of the tag: type, name and comment, set apart by single spaces. -/
def text : String :=
  String.ofList (doc.type ++ ' ' :: '$' :: (doc.bareName ++ ' ' :: doc.comment))

/-- The tag line of the parameter. -/
def tagLine : TagLine :=
  ⟨doc.lead, "@param", doc.gap, doc.text⟩

theorem isBlank_of_mem_nil {c : Char} (hc : c ∈ ([] : List Char)) : Text.isBlank c = true :=
  absurd hc List.not_mem_nil

theorem isBlank_of_mem_space {c : Char} (hc : c ∈ [' ']) : Text.isBlank c = true := by
  rw [List.mem_singleton.mp hc]
  decide

/-- The text in its pieces. -/
def reading : ParamText.Reading where
  lead := []
  type := doc.type
  trail := [' ']
  mark := '$'
  name := doc.bareName
  blanks := [' ']
  comment := doc.comment
  feed := []
  lead_blank _ hc := isBlank_of_mem_nil hc
  type_unmarked := doc.type_unmarked
  type_head := doc.type_head
  type_last := doc.type_last
  trail_blank _ hc := isBlank_of_mem_space hc
  trail_nil hnil := absurd hnil doc.type_ne_nil
  mark_isMark := rfl
  name_ne_nil := doc.name_ne_nil
  name_ink := doc.name_ink
  blanks_blank _ hc := isBlank_of_mem_space hc
  comment_head := doc.comment_head
  comment_line := doc.comment_line
  comment_apart _ := List.cons_ne_nil _ _
  feed_nil := Or.inl rfl

/-- The text parses to its pieces. -/
theorem parse_text : ParamText.parse doc.text = doc.reading.fields := by
  have htext : doc.text.toList = doc.reading.text := by
    simp [text, reading, ParamText.Reading.text, ParamText.Reading.front, ParamText.Reading.back]
  rw [ParamText.parse, htext, doc.reading.ofChars_text]

/-- The tag line is well written, and it names the parameter. -/
theorem wellWritten_of_shows {tag : Tag} (hshows : doc.tagLine.Shows tag) :
    (ParamTag.ofTag tag).WellWritten ∧
      (ParamTag.ofTag tag).fields.variableName = doc.name := by
  obtain ⟨position, hinline⟩ := hshows.inline
  have hfields : (ParamTag.ofTag tag).fields = doc.reading.fields := by
    rw [← doc.parse_text, ParamTag.ofTag, hinline]
    rfl
  refine ⟨⟨?_, ?_, ?_, ?_⟩, ?_⟩
  · rw [hfields]
    simpa [ParamText.Reading.fields, reading] using doc.type_ne_nil
  · rw [ParamTag.isNamed, hfields]
    simp [ParamText.Reading.fields, reading]
  · rw [ParamTag.typeSpaced, hfields]
    exact Bool.or_true _
  · rw [ParamTag.nameSpaced, hfields]
    exact Bool.or_true _
  · rw [hfields]
    rfl

end ParamDoc

/-- A function with a comment in the layout of the house style. It depends on how characters are
classed whether the comment begins as it should. -/
structure WrittenFunction (letters : Char → Text.LetterClass) where
  /-- The line on which the comment begins. -/
  line : Int
  /-- What stands before the short description. -/
  lead : Filling
  /-- The short description. -/
  short : String
  /-- The documentation of the parameters. -/
  params : List ParamDoc
  /-- The line of the return tag, if there is one. -/
  returned? : Option TagLine
  /-- What stands before the end of the comment. -/
  trail : Filling
  /-- What stands between the comment and the function: modifiers and white space. -/
  leadIn : Sketch
  /-- The keyword of the function. -/
  keyword : String
  /-- The rest of the declaration. -/
  declaration : Declaration
  /-- The short description begins with a capital letter or with no letter at all. -/
  short_begins : ∃ c rest, short.toList = c :: rest ∧
    (letters c = .capital ∨ letters c = .nonLetter)
  returned_name : ∀ tagLine ∈ returned?, tagLine.name = "@return"
  returned_text : ∀ tagLine ∈ returned?, tagLine.text ≠ ""
  leadIn_kind : ∀ token ∈ leadIn, token.kind.isLeadIn = true

namespace WrittenFunction

variable {letters : Char → Text.LetterClass} (function : WrittenFunction letters)

/-- The names that are documented. -/
def documented : List String :=
  function.params.map ParamDoc.name

/-- The names that are declared. -/
def declared : List String :=
  function.declaration.names

/-- The tag lines: one for each parameter, then perhaps one for the returned value. -/
def lines : List TagLine :=
  function.params.map ParamDoc.tagLine ++ function.returned?.toList

/-- The comment. -/
def comment : WrittenComment :=
  ⟨function.line, function.lead, function.short, function.lines, function.trail⟩

/-- The token of the keyword, on the line after the comment. -/
def token : Token :=
  .plain .function function.keyword (function.comment.lastLine + 1)

/-- The tokens of the function and its comment. -/
def sketch : Sketch :=
  function.comment.sketch ++ (function.leadIn ++ function.token :: function.declaration.sketch)

/-- Where the keyword stands, if the comment begins at a position. -/
def anchor (position : Int) : Int :=
  position + function.comment.sketch.length + function.leadIn.length

/-- Either policy accepts the short description. -/
theorem accepts_short (policy : Capitalization) :
    policy.accepts letters function.short = true := by
  obtain ⟨c, rest, hshort, hclass⟩ := function.short_begins
  rw [Capitalization.accepts, hshort]
  cases policy <;> rcases hclass with hclass | hclass <;> simp [Capitalization.acceptsClass, hclass]

/-! ### Tags -/

/-- The tag lines of a name. -/
theorem filter_lines (name : String) :
    (function.lines.filter fun tagLine => tagLine.name == name) =
      (if "@param" = name then function.params.map ParamDoc.tagLine else []) ++
        if "@return" = name then function.returned?.toList else [] := by
  have hparams : ∀ tagLine ∈ function.params.map ParamDoc.tagLine, tagLine.name = "@param" := by
    intro tagLine htagLine
    obtain ⟨doc, -, rfl⟩ := List.mem_map.mp htagLine
    rfl
  have hreturned : ∀ tagLine ∈ function.returned?.toList, tagLine.name = "@return" := by
    intro tagLine htagLine
    exact function.returned_name tagLine (Option.mem_toList.mp htagLine)
  rw [lines, List.filter_append, TagLine.filter_name hparams, TagLine.filter_name hreturned]

section Tags

variable {function} {source : Source} {position : Int} {block : Block}
variable (hblock : function.comment.Shows source position block)

include hblock

/-- The tags of a name are read off the tag lines of the name. -/
theorem shows_tagsNamed (name : String) :
    List.Forall₂ TagLine.Shows
      ((if "@param" = name then function.params.map ParamDoc.tagLine else []) ++
        if "@return" = name then function.returned?.toList else [])
      (block.tagsNamed name) := by
  rw [← filter_lines]
  exact hblock.tagsNamed name

/-- There are no tags but those of parameters and of the returned value. -/
theorem tagsNamed_eq_nil {name : String} (hparam : "@param" ≠ name) (hreturn : "@return" ≠ name) :
    block.tagsNamed name = [] := by
  have htags := shows_tagsNamed hblock name
  rw [if_neg hparam, if_neg hreturn] at htags
  exact List.forall₂_nil_left_iff.mp htags

/-- The parameter tags are well written, and they name the documented parameters. -/
theorem wellWritten_paramTags :
    (∀ param ∈ Rule.paramTags block, param.WellWritten) ∧
      ParamTag.names (Rule.paramTags block) = function.documented := by
  have htags := shows_tagsNamed hblock "@param"
  rw [if_pos rfl, if_neg (by decide), List.append_nil, List.forall₂_map_left_iff] at htags
  rw [Rule.paramTags, documented]
  generalize function.params = docs, block.tagsNamed "@param" = tags at htags ⊢
  induction htags with
  | nil => exact ⟨fun _ hparam => absurd hparam List.not_mem_nil, rfl⟩
  | @cons doc tag docs tags hshows _ ih =>
    obtain ⟨hwell, hname⟩ := doc.wellWritten_of_shows hshows
    obtain ⟨hwells, hnames⟩ := ih
    refine ⟨List.forall_mem_cons.mpr ⟨hwell, hwells⟩, ?_⟩
    exact congrArg₂ List.cons hname hnames

/-- There is one return tag at most, and it has a text. -/
theorem returns_eq_done (site : Site) (name? : Option String) :
    Rule.returns site block name? = .done () := by
  have htags := shows_tagsNamed hblock "@return"
  rw [if_neg (by decide), if_pos rfl, List.nil_append] at htags
  apply Rule.returns_eq_done
  · rw [← htags.length_eq]
    exact Option.length_toList_le
  · intro tag htag
    obtain ⟨tagLine, htagLine, hshows⟩ := exists_partner_of_forall₂ htags htag
    obtain ⟨place, hinline⟩ := hshows.inline
    rw [Tag.inlineText, hinline]
    exact function.returned_text tagLine (Option.mem_toList.mp htagLine)

/-- The first parameter tag, if there is one, is the first of all tags. -/
theorem blankLineBeforeParams_eq_done (site : Site) :
    Rule.blankLineBeforeParams site block = .done () := by
  have htags : List.Forall₂ TagLine.Shows function.lines block.tags := hblock.tags
  have hparams := shows_tagsNamed hblock "@param"
  rw [Rule.blankLineBeforeParams]
  cases hdocs : function.params with
  | nil =>
    have hnone : block.tagsNamed "@param" = [] := by
      rw [hdocs] at hparams
      exact List.forall₂_nil_left_iff.mp hparams
    rw [hnone]
    rfl
  | cons doc docs =>
    rw [lines, hdocs] at htags
    cases hall : block.tags with
    | nil =>
      rw [hall] at htags
      cases htags
    | cons tag others =>
      rw [hall] at htags
      have hname : tag.name = "@param" := (List.forall₂_cons.mp htags).1.name_eq
      have hnamed : block.tagsNamed "@param" =
          tag :: others.filter fun other => other.name == "@param" := by
        rw [Block.tagsNamed, hall, List.filter_cons_of_pos (by rw [hname]; rfl)]
      rw [hnamed]
      exact if_pos rfl

end Tags

/-! ### The comment and the declaration -/

section Placed

variable {function} {source : Source} {position : Int}
variable (hfront : 0 ≤ position) (hshows : source.Shows position function.sketch)

include hshows

/-- The comment comes first. -/
theorem shows_comment : source.Shows position function.comment.sketch :=
  hshows.left

/-- The keyword stands at the anchor. -/
theorem token?_anchor :
    source.token? (function.anchor position) =
      some (function.token.moved (function.anchor position)) :=
  hshows.right.right.head

/-- The rest of the declaration follows the keyword. -/
theorem shows_declaration :
    source.Shows (function.anchor position + 1) function.declaration.sketch :=
  hshows.right.right.tail

/-- The end of the comment and what lies between it and the function. -/
theorem shows_closer :
    source.Shows (function.comment.closerSlot position).position
      (function.comment.closer :: function.leadIn) := by
  have hcloser : source.Shows (function.comment.closerSlot position).position
      [function.comment.closer] := hshows.left.tail.right
  have hleadIn : source.Shows (position + function.comment.sketch.length) function.leadIn :=
    hshows.right.left
  have hnext : position + (function.comment.sketch.length : Int) =
      (function.comment.closerSlot position).position + 1 := by
    rw [WrittenComment.length_sketch, WrittenComment.position_closerSlot]
    omega
  rw [hnext] at hleadIn
  exact Source.Shows.append hcloser hleadIn

include hfront

/-- The comment is the one of the function. -/
theorem locate_anchor :
    source.locate (function.anchor position) =
      .ok (some (.doc .function position (function.comment.closerSlot position).position)) := by
  have hlast : source.beforeLeadIn? (function.anchor position) =
      some (function.comment.closerSlot position) := by
    apply (shows_closer hshows).prev?_eq_some
    · rw [WrittenComment.position_closerSlot]
      omega
    · rw [anchor, WrittenComment.length_sketch, WrittenComment.position_closerSlot]
      omega
    · rfl
    · intro token htoken
      simp [function.leadIn_kind token htoken]
    · simp
  rw [Source.locate, Source.get_eq_ok_iff.mpr (token?_anchor hshows)]
  show some <$> source.locateFunction (function.anchor position) = _
  rw [Source.locateFunction_of_docClose hlast rfl (function.comment.opener?_closerSlot position)]
  rfl

/-- **The comment documents the function**, and it is read as it was written. -/
theorem exists_documents :
    ∃ block, function.comment.Shows source position block ∧
      block.Documents source (function.anchor position) .function := by
  obtain ⟨block, hblock⟩ := WrittenComment.exists_read hfront (shows_comment hshows)
  have hlocate : source.locate (function.anchor position) =
      .ok (some (.doc .function block.opener (function.comment.closerSlot position).position)) := by
    rw [hblock.opener_eq]
    exact locate_anchor hfront hshows
  exact ⟨block, hblock, ⟨_, token?_anchor hshows, rfl⟩, ⟨_, hlocate⟩, hblock.reads⟩

end Placed

/-! ### Reviewing the comment -/

section Review

variable {site : Site} {function} {position : Int} {block : Block}
variable (hfront : 0 ≤ position) (hshows : site.source.Shows position function.sketch)
variable (hanchor : site.anchor = function.anchor position)
variable (hsignatures : site.signatures = .ofTokens)
variable (hblock : function.comment.Shows site.source position block)

include hfront hshows hanchor hsignatures

/-- The declared parameters are read off, and so is the name of the function. -/
theorem signature_eq_ok :
    (∃ name?, site.signatures.name? site.source site.anchor = .ok name?) ∧
      site.signatures.parameters site.source site.anchor = .ok function.declared := by
  have hplace : 0 ≤ function.anchor position := by
    rw [anchor]
    omega
  have hdeclaration := shows_declaration hshows
  rw [hsignatures, hanchor]
  exact ⟨Declaration.exists_nameFromTokens hplace hdeclaration,
    Declaration.parametersFromTokens_eq_ok hplace hdeclaration⟩

include hblock

/-- Of the rules about tags, only the one about parameters is left. -/
theorem functionTags_eq : Review.functionTags site block = Rule.params site block := by
  have hsee : Rule.see site block = .done () := by
    rw [Rule.see, tagsNamed_eq_nil hblock (by decide) (by decide)]
    rfl
  have hthrows : Rule.throws site block site.config.function.throwsPolicy = .done () := by
    rw [Rule.throws, tagsNamed_eq_nil hblock (by decide) (by decide)]
    rfl
  obtain ⟨⟨name?, hname⟩, -⟩ := signature_eq_ok hfront hshows hanchor hsignatures
  rw [Review.functionTags, hsee, done_bind,
    hblock.blankLineBeforeTags_eq_done hfront (shows_comment hshows), done_bind,
    blankLineBeforeParams_eq_done hblock, done_bind, hname, ofExcept_ok_bind,
    returns_eq_done hblock, done_bind, hthrows, done_bind]

variable (hletters : site.letters = letters)
variable (hstop : site.config.function.requireShortFullStop = true →
  Text.endsWithFullStop function.short = true)

include hletters hstop

/-- Of the rules of a function comment, too, only that one is left. -/
theorem functionBody_eq :
    Review.functionBody site block =
      if function.comment.inheritsDoc then .done () else Rule.params site block := by
  obtain ⟨span, hspan, hfirst⟩ := hblock.short
  have hcontent : span.first.content = function.short := by
    rw [hfirst]
    rfl
  have hopener : site.source.token? block.opener =
      some (function.comment.opener.moved position) := by
    rw [hblock.opener_eq]
    exact (shows_comment hshows).head
  have hline : Rule.firstLine site block = .done () :=
    Rule.firstLine_eq_done hblock.first hopener rfl
  have hcapital : Rule.shortCapital site block site.config.function.shortPolicy = .done () :=
    Rule.shortCapital_eq_done hspan (by rw [hcontent, hletters]; exact function.accepts_short _)
  have hfullStop : Review.functionFullStop site block = .done () := by
    rw [Review.functionFullStop]
    split
    · rename_i hrequired
      exact Rule.shortFullStop_eq_done hspan (by rw [hcontent]; exact hstop hrequired)
    · rfl
  rw [Review.functionBody_eq, hline, done_bind, hcapital, done_bind, hfullStop, done_bind,
    functionTags_eq hfront hshows hanchor hsignatures hblock,
    hblock.inheritsDoc_eq hfront (shows_comment hshows)]

/-- **Reviewing a written function** comes down to comparing parameters. -/
theorem review_eq :
    Review.function site block =
      if function.comment.inheritsDoc then .done () else Rule.params site block := by
  have hcloser : site.source.token? block.closer =
      some (function.comment.closerSlot position).token := by
    rw [hblock.closer_eq]
    exact (shows_closer hshows).head
  have hkeyword : site.source.token? site.anchor =
      some (function.token.moved (function.anchor position)) := by
    rw [hanchor]
    exact token?_anchor hshows
  have hlines : (function.comment.closerSlot position).token.line =
      (function.token.moved (function.anchor position)).line - 1 := by
    show function.comment.lastLine = function.comment.lastLine + 1 - 1
    omega
  rw [Review.function, Rule.noBlankAfterComment_eq_done hcloser hkeyword hlines, done_bind,
    hblock.first, Option.isSome_some, Rule.shortDescription_eq_done, done_bind, if_pos rfl,
    functionBody_eq hfront hshows hanchor hsignatures hblock hletters hstop]

end Review

/-- **Inspecting a written function** comes down to comparing parameters. -/
theorem exists_inspect_eq {checker : DocChecker Check} (function : WrittenFunction checker.letters)
    (hsignatures : checker.signatures = .ofTokens)
    (hstop : checker.config.function.requireShortFullStop = true →
      Text.endsWithFullStop function.short = true) {source : Source} {position : Int}
    (hfront : 0 ≤ position) (hshows : source.Shows position function.sketch) :
    ∃ (site : Site) (block : Block),
      site.config = checker.config ∧ function.comment.Shows site.source position block ∧
        site.signatures.parameters site.source site.anchor = .ok function.declared ∧
        checker.inspect source (function.anchor position) =
          if function.comment.inheritsDoc then .done () else Rule.params site block := by
  obtain ⟨block, hblock, hdocuments⟩ := exists_documents hfront hshows
  let site := checker.site source (function.anchor position) .function
  have hshows' : site.source.Shows position function.sketch := hshows
  have hblock' : function.comment.Shows site.source position block := hblock
  have hanchor : site.anchor = function.anchor position := rfl
  refine ⟨site, block, rfl, hblock', ?_, ?_⟩
  · exact (signature_eq_ok hfront hshows' hanchor hsignatures).2
  · rw [DocChecker.inspect_eq_review hdocuments]
    exact review_eq hfront hshows' hanchor hsignatures hblock' rfl hstop

/-- **A function whose parameters are documented one by one is passed over in silence**, however
many there are, whatever stands around it, however characters are classed, and whatever the
configuration, as long as the short description ends with a full stop where that is demanded. Where
no parameter is declared twice and the comment is not inherited, nothing else is passed over: the
documented names are the declared ones, followed at most by names that end in the way reserved for
further arguments. -/
theorem complete_documentation_is_silent {checker : DocChecker Check}
    (function : WrittenFunction checker.letters)
    (hsignatures : checker.signatures = .ofTokens)
    (hstop : checker.config.function.requireShortFullStop = true →
      Text.endsWithFullStop function.short = true) (before after : List Token) :
    (function.documented = function.declared →
        checker.inspect (Source.around before after function.sketch)
          (function.anchor before.length) = .done ()) ∧
      (function.declared.Nodup → function.comment.inheritsDoc = false →
        (checker.inspect (Source.around before after function.sketch)
            (function.anchor before.length) = .done () ↔
          ∃ extra, function.documented = function.declared ++ extra ∧
            ∀ name ∈ extra,
              Text.endsWith name checker.config.function.variadicSuffix = true)) := by
  obtain ⟨site, block, hconfig, hblock, hdeclared, hinspect⟩ :=
    function.exists_inspect_eq hsignatures hstop (Int.natCast_nonneg before.length)
      (Source.shows_around before after function.sketch)
  obtain ⟨hwell, hnames⟩ := wellWritten_paramTags hblock
  have hsilent : NamesFit checker.config.function.variadicSuffix function.declared
      function.documented → Rule.params site block = .done () := by
    intro hfit
    rw [← hnames, ← hconfig] at hfit
    exact Rule.params_eq_done hdeclared hwell hfit
  rw [hinspect]
  refine ⟨?_, ?_⟩
  · intro hequal
    rw [hsilent ⟨[], by rw [hequal, List.append_nil], by simp⟩]
    exact ite_self _
  · intro hdistinct hplain
    have hinherit : block.tagsNamed "@inheritdoc" = [] :=
      tagsNamed_eq_nil hblock (by decide) (by decide)
    rw [hplain, if_neg Bool.false_ne_true]
    refine ⟨?_, hsilent⟩
    intro hparams
    rw [← hnames, ← hconfig]
    exact (Rule.fit_of_params_eq_done hdeclared hdistinct hinherit hparams).2

/-! ### A function -/

/-- The beginning of a line of a comment. -/
def stars (line : Int) : Sketch :=
  [.plain .docWhitespace "\n " line, .plain .docStar "*" line, .plain .docWhitespace " " line]

/-- Filling up to the first text of a line. -/
def starLine (line : Int) : Filling :=
  ⟨stars line, by simp [stars, Token.plain, Kind.isFiller]⟩

/-- Filling with a line that has no text. -/
def blankLine (line : Int) : Filling :=
  ⟨stars line ++ stars (line + 1), by simp [stars, Token.plain, Kind.isFiller]⟩

/-- Filling between a tag and its text. -/
def space (line : Int) : Filling :=
  ⟨[.plain .docWhitespace " " line], by simp [Token.plain, Kind.isFiller]⟩

/-- The documentation of a bound. -/
def boundDoc (lead : Filling) (line : Int) (bareName : List Char) (hne : bareName ≠ [])
    (hink : ∀ c ∈ bareName, Text.isInk c = true) : ParamDoc where
  lead := lead
  gap := space line
  type := ['i', 'n', 't']
  bareName := bareName
  comment := ['A', ' ', 'b', 'o', 'u', 'n', 'd', '.']
  type_ne_nil := by simp
  type_unmarked := by simp [ParamText.isMark]
  type_head := by simp; decide
  type_last := by simp; decide
  name_ne_nil := hne
  name_ink := hink
  comment_head := by simp; decide
  comment_line := by simp

/-- The declaration of a bound. -/
def boundParameter (name : String) (after : List Piece)
    (hafter : ∀ piece ∈ after, piece.mayStand false = true) : Parameter where
  before := [.single (.plain .identifier "int" 9), .single (.plain .whitespace " " 9)]
  token := .plain .variableName name 9
  after := after
  comma := .plain .comma "," 9
  before_mayStand := by simp [Piece.mayStand, Token.plain, Kind.isBracketOpener]
  token_kind := rfl
  after_mayStand := hafter
  comma_kind := rfl

/-- A function with two parameters. The default value of the second one is a group with a comma in
it. -/
def pickNumber : WrittenFunction Text.letterClass where
  line := 2
  lead := starLine 3
  short := "Picks a number."
  params :=
    [boundDoc (blankLine 4) 5 ['l', 'o', 'w'] (by simp) (List.all_eq_true.mp rfl),
     boundDoc (starLine 6) 6 ['h', 'i', 'g', 'h'] (by simp) (List.all_eq_true.mp rfl)]
  returned? := some ⟨starLine 7, "@return", space 7, "int"⟩
  trail := ⟨[.plain .docWhitespace "\n " 8], by simp [Token.plain, Kind.isFiller]⟩
  leadIn := [.plain .whitespace "\n" 8, .plain .publicKeyword "public" 9,
    .plain .whitespace " " 9]
  keyword := "function"
  declaration :=
    { head := [.plain .whitespace " " 9, .plain .identifier "pick" 9]
      opening := .plain .openParenthesis "(" 9
      parameters :=
        [boundParameter "$low" [] (by simp),
         boundParameter "$high"
          [.single (.plain .equal "=" 9), .single (.plain .identifier "max" 9),
           .group (.plain .openParenthesis "(" 9)
            [.plain .number "1" 9, .plain .comma "," 9, .plain .number "2" 9,
             .plain .closeParenthesis ")" 9]]
          (by simp [Piece.mayStand, Token.plain, Kind.isBracketOpener])]
      rest := []
      closing := .plain .closeParenthesis ")" 9
      head_kind := by simp [Token.plain]
      opening_kind := rfl
      rest_mayStand := by simp }
  short_begins := ⟨'P', "icks a number.".toList, by simp, Or.inl (by decide)⟩
  returned_name := by simp
  returned_text := by simp
  leadIn_kind := by simp [Token.plain, Kind.isLeadIn, Kind.isModifier]

/-- The same function with a comment that leaves its parameters out. -/
def pickSomeNumber : WrittenFunction Text.letterClass :=
  { pickNumber with params := [] }

/-- The first one is passed over, even where full stops are demanded, and the second one is not. -/
theorem pickNumber_silent :
    let checker := DocChecker.ofConfig { function := { requireShortFullStop := true } }
    let inspect (function : WrittenFunction Text.letterClass) := checker.inspect
      (Source.around [.plain .openTag "<?php" 1] [.plain .semicolon ";" 9] function.sketch)
      (function.anchor 1)
    pickNumber.documented = ["$low", "$high"] ∧ pickNumber.declared = ["$low", "$high"] ∧
      inspect pickNumber = .done () ∧ inspect pickSomeNumber ≠ .done () := by
  intro checker inspect
  have hsignatures : checker.signatures = .ofTokens := rfl
  have hstop : Text.endsWithFullStop pickNumber.short = true := by decide
  have hsilent (function : WrittenFunction checker.letters) :=
    function.complete_documentation_is_silent hsignatures
  refine ⟨rfl, rfl, ?_, ?_⟩
  · exact (hsilent pickNumber (fun _ => hstop) _ _).1 rfl
  · intro hdone
    obtain ⟨extra, hnames, -⟩ := ((hsilent pickSomeNumber (fun _ => hstop) _ _).2
      (by decide) (by decide)).mp hdone
    simp [pickSomeNumber, documented, declared, pickNumber, Declaration.names] at hnames

end WrittenFunction

end DocLint

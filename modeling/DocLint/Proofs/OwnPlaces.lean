import DocLint.Proofs.OwnComment
import DocLint.Proofs.ReviewFindings
import DocLint.Proofs.WellFormed

/-!
# Where findings stand

Whatever is wrong with a declaration or its comment, it is reported at the declaration itself or
inside the comment that was found for it. Only for a file the token after the open tag and the token
after the comment are blamed as well. An edit is aimed at a text inside the comment, namely the
first one after a parameter tag and on its line.

The lists of findings name positions by the parts of a comment, so it is enough to know that these
parts lie between its ends. They do where doc comments are paired and list their tags in order,
between their ends; nothing is assumed about what else stands in a comment.
-/

namespace DocLint

open Check

/-! ## The parts of a comment -/

/-- What goes on a description are slots that were given. -/
theorem SpanTail.mem_of_mem_after {line : Int} {slots : List Slot} {slot : Slot}
    (hslot : slot ∈ (SpanTail.after line slots).slots) : slot ∈ slots := by
  induction slots generalizing line with
  | nil => exact hslot
  | cons first rest ih =>
    rw [SpanTail.after] at hslot
    split at hslot
    · cases hslot
    · split at hslot
      · rcases List.mem_cons.mp hslot with rfl | hmore
        · exact List.mem_cons_self
        · exact List.mem_cons_of_mem first (ih hmore)
      · cases hslot
    · exact List.mem_cons_of_mem first (ih hslot)

/-- A description goes forward. -/
theorem Span.le_position_last {source : Source} {first : Slot} {closer : Int} {span : Span}
    (hread : Span.read source first closer = .ok span) : first.position ≤ span.last.position := by
  obtain ⟨-, rfl⟩ := Span.read_eq_ok_iff.mp hread
  have hlast : (Span.mk first (tail source first closer).slots).last ∈
      first :: (tail source first closer).slots := List.getLastD_mem_cons
  rcases List.mem_cons.mp hlast with hfirst | hmore
  · exact Int.le_of_eq (congrArg Slot.position hfirst).symm
  · have hlow := (Source.mem_stretch (SpanTail.mem_of_mem_after hmore)).2.1
    omega

/-- A description that was found can be read. -/
theorem Block.read_of_description? {source : Source} {first? : Option Slot} {closer : Int}
    {span : Span} (hread : description? source first? closer = .ok (some span)) :
    Span.read source span.first closer = .ok span := by
  rw [first_of_description? hread, description?] at hread
  split at hread
  · obtain ⟨found, hfound, hspan⟩ := except_bind_eq_ok_iff.mp hread
    obtain rfl := Option.some.inj (Except.ok.inj hspan)
    exact hfound
  · cases hread

/-- Content is found between the bounds of its search. -/
theorem Block.bounds_of_content? {source : Source} {start closer : Int} {slot : Slot}
    (hfound : content? source start closer = some slot) :
    start ≤ slot.position ∧ slot.position < closer := by
  obtain ⟨-, hlow, hhigh, -⟩ := Source.next?_eq_some_iff.mp hfound
  exact ⟨hlow, hhigh⟩

/-- The position is strictly between the ends of the comment. -/
def Block.Encloses (block : Block) (position : Int) : Prop :=
  block.opener < position ∧ position < block.closer

namespace Block.Reads

variable {source : Source} {block : Block} {token : Token} (hreads : block.Reads source token)

include hreads

/-- A short description begins inside its comment. -/
theorem encloses_short {short : Span} (hshort : block.short? = some short) :
    block.Encloses short.first.position := by
  have hread := hreads.short
  rw [hshort] at hread
  have hfirst := first_of_description? hread
  rw [hreads.first] at hfirst
  obtain ⟨hlow, hhigh⟩ := bounds_of_content? hfirst
  exact ⟨by omega, hhigh⟩

/-- So does a long one. -/
theorem encloses_long {long : Span} (hlong : block.long? = some long) :
    block.Encloses long.first.position := by
  have hread := hreads.long
  cases hsome : block.short? with
  | none =>
    rw [hlong, hsome] at hread
    cases hread
  | some short =>
    have hshort := hreads.short
    rw [hsome] at hshort
    have hforward := Span.le_position_last (read_of_description? hshort)
    have hbefore := (hreads.encloses_short hsome).1
    rw [hlong, hsome] at hread
    obtain ⟨hlow, hhigh⟩ := bounds_of_content? (first_of_description? hread)
    exact ⟨by omega, hhigh⟩

end Block.Reads

/-! ## Comments that list their own tags -/

/-- A comment that was found was met at its beginning or reached at its end. -/
theorem Source.exists_opening_or_closesComment {source : Source} {anchor : Slot}
    (hanchor : anchor ∈ source.slots) {subject : Subject} {opener closer : Int}
    (hlocate : source.locate anchor.position = .ok (some (.doc subject opener closer))) :
    (∃ opening ∈ source.slots, opening.position = opener ∧ opening.kind = .docOpen ∧
        opening.token.closer? = some closer) ∨
      ∃ slot, source.ClosesComment anchor.position opener slot ∧ slot.position = closer := by
  obtain ⟨declared, -, hfound⟩ := locate_eq_some hanchor hlocate
  cases declared with
  | file =>
    obtain rfl := (locateFile_eq_some hfound).2 subject opener closer rfl
    obtain ⟨-, opening, hnext, hposition, hkind, hcloser⟩ := locateFile_eq_doc_iff.mp hfound
    exact Or.inl ⟨opening, (next?_eq_some_iff.mp hnext).1, hposition, hkind, hcloser⟩
  | classLike => exact Or.inr (exists_closesComment_of_locateClass hfound)
  | function => exact Or.inr (exists_closesComment_of_locateFunction hfound)

/-- Where doc comments are paired, the comment that was found for a declaration lies between two
slots that name each other. -/
theorem Source.PairsDocComments.exists_opening {source : Source} (hpairs : source.PairsDocComments)
    {anchor : Slot} (hanchor : anchor ∈ source.slots) {subject : Subject} {opener closer : Int}
    (hlocate : source.locate anchor.position = .ok (some (.doc subject opener closer))) :
    ∃ opening ∈ source.slots, opening.position = opener ∧ opening.kind = .docOpen ∧
      opening.token.closer? = some closer ∧ opener < closer := by
  rcases exists_opening_or_closesComment hanchor hlocate with
    ⟨opening, hopening, hposition, hkind, hcloser⟩ | ⟨slot, hcloses, rfl⟩
  · obtain ⟨closing, -, hcloser', hbefore, -⟩ := hpairs.closer opening hopening hkind
    obtain rfl : closer = closing.position := Option.some.inj (hcloser.symm.trans hcloser')
    exact ⟨opening, hopening, hposition, hkind, hcloser, hposition ▸ hbefore⟩
  · obtain ⟨opening, hopening, hopener, hbefore, hkind, hcloser⟩ :=
      hpairs.opener slot hcloses.reached.mem hcloses.kind
    obtain rfl : opening.position = opener :=
      Option.some.inj (hopener.symm.trans hcloses.opener)
    exact ⟨opening, hopening, rfl, hkind, hcloser, hbefore⟩

/-- The doc comments of a source are paired, and each of them lists its tags in ascending order,
strictly between its ends. -/
structure Source.ListsOwnTags (source : Source) : Prop where
  /-- The comments are paired. -/
  pairs : source.PairsDocComments
  /-- The tags are listed in ascending order. -/
  ascending : ∀ opening ∈ source.slots, opening.kind = .docOpen →
    opening.token.tagPositions.Pairwise (· < ·)
  /-- They are listed between the ends of the comment. -/
  between : ∀ opening ∈ source.slots, opening.kind = .docOpen →
    ∀ closer ∈ opening.token.closer?, ∀ position ∈ opening.token.tagPositions,
      opening.position < position ∧ position < closer

namespace Source.ListsOwnTags

variable {source : Source} (hlists : source.ListsOwnTags)

include hlists

/-- The comment of a declaration begins in a slot of the source and ends where it was found to. -/
theorem located_of_documents {anchor : Slot} (hanchor : anchor ∈ source.slots) {subject : Subject}
    {block : Block} (hdocuments : block.Documents source anchor.position subject) :
    source.locate anchor.position = .ok (some (.doc subject block.opener block.closer)) ∧
      block.opener < block.closer ∧
      ∃ opening ∈ source.slots, opening.position = block.opener ∧
        block.Reads source opening.token := by
  obtain ⟨closer, hlocate⟩ := hdocuments.located
  obtain ⟨token, hreads⟩ := hdocuments.reads
  obtain ⟨opening, hopening, hposition, -, hcloser, hbefore⟩ :=
    hlists.pairs.exists_opening hanchor hlocate
  obtain rfl : opening.token = token := by
    have hat := Source.token?_of_mem_slots hopening
    rw [hposition, hreads.token?, Option.some.injEq] at hat
    exact hat.symm
  obtain rfl : closer = block.closer := Option.some.inj (hcloser.symm.trans hreads.closer?)
  exact ⟨hlocate, hbefore, opening, hopening, hposition, hreads⟩

section Tags

variable {block : Block} {opening : Slot} (hopening : opening ∈ source.slots)
variable (hopener : opening.position = block.opener) (hreads : block.Reads source opening.token)

include hopening hopener hreads

/-- The tags of a comment stand inside it, and so do the texts on their lines: each is the first
text after its tag. -/
theorem exists_tag {tag : Tag} (htag : tag ∈ block.tags) :
    ∃ slot ∈ source.slots, slot.position = tag.position ∧ slot.content = tag.name ∧
      slot.position ∈ opening.token.tagPositions ∧ block.Encloses tag.position ∧
      ∀ inline, tag.inline? = some inline → ∃ text ∈ source.slots,
        text.position = inline.position ∧ text.kind = .docString ∧ text.line = slot.line ∧
        slot.position < text.position ∧ block.Encloses inline.position ∧
        ∀ other ∈ source.slots, slot.position < other.position →
          other.position < text.position → other.kind ≠ .docString := by
  obtain ⟨position, stop, hbounds, hread⟩ := hreads.exists_bounds htag
  obtain ⟨token, hat, hwhole, rfl⟩ := Tag.read_eq_ok_iff.mp hread
  obtain ⟨hlisted, hstop, -⟩ :=
    Tag.bounds_of_mem_zip (hlists.ascending opening hopening hreads.kind) hbounds
  have hbetween := hlists.between opening hopening hreads.kind block.closer hreads.closer?
  have hplace := hbetween position hlisted
  have hfront := (Source.bounds_of_mem_slots hopening).1
  have hend : stop ≤ block.closer := by
    rcases hstop with hstop | rfl
    · exact Int.le_of_lt (hbetween stop hstop).2
    · exact Int.le_refl _
  rw [hopener] at hplace hfront
  have hposition : 0 ≤ position := by omega
  refine ⟨⟨position, token⟩, Source.mem_slots_iff.mpr ⟨hposition, hat⟩, ?_, ?_, hlisted, ?_, ?_⟩
  · rw [Tag.position_ofTexts]
  · rw [Tag.name_ofTexts]
  · rw [Tag.position_ofTexts]
    exact hplace
  · intro inline hinline
    obtain ⟨first, rest, htexts, hline, rfl⟩ := Tag.inline?_ofTexts_eq_some _ _ _ _ hinline
    have hfirst : first ∈ Tag.texts source position stop := by
      rw [htexts]
      exact List.mem_cons_self
    obtain ⟨hstretch, hkind⟩ := List.mem_filter.mp hfirst
    obtain ⟨hat', hlow, hhigh⟩ := Source.mem_stretch hstretch
    have hafter : position < first.position := by omega
    have hencloses : block.Encloses first.position := ⟨by omega, by omega⟩
    refine ⟨first, Source.mem_slots_iff.mpr ⟨by omega, hat'⟩, rfl, by simpa using hkind, hline,
      hafter, hencloses, ?_⟩
    intro other hother hafter hbefore hstring
    have hle := Tag.le_of_texts_eq_cons hwhole htexts hother hstring hafter
    omega

end Tags

end Source.ListsOwnTags

/-! ## Places -/

/-- A position at which something about a declaration may be reported. -/
inductive Source.OwnPlace (source : Source) (anchor : Slot) : Int → Prop
  /-- The declaration itself. -/
  | anchor : OwnPlace source anchor anchor.position
  /-- The comment that was found for it, its ends included. -/
  | comment {subject : Subject} {opener closer position : Int}
      (hlocate : source.locate anchor.position = .ok (some (.doc subject opener closer)))
      (hlow : opener ≤ position) (hhigh : position ≤ closer) : OwnPlace source anchor position
  /-- The token after an open tag. -/
  | belowOpenTag (hkind : anchor.kind = .openTag) : OwnPlace source anchor (anchor.position + 1)
  /-- The token after the comment of a file. -/
  | belowComment (hkind : anchor.kind = .openTag) {subject : Subject} {opener closer : Int}
      (hlocate : source.locate anchor.position = .ok (some (.doc subject opener closer))) :
    OwnPlace source anchor (closer + 1)

/-- The text is the first one after a parameter tag of the comment that was found for a declaration,
and it stands on the line of the tag. -/
structure Source.OwnParamText (source : Source) (anchor opening tag text : Slot) (closer : Int) :
    Prop where
  /-- The comment is that of the declaration. -/
  located : source.locate anchor.position = .ok (some (.doc .function opening.position closer))
  /-- It begins in a slot of the source. -/
  opening_mem : opening ∈ source.slots
  /-- The tag is one of the comment's. -/
  listed : tag ∈ source.slots ∧ tag.position ∈ opening.token.tagPositions
  /-- It is a parameter tag. -/
  named : tag.content = "@param"
  /-- The text is a text token of the source. -/
  string : text ∈ source.slots ∧ text.kind = .docString
  /-- It stands strictly inside the comment. -/
  inside : opening.position < text.position ∧ text.position < closer
  /-- It stands on the line of the tag. -/
  sameLine : text.line = tag.line
  /-- It is the first one after the tag. -/
  first : tag.position < text.position ∧ ∀ other ∈ source.slots, tag.position < other.position →
    other.position < text.position → other.kind ≠ .docString

/-- Only parameter tags of function comments are respaced, and each is blamed itself. -/
theorem Subject.Finds.exists_param {subject : Subject} {site : Site} {block : Block}
    {finding : Finding} (hfinds : subject.Finds site block finding) {edit : Edit}
    (hedit : finding.edit? = some edit) :
    subject = .function ∧ ∃ tag ∈ block.tagsNamed "@param", tag.position = finding.position ∧
      (ParamTag.ofTag tag).canonicalEdit? = some edit := by
  cases subject with
  | file =>
    rcases hfinds with _ | _ | htable
    · cases hedit
    · cases hedit
    · cases htable <;> cases hedit
  | classLike => cases hfinds <;> cases hedit
  | function =>
    refine ⟨rfl, ?_⟩
    rcases hfinds with hheading | htag
    · cases hheading <;> cases hedit
    · rcases htag with _ | _ | _ | hreturn | ⟨_, hthrows⟩ | hparam
      · cases hedit
      · cases hedit
      · cases hedit
      · cases hreturn <;> cases hedit
      · cases hthrows <;> cases hedit
      · cases hparam with
        | typeSpace htag => exact ⟨_, htag, rfl, hedit⟩
        | nameSpace htag => exact ⟨_, htag, rfl, hedit⟩
        | _ => cases hedit

/-! ### Parts of a comment -/

/-- The parts of a comment at which something may be reported stand at certain places. -/
structure Block.PartsAt (place : Int → Prop) (block : Block) : Prop where
  opener : place block.opener
  /-- The token after the opener is blamed for what should stand on the first line. -/
  inside : place (block.opener + 1)
  closer : place block.closer
  short : ∀ short, block.short? = some short → place short.first.position
  long : ∀ long, block.long? = some long → place long.first.position
  tag : ∀ tag ∈ block.tags, place tag.position
  inline : ∀ tag ∈ block.tags, ∀ inline, tag.inline? = some inline → place inline.position

section Parts

variable {place : Int → Prop} {block : Block} {finding : Finding} (hparts : block.PartsAt place)

include hparts

theorem Block.PartsAt.tagNamed {name : String} {tag : Tag} (htag : tag ∈ block.tagsNamed name) :
    place tag.position :=
  hparts.tag tag (Block.mem_tagsNamed.mp htag).1

theorem Rule.TableFinding.atPart {construct : String}
    (hfinding : Rule.TableFinding block construct finding) : place finding.position := by
  cases hfinding with
  | duplicate htag => exact hparts.tag _ htag
  | empty htag => exact hparts.tag _ htag
  | missing name => exact hparts.closer
  | order htag => exact hparts.tag _ htag
  | copyright htag => exact hparts.tag _ htag
  | license htag => exact hparts.tag _ htag

theorem Rule.ReturnFinding.atPart (hfinding : Rule.ReturnFinding block finding) :
    place finding.position := by
  cases hfinding with
  | untyped hreturns => exact hparts.tagNamed (hreturns ▸ List.mem_cons_self)
  | second hreturns =>
    exact hparts.tagNamed (hreturns ▸ List.mem_cons_of_mem _ List.mem_cons_self)

theorem Rule.ThrowsFinding.atPart {tag : Tag} (htag : tag ∈ block.tags)
    (hfinding : Rule.ThrowsFinding tag finding) : place finding.position := by
  cases hfinding with
  | invalid => exact hparts.tag _ htag
  | empty => exact hparts.tag _ htag
  | capital hinline => exact hparts.inline _ htag _ hinline
  | fullStop hinline => exact hparts.inline _ htag _ hinline

theorem Rule.ParamFinding.atPart (hfinding : Rule.ParamFinding block finding) :
    place finding.position := by
  cases hfinding with
  | untyped htag => exact hparts.tagNamed htag
  | unnamed htag => exact hparts.tagNamed htag
  | typeSpace htag => exact hparts.tagNamed htag
  | nameSpace htag => exact hparts.tagNamed htag
  | otherCase htag => exact hparts.tagNamed htag
  | otherName htag => exact hparts.tagNamed htag
  | extra htag => exact hparts.tagNamed htag
  | undocumented name => exact hparts.opener

theorem Review.ClassFinding.atPart (hfinding : Review.ClassFinding block finding) :
    place finding.position := by
  cases hfinding with
  | firstLine => exact hparts.inside
  | shortLines => exact hparts.inside
  | shortCapital hshort => exact hparts.short _ hshort
  | shortStop => exact hparts.opener
  | gap hlong => exact hparts.long _ hlong
  | longCapital hlong => exact hparts.long _ hlong
  | longStop => exact hparts.opener
  | tag htag => exact hparts.tag _ htag
  | closer => exact hparts.closer
  | after construct => exact hparts.closer

theorem Review.HeadingFinding.atPart (hfinding : Review.HeadingFinding block finding) :
    place finding.position := by
  cases hfinding with
  | after => exact hparts.closer
  | firstLine => exact hparts.inside
  | shortCapital hshort => exact hparts.short _ hshort
  | shortStop => exact hparts.opener

theorem Review.TagFinding.atPart (hfinding : Review.TagFinding block finding) :
    place finding.position := by
  cases hfinding with
  | see htag => exact hparts.tag _ htag
  | beforeTags htag => exact hparts.tag _ htag
  | beforeParams htag => exact hparts.tag _ htag
  | returns hreturn => exact hreturn.atPart hparts
  | throws htag hthrows => exact hthrows.atPart hparts (Block.mem_tagsNamed.mp htag).1
  | params hparam => exact hparam.atPart hparts

end Parts

/-! ### Places of a declaration -/

/-- Only an open tag declares a file. -/
theorem Subject.kind_of_file {kind : Kind} (hsubject : Subject.ofKind? kind = some .file) :
    kind = .openTag := by
  cases kind with
  | openTag => rfl
  | _ => cases hsubject

section Places

variable {source : Source} {anchor : Slot} {subject : Subject}
variable (hsubject : Subject.ofKind? anchor.kind = some subject)

theorem Rule.ownPlace_belowOpenTag (hkind : anchor.kind = .openTag) :
    source.OwnPlace anchor (belowOpenTag source anchor.position) := by
  rw [belowOpenTag]
  split
  · exact .belowOpenTag hkind
  · exact .anchor

include hsubject in
/-- Where a missing comment is reported is a place of the declaration. -/
theorem DocChecker.ownPlace_missingPosition :
    source.OwnPlace anchor (missingPosition subject source anchor.position) := by
  cases subject with
  | file => exact Rule.ownPlace_belowOpenTag (Subject.kind_of_file hsubject)
  | classLike => exact .anchor
  | function => exact .anchor

variable (hlists : source.ListsOwnTags) (hanchor : anchor ∈ source.slots)
variable {checker : DocChecker Check} {block : Block} {finding : Finding}
variable (hdocuments : block.Documents source anchor.position subject)
variable (hfinds : subject.Finds (checker.site source anchor.position subject) block finding)

include hlists hanchor hdocuments

/-- The parts of the comment of a declaration stand at its places. -/
theorem Block.Documents.partsAt : block.PartsAt (source.OwnPlace anchor) := by
  obtain ⟨hlocate, hbefore, opening, hopening, hopener, hreads⟩ :=
    hlists.located_of_documents hanchor hdocuments
  have hinside : ∀ position, block.Encloses position → source.OwnPlace anchor position :=
    fun position hencloses =>
      .comment hlocate (Int.le_of_lt hencloses.1) (Int.le_of_lt hencloses.2)
  refine ⟨?_, ?_, ?_, ?_, ?_, ?_, ?_⟩
  · exact .comment hlocate (Int.le_refl _) (Int.le_of_lt hbefore)
  · exact .comment hlocate (by omega) hbefore
  · exact .comment hlocate (Int.le_of_lt hbefore) (Int.le_refl _)
  · exact fun short hshort => hinside _ (hreads.encloses_short hshort)
  · exact fun long hlong => hinside _ (hreads.encloses_long hlong)
  · intro tag htag
    obtain ⟨slot, -, -, -, -, hencloses, -⟩ := hlists.exists_tag hopening hopener hreads htag
    exact hinside _ hencloses
  · intro tag htag inline hinline
    obtain ⟨slot, -, -, -, -, -, htexts⟩ := hlists.exists_tag hopening hopener hreads htag
    obtain ⟨text, -, -, -, -, -, hencloses, -⟩ := htexts inline hinline
    exact hinside _ hencloses

include hfinds

include hsubject in
/-- What the review of a comment finds stands at a place of the declaration. -/
theorem Subject.Finds.ownPlace : source.OwnPlace anchor finding.position := by
  have hparts := hdocuments.partsAt hlists hanchor
  obtain ⟨hlocate, -⟩ := hlists.located_of_documents hanchor hdocuments
  cases subject with
  | file =>
    have hkind := Subject.kind_of_file hsubject
    rcases hfinds with _ | _ | htable
    · exact Rule.ownPlace_belowOpenTag hkind
    · exact .belowComment hkind hlocate
    · exact htable.atPart hparts
  | classLike => exact Review.ClassFinding.atPart hparts hfinds
  | function =>
    rcases hfinds with hheading | htag
    · exact hheading.atPart hparts
    · exact htag.atPart hparts

/-- Its edit is aimed at the text of a parameter tag. -/
theorem Subject.Finds.ownParamText {edit : Edit} (hedit : finding.edit? = some edit) :
    ∃ opening tag text closer, source.OwnParamText anchor opening tag text closer ∧
      text.position = edit.position := by
  obtain ⟨hlocate, -, opening, hopening, hopener, hreads⟩ :=
    hlists.located_of_documents hanchor hdocuments
  obtain ⟨rfl, tag, hnamed, -, hcanonical⟩ := hfinds.exists_param hedit
  obtain ⟨inline, hinline, rfl⟩ := ParamTag.eq_of_canonicalEdit? hcanonical
  obtain ⟨htag, hname⟩ := Block.mem_tagsNamed.mp hnamed
  obtain ⟨slot, hslot, -, hcontent, hlisted, -, htexts⟩ :=
    hlists.exists_tag hopening hopener hreads htag
  obtain ⟨text, htext, hplace, hkind, hline, hafter, hencloses, hfirst⟩ := htexts inline hinline
  rw [← hopener] at hlocate
  rw [Block.Encloses, ← hopener, ← hplace] at hencloses
  exact ⟨opening, slot, text, block.closer, ⟨hlocate, hopening, ⟨hslot, hlisted⟩,
    hcontent.trans hname, ⟨htext, hkind⟩, hencloses, hline, hafter, hfirst⟩, hplace⟩

end Places

/-! ## Inspections -/

/-- Places of a declaration count from the front. -/
theorem Source.OwnPlace.front {source : Source} (hlists : source.ListsOwnTags) {anchor : Slot}
    (hanchor : anchor ∈ source.slots) {position : Int} (hplace : source.OwnPlace anchor position) :
    0 ≤ position := by
  have hfront := (bounds_of_mem_slots hanchor).1
  cases hplace with
  | anchor => exact hfront
  | comment hlocate hlow _ =>
    obtain ⟨opening, hopening, rfl, -⟩ := hlists.pairs.exists_opening hanchor hlocate
    exact Int.le_trans (bounds_of_mem_slots hopening).1 hlow
  | belowOpenTag _ => omega
  | belowComment _ hlocate =>
    obtain ⟨opening, hopening, rfl, -, -, hbefore⟩ := hlists.pairs.exists_opening hanchor hlocate
    have hopener := (bounds_of_mem_slots hopening).1
    omega

namespace DocChecker

section Inspection

variable {source : Source} (hlists : source.ListsOwnTags) {anchor : Slot}
variable (hanchor : anchor ∈ source.slots) (checker : DocChecker Check)
variable (hprocessors : checker.processors = .builtIn)

include hlists hanchor hprocessors

/-- What an inspection reports words a finding at a place of the declaration, and its edit, if it
has one, is aimed at the text of a parameter tag. -/
theorem exists_finding_at_ownPlace {diagnostic : Diagnostic}
    (hdiagnostic : diagnostic ∈ (checker.inspect source anchor.position).diagnostics) :
    ∃ (site : Site) (finding : Finding), site.source = source ∧
      finding.WordedAs site diagnostic ∧ source.OwnPlace anchor finding.position ∧
      ∀ edit, finding.edit? = some edit → ∃ opening tag text closer,
        source.OwnParamText anchor opening tag text closer ∧ text.position = edit.position := by
  rcases exists_subject_or_silent checker source anchor.position with
    ⟨token, subject, hat, hsubject⟩ | hsilent
  · obtain rfl : token = anchor.token :=
      Option.some.inj (hat.symm.trans (Source.token?_of_mem_slots hanchor))
    obtain ⟨finding, hworded, hfinding⟩ :=
      (course_inspect hprocessors hat hsubject).exists_finding hdiagnostic
    refine ⟨checker.site source anchor.position subject, finding, rfl, hworded, ?_⟩
    rcases hfinding with ⟨hedit, hposition⟩ | ⟨block, hdocuments, ⟨hedit, hposition⟩ | hfinds⟩
    · rw [hposition, hedit]
      exact ⟨ownPlace_missingPosition hsubject, nofun⟩
    · obtain ⟨hlocate, hbefore, -⟩ := hlists.located_of_documents hanchor hdocuments
      rw [hposition, hedit]
      exact ⟨.comment hlocate (Int.le_refl _) (Int.le_of_lt hbefore), nofun⟩
    · exact ⟨hfinds.ownPlace hsubject hlists hanchor hdocuments,
        fun edit => hfinds.ownParamText hlists hanchor hdocuments⟩
  · rw [hsilent] at hdiagnostic
    cases hdiagnostic

/-- **A declaration is blamed and edited inside its own comment only.** Where doc comments are
paired and list their tags in order between their ends, all that an inspection reports stands at the
declaration, inside the comment that was found for it or, for a file, right after the open tag or
the comment; and its line is that of the token there. Every edit replaces the first text after a
parameter tag, on the line of the tag and strictly inside the comment. -/
theorem inspection_stays_in_own_comment :
    (∀ diagnostic ∈ (checker.inspect source anchor.position).diagnostics,
      source.OwnPlace anchor diagnostic.position ∧
        ∃ slot ∈ source.slots, slot.position = diagnostic.position ∧
          slot.line = diagnostic.line) ∧
      ∀ edit ∈ (checker.inspect source anchor.position).edits,
        ∃ opening tag text closer, source.OwnParamText anchor opening tag text closer ∧
          text.position = edit.position := by
  refine ⟨?_, ?_⟩
  · intro diagnostic hdiagnostic
    obtain ⟨site, finding, rfl, hworded, hplace, -⟩ :=
      exists_finding_at_ownPlace hlists hanchor checker hprocessors hdiagnostic
    rw [hworded.position_eq]
    obtain ⟨token, hat, hline⟩ := Source.exists_token?_of_line hworded.line
    exact ⟨hplace, ⟨finding.position, token⟩,
      Source.mem_slots_iff.mpr ⟨hplace.front hlists hanchor, hat⟩, rfl, hline⟩
  · intro edit hedit
    obtain ⟨diagnostic, hdiagnostic, hedit⟩ := List.mem_filterMap.mp hedit
    obtain ⟨site, finding, -, hworded, -, htext⟩ :=
      exists_finding_at_ownPlace hlists hanchor checker hprocessors hdiagnostic
    exact htext edit (hworded.edit?_eq.symm.trans hedit)

end Inspection

/-- A file comment that is set off wrongly on both sides, and a function with one parameter that is
documented with blanks that should not be there. -/
def fileAndFunction : Source :=
  ⟨#[⟨.openTag, "<?php", 1, none, none, []⟩, ⟨.docOpen, "/**", 3, none, some 3, []⟩,
    ⟨.docString, "Numbers.", 4, none, none, []⟩, ⟨.docClose, "*/", 5, some 1, none, []⟩,
    ⟨.docOpen, "/**", 6, none, some 8, [6]⟩, ⟨.docString, "Adds.", 7, none, none, []⟩,
    ⟨.docTag, "@param", 9, none, none, []⟩,
    ⟨.docString, "int   $x  The number.", 9, none, none, []⟩,
    ⟨.docClose, "*/", 10, some 4, none, []⟩, ⟨.function, "function", 11, none, none, []⟩,
    ⟨.openParenthesis, "(", 11, none, some 12, []⟩, ⟨.variableName, "$x", 11, none, none, []⟩,
    ⟨.closeParenthesis, ")", 11, some 10, none, []⟩]⟩

/-- The file is blamed after the open tag, after its comment and at the end of it. The function is
blamed at its parameter tag, and the text of that tag is edited. -/
theorem fileAndFunction_blamed :
    fileAndFunction.ListsOwnTags ∧
      ((ofConfig {}).inspect fileAndFunction 0).diagnostics.map Diagnostic.position = [1, 4, 3] ∧
      (∀ diagnostic ∈ ((ofConfig {}).inspect fileAndFunction 0).diagnostics,
        fileAndFunction.OwnPlace ⟨0, ⟨.openTag, "<?php", 1, none, none, []⟩⟩
          diagnostic.position) ∧
      ((ofConfig {}).inspect fileAndFunction 9).diagnostics.map Diagnostic.position = [6, 6] ∧
      ((ofConfig {}).inspect fileAndFunction 9).edits =
        List.replicate 2 ⟨7, "int $x The number."⟩ ∧
      ∃ opening tag text closer, fileAndFunction.OwnParamText
        ⟨9, ⟨.function, "function", 11, none, none, []⟩⟩ opening tag text closer ∧
          text.position = 7 := by
  have hlists : fileAndFunction.ListsOwnTags := ⟨⟨by decide, by decide⟩, by decide, by decide⟩
  have hfile : (⟨0, ⟨.openTag, "<?php", 1, none, none, []⟩⟩ : Slot) ∈ fileAndFunction.slots := by
    decide
  have hfunction : (⟨9, ⟨.function, "function", 11, none, none, []⟩⟩ : Slot) ∈
      fileAndFunction.slots := by
    decide
  have hplaces := (inspection_stays_in_own_comment hlists hfile (ofConfig {}) rfl).1
  have htexts := (inspection_stays_in_own_comment hlists hfunction (ofConfig {}) rfl).2
  have hedits : ((ofConfig {}).inspect fileAndFunction 9).edits =
      List.replicate 2 ⟨7, "int $x The number."⟩ := rfl
  rw [hedits] at htexts
  exact ⟨hlists, rfl, fun diagnostic hdiagnostic => (hplaces diagnostic hdiagnostic).1, rfl, hedits,
    htexts ⟨7, "int $x The number."⟩ (by decide)⟩

end DocChecker

end DocLint

import DocLint.Proofs.Findings

/-!
# What becomes of a review and of an inspection

The lists of findings of the rules, put together for the three reviews. A review goes to its end or
stops at a gate: at a closer that is not alone, which only the review of a class comment asks for,
or at a missing description. An inspection complains about a missing or ordinary comment, or it
reviews the comment. `DocChecker.Course` says what is found in each case.
-/

namespace DocLint

open Check

/-! ## Reviews -/

namespace Review

variable {site : Site} {block : Block}

/-- What the review of a file comment may find, a missing description apart. -/
inductive FileFinding (site : Site) (block : Block) : Finding → Prop
  /-- The comment is not right below the open tag. -/
  | above : FileFinding site block
      ⟨Rule.belowOpenTag site.source site.anchor, .spacingBeforeComment, none⟩
  /-- The comment is not set apart from what follows. -/
  | below : FileFinding site block ⟨block.closer + 1, .spacingAfterComment, none⟩
  /-- The tags do not follow the table. -/
  | table {finding : Finding} (htable : Rule.TableFinding block "file" finding) :
    FileFinding site block finding

/-- What the review of a class comment may find, a misplaced closer and a missing description
apart. -/
inductive ClassFinding (block : Block) : Finding → Prop
  /-- The short description is not on the first line. -/
  | firstLine : ClassFinding block ⟨block.opener + 1, .spacingBeforeShort, none⟩
  /-- The short description has several lines. -/
  | shortLines : ClassFinding block ⟨block.opener + 1, .shortSingleLine, none⟩
  /-- The short description begins wrongly. -/
  | shortCapital {short : Span} (hshort : block.short? = some short) :
    ClassFinding block ⟨short.first.position, .shortNotCapital, none⟩
  /-- The short description ends wrongly. -/
  | shortStop : ClassFinding block ⟨block.opener, .missingShortFullStop, none⟩
  /-- The descriptions are not set apart. -/
  | gap {long : Span} (hlong : block.long? = some long) :
    ClassFinding block ⟨long.first.position, .spacingBetweenDescriptions, none⟩
  /-- The long description begins wrongly. -/
  | longCapital {long : Span} (hlong : block.long? = some long) :
    ClassFinding block ⟨long.first.position, .longNotCapital, none⟩
  /-- The long description ends wrongly. -/
  | longStop : ClassFinding block ⟨block.opener, .missingLongFullStop, none⟩
  /-- There is a tag. -/
  | tag {tag : Tag} (htag : tag ∈ block.tags) :
    ClassFinding block ⟨tag.position, .tagNotAllowed tag.name, none⟩
  /-- Blank lines stand before the closer. -/
  | closer : ClassFinding block ⟨block.closer, .spacingBeforeClose, none⟩
  /-- Blank lines stand after the closer. -/
  | after (construct : String) :
    ClassFinding block ⟨block.closer, .spacingAfter construct, none⟩

/-- What the review of a function comment may find about its place and its description, a missing
one apart. -/
inductive HeadingFinding (block : Block) : Finding → Prop
  /-- Blank lines stand after the closer. -/
  | after : HeadingFinding block ⟨block.closer, .spacingAfter "function", none⟩
  /-- The short description is not on the first line. -/
  | firstLine : HeadingFinding block ⟨block.opener + 1, .spacingBeforeShort, none⟩
  /-- The short description begins wrongly. -/
  | shortCapital {short : Span} (hshort : block.short? = some short) :
    HeadingFinding block ⟨short.first.position, .shortNotCapital, none⟩
  /-- The short description ends wrongly. -/
  | shortStop : HeadingFinding block ⟨block.opener, .missingShortFullStop, none⟩

/-- What the review of a function comment may find about its tags. -/
inductive TagFinding (block : Block) : Finding → Prop
  /-- A see tag has no text. -/
  | see {tag : Tag} (htag : tag ∈ block.tags) :
    TagFinding block ⟨tag.position, .emptySees, none⟩
  /-- The tags are not set apart. -/
  | beforeTags {tag : Tag} (htag : tag ∈ block.tags) :
    TagFinding block ⟨tag.position, .spacingBeforeTags, none⟩
  /-- The parameter tags are not set apart. -/
  | beforeParams {tag : Tag} (htag : tag ∈ block.tags) :
    TagFinding block ⟨tag.position, .spacingBeforeFirstParam, none⟩
  /-- Something is wrong with the return tags. -/
  | returns {finding : Finding} (hreturn : Rule.ReturnFinding block finding) :
    TagFinding block finding
  /-- Something is wrong with a throws tag. -/
  | throws {tag : Tag} (htag : tag ∈ block.tagsNamed "@throws") {finding : Finding}
      (hthrows : Rule.ThrowsFinding tag finding) : TagFinding block finding
  /-- Something is wrong with the parameter tags. -/
  | params {finding : Finding} (hparam : Rule.ParamFinding block finding) :
    TagFinding block finding

theorem findsUntil_file :
    (Review.file site .builtIn block).FindsUntil site (FileFinding site block)
      ⟨block.opener, .missingShortDescription "file", none⟩ := by
  apply (Rule.findsOnly_rightBelowOpenTag .above).bind_findsUntil
  intro _
  apply (Rule.findsOnly_blankLineAfterFileComment .below).bind_findsUntil
  intro _
  apply Rule.isGate_shortDescription.findsUntil_bind rfl
  cases site.config.file.checkTags with
  | true => exact Rule.findsOnly_tagTable (fun _ => .table) _
  | false => exact findsOnly_done ()

theorem findsOnly_classBody {construct : String} :
    (classBody site block construct).FindsOnly site (ClassFinding block) := by
  apply (Rule.findsOnly_firstLine .firstLine).bind
  intro _ _
  apply (Rule.findsOnly_shortOnOneLine .shortLines).bind
  intro _ _
  apply (Rule.findsOnly_shortCapital fun _ => .shortCapital).bind
  intro _ _
  apply (Rule.findsOnly_shortFullStop .shortStop).bind
  intro _ _
  apply (Rule.findsOnly_longDescription (fun _ => .gap) (fun _ => .longCapital) .longStop).bind
  intro _ _
  have htags : (noTags site block).FindsOnly site (ClassFinding block) :=
    findsOnly_forM fun tag htag => Site.findsOnly_blame (.tag htag)
  apply htags.bind
  intro _ _
  apply (Rule.findsOnly_noBlankBeforeCloser .closer).bind
  intro _ _
  exact Rule.findsOnly_noBlankAfterComment (.after construct)

/-- The review of a class comment finds a misplaced closer and nothing else, or it goes on. -/
theorem findsUntil_classLike :
    (∃ construct, (Review.classLike site block).FindsUntil site (ClassFinding block)
        ⟨block.opener, .missingShortDescription construct, none⟩) ∨
      ∃ diagnostic, (Review.classLike site block).diagnostics = [diagnostic] ∧
        (Finding.mk block.opener .closeTagOwnLine none).WordedAs site diagnostic := by
  rw [classLike]
  cases site.source.get site.anchor with
  | error fault => exact Or.inl ⟨"", (findsOnly_of_silent rfl).findsUntil⟩
  | ok token =>
    rw [ofExcept_ok_bind]
    apply Or.imp_left fun huntil => ⟨Text.toSmall token.content, huntil⟩
    apply Rule.isGate_closerAlone.findsUntil_or_ends rfl
    exact Rule.isGate_shortDescription.findsUntil_bind rfl findsOnly_classBody

theorem findsOnly_functionTags :
    (functionTags site block).FindsOnly site (TagFinding block) := by
  apply (Rule.findsOnly_see fun _ => .see).bind
  intro _ _
  apply (Rule.findsOnly_blankLineBeforeTags fun _ => .beforeTags).bind
  intro _ _
  apply (Rule.findsOnly_blankLineBeforeParams fun _ => .beforeParams).bind
  intro _ _
  apply (findsOnly_ofExcept _).bind
  intro name? _
  apply (Rule.findsOnly_returns fun _ => .returns).bind
  intro _ _
  apply (Rule.findsOnly_throws fun _ htag _ => .throws htag).bind
  intro _ _
  exact Rule.findsOnly_params fun _ => .params

/-- The review of a function comment, with the rules about its tags left open: they apply unless
the comment is inherited. -/
theorem findsUntil_function {allowed : Finding → Prop}
    (hheading : ∀ finding, HeadingFinding block finding → allowed finding)
    (htags : block.inheritsDoc = false → (functionTags site block).FindsOnly site allowed) :
    (Review.function site block).FindsUntil site allowed
      ⟨block.opener, .missingShortDescription "function", none⟩ := by
  apply (Rule.findsOnly_noBlankAfterComment (hheading _ .after)).bind_findsUntil
  intro _
  apply Rule.isGate_shortDescription.findsUntil_bind rfl
  rw [if_pos rfl, functionBody_eq]
  apply (Rule.findsOnly_firstLine (hheading _ .firstLine)).bind
  intro _ _
  apply (Rule.findsOnly_shortCapital fun _ hshort => hheading _ (.shortCapital hshort)).bind
  intro _ _
  have hstop : (functionFullStop site block).FindsOnly site allowed := by
    rw [functionFullStop]
    split
    · exact Rule.findsOnly_shortFullStop (hheading _ .shortStop)
    · exact findsOnly_done ()
  apply hstop.bind
  intro _ _
  cases hinherits : block.inheritsDoc with
  | true => exact findsOnly_done ()
  | false => exact htags hinherits

/-- The tags of an inherited comment are not looked at. -/
theorem findsUntil_function_of_inherits (hinherits : block.inheritsDoc = true) :
    (Review.function site block).FindsUntil site (HeadingFinding block)
      ⟨block.opener, .missingShortDescription "function", none⟩ := by
  apply findsUntil_function fun _ hheading => hheading
  intro hown
  rw [hinherits] at hown
  cases hown

end Review

/-- What the review of a comment may find, apart from what ends it. -/
def Subject.Finds (subject : Subject) (site : Site) (block : Block) (finding : Finding) : Prop :=
  match subject with
  | .file => Review.FileFinding site block finding
  | .classLike => Review.ClassFinding block finding
  | .function => Review.HeadingFinding block finding ∨ Review.TagFinding block finding

/-- **What a review finds.** It may end with a missing description; the review of a class comment
may find a misplaced closer, and then nothing else. -/
theorem Subject.findsUntil_review (subject : Subject) (site : Site) (block : Block) :
    (∃ construct, (subject.review site .builtIn block).FindsUntil site (subject.Finds site block)
        ⟨block.opener, .missingShortDescription construct, none⟩) ∨
      ∃ diagnostic, (subject.review site .builtIn block).diagnostics = [diagnostic] ∧
        (Finding.mk block.opener .closeTagOwnLine none).WordedAs site diagnostic := by
  cases subject with
  | file => exact Or.inl ⟨"file", Review.findsUntil_file⟩
  | classLike => exact Review.findsUntil_classLike
  | function =>
    refine Or.inl ⟨"function", Review.findsUntil_function (fun _ => Or.inl) fun _ => ?_⟩
    exact Review.findsOnly_functionTags.mono fun _ => Or.inr

/-! ## Inspections -/

namespace DocChecker

variable {checker : DocChecker Check} {source : Source} {position : Int}

/-- What an inspection may report, in order. -/
inductive Course (source : Source) (position : Int) (subject : Subject) (site : Site) :
    List Diagnostic → Prop
  /-- Nothing is found. -/
  | silent : Course source position subject site []
  /-- There is no doc comment to review. -/
  | complaint {diagnostic : Diagnostic} {violation : Violation} (construct : String)
      (hviolation : violation = .wrongCommentStyle construct ∨
        violation = .missingDocComment construct)
      (hworded : (Finding.mk (missingPosition subject source position) violation none).WordedAs
        site diagnostic) :
    Course source position subject site [diagnostic]
  /-- The closer of the comment is misplaced. -/
  | misplaced {block : Block} (hdocuments : block.Documents source position subject)
      {diagnostic : Diagnostic}
      (hworded : (Finding.mk block.opener .closeTagOwnLine none).WordedAs site diagnostic) :
    Course source position subject site [diagnostic]
  /-- The comment is reviewed, to the end or up to a missing description. -/
  | reviewed {block : Block} (hdocuments : block.Documents source position subject)
      {front back : List Diagnostic}
      (hfront : ∀ diagnostic ∈ front, ∃ finding, subject.Finds site block finding ∧
        finding.WordedAs site diagnostic)
      (hback : back = [] ∨ ∃ construct diagnostic, back = [diagnostic] ∧
        (Finding.mk block.opener (.missingShortDescription construct) none).WordedAs
          site diagnostic) :
    Course source position subject site (front ++ back)

/-- Where a doc comment is found but cannot be read, nothing is reported. -/
theorem documents_or_silent (checker : DocChecker Check) {subject : Subject} {token : Token}
    (hat : source.token? position = some token)
    (hsubject : Subject.ofKind? token.kind = some subject) {opener closer : Int}
    (hlocate : source.locate position = .ok (some (.doc subject opener closer))) :
    (∃ block, Block.Documents source position subject block) ∨
      (checker.inspect source position).diagnostics = [] := by
  cases hread : Block.read source opener with
  | ok block =>
    obtain ⟨rfl, hreads⟩ := Block.read_eq_ok_iff.mp hread
    exact Or.inl ⟨block, ⟨token, hat, hsubject⟩, ⟨closer, hlocate⟩, hreads⟩
  | error fault =>
    right
    rw [inspect_of_located hat hsubject hlocate, hread]
    rfl

theorem course_of_lacks {subject : Subject} {token : Token}
    (hat : source.token? position = some token)
    (hsubject : Subject.ofKind? token.kind = some subject)
    (hlacks : Lacks source position subject) :
    Course source position subject (checker.site source position subject)
      (checker.inspect source position).diagnostics := by
  rw [inspect_of_lacks hat hsubject hlacks]
  cases source.locate position with
  | error fault => exact .silent
  | ok placement? =>
    rw [ofExcept_ok_bind]
    cases placement? with
    | none => exact .silent
    | some placement =>
      rcases Site.blame_eq_fail_or_found (checker.site source position subject)
        (missingPosition subject source position)
        (if placement.owner = .ordinary then .wrongCommentStyle (construct subject token)
          else .missingDocComment (construct subject token)) none with
        ⟨fault, hblame⟩ | ⟨diagnostic, hblame, hworded⟩
      · simp only [complaint?, Option.map_some, hblame]
        exact .silent
      · simp only [complaint?, Option.map_some, hblame]
        refine .complaint (construct subject token) ?_ hworded
        split
        · exact Or.inl rfl
        · exact Or.inr rfl

theorem course_of_documents (hprocessors : checker.processors = .builtIn) {subject : Subject}
    {block : Block} (hdocuments : block.Documents source position subject) :
    Course source position subject (checker.site source position subject)
      (checker.inspect source position).diagnostics := by
  rw [inspect_eq_review hdocuments, hprocessors]
  rcases subject.findsUntil_review (checker.site source position subject) block with
    ⟨construct, front, back, hsplit, hfront, hback⟩ | ⟨diagnostic, hends, hworded⟩
  · rw [hsplit]
    refine .reviewed hdocuments hfront (hback.imp_right ?_)
    rintro ⟨diagnostic, rfl, hworded⟩
    exact ⟨construct, diagnostic, rfl, hworded⟩
  · rw [hends]
    exact .misplaced hdocuments hworded

/-- **What an inspection reports.** -/
theorem course_inspect (hprocessors : checker.processors = .builtIn) {subject : Subject}
    {token : Token} (hat : source.token? position = some token)
    (hsubject : Subject.ofKind? token.kind = some subject) :
    Course source position subject (checker.site source position subject)
      (checker.inspect source position).diagnostics := by
  rcases located_or_lacks source position subject with ⟨opener, closer, hlocate⟩ | hlacks
  · rcases documents_or_silent checker hat hsubject hlocate with ⟨block, hdocuments⟩ | hsilent
    · exact course_of_documents hprocessors hdocuments
    · rw [hsilent]
      exact .silent
  · exact course_of_lacks hat hsubject hlacks

/-- Whatever an inspection reports words one finding: about the comment as a whole, which carries no
edit, or of the review. -/
theorem Course.exists_finding {subject : Subject} {site : Site} {diagnostics : List Diagnostic}
    (hcourse : Course source position subject site diagnostics) {diagnostic : Diagnostic}
    (hdiagnostic : diagnostic ∈ diagnostics) :
    ∃ finding, finding.WordedAs site diagnostic ∧
      (finding.edit? = none ∧ finding.position = missingPosition subject source position ∨
        ∃ block, Block.Documents source position subject block ∧
          (finding.edit? = none ∧ finding.position = block.opener ∨
            subject.Finds site block finding)) := by
  cases hcourse with
  | silent => cases hdiagnostic
  | complaint _ _ hworded =>
    obtain rfl := List.mem_singleton.mp hdiagnostic
    exact ⟨_, hworded, Or.inl ⟨rfl, rfl⟩⟩
  | misplaced hdocuments hworded =>
    obtain rfl := List.mem_singleton.mp hdiagnostic
    exact ⟨_, hworded, Or.inr ⟨_, hdocuments, Or.inl ⟨rfl, rfl⟩⟩⟩
  | reviewed hdocuments hfront hback =>
    rcases List.mem_append.mp hdiagnostic with hearlier | hlast
    · obtain ⟨finding, hfinds, hworded⟩ := hfront diagnostic hearlier
      exact ⟨finding, hworded, Or.inr ⟨_, hdocuments, Or.inr hfinds⟩⟩
    · rcases hback with rfl | ⟨construct, last, rfl, hworded⟩
      · cases hlast
      · obtain rfl := List.mem_singleton.mp hlast
        exact ⟨_, hworded, Or.inr ⟨_, hdocuments, Or.inl ⟨rfl, rfl⟩⟩⟩

/-- Only declarations are inspected. -/
theorem exists_subject_or_silent (checker : DocChecker Check) (source : Source) (position : Int) :
    (∃ token subject, source.token? position = some token ∧
        Subject.ofKind? token.kind = some subject) ∨
      (checker.inspect source position).diagnostics = [] := by
  rw [inspect]
  cases hget : source.get position with
  | error fault => exact Or.inr rfl
  | ok token =>
    cases hsubject : Subject.ofKind? token.kind with
    | some subject => exact Or.inl ⟨token, subject, Source.get_eq_ok_iff.mp hget, hsubject⟩
    | none =>
      right
      rw [ofExcept_ok_bind, hsubject]
      rfl

end DocChecker

end DocLint

import DocLint.Proofs.ReviewFindings

/-!
# Which findings exclude each other

An inspection stops where further findings would make no sense, and its codes show where. A missing
or ordinary comment and a misplaced closer are reported alone. A missing description is reported
last. An inherited comment is judged by its place and its description only. Of the two things that
can be wrong with return tags one is reported at most, and each throws tag has one verdict.

The first two facts are read off `DocChecker.Course`. The last one needs more than a list of what
may be found: the findings about throws tags are sorted by tag, and all other rules leave that
sorting alone.
-/

namespace DocLint

open Check

/-! ## Codes -/

namespace Violation

/-- Whether nothing is reported after the violation. -/
def endsInspection : Violation → Bool
  | wrongCommentStyle _ | missingDocComment _ | missingShortDescription _ | closeTagOwnLine => true
  | _ => false

/-- Whether the violation is about a throws tag. -/
def isAboutThrows : Violation → Bool
  | invalidThrows | emptyThrows | throwsNotCapital | throwsMissingFullStop => true
  | _ => false

/-- Whether the violation is about return tags. -/
def isAboutReturns : Violation → Bool
  | duplicateReturn | missingReturnType => true
  | _ => false

/-- The codes of the violations that end an inspection. -/
def endingCodes : List String :=
  ["WrongCommentStyle", "MissingDocComment", "MissingShortDescription", "CloseTagOwnLine"]

/-- The codes of the violations about throws tags. -/
def throwsCodes : List String :=
  ["InvalidThrows", "EmptyThrows", "ThrowsNotCapital", "ThrowsMissingFullStop"]

/-- The codes of the violations about return tags. -/
def returnsCodes : List String :=
  ["DuplicateReturn", "MissingReturnType"]

/-- The codes that are made from the name of a tag have endings of their own. -/
theorem append_not_mem {text ending : String} {codes : List String}
    (hcodes : ∀ code ∈ codes, ¬ ending.toList <:+ code.toList) : text ++ ending ∉ codes := by
  intro hmem
  apply hcodes _ hmem
  rw [String.toList_append]
  exact List.suffix_append _ _

theorem code_mem_endingCodes_iff (violation : Violation) :
    violation.code ∈ endingCodes ↔ violation.endsInspection = true := by
  cases violation with
  | duplicateTag | emptyTag | missingTag | tagOrder =>
    exact iff_of_false (append_not_mem (by decide)) nofun
  | _ => simp [code, endingCodes, endsInspection]

theorem code_mem_throwsCodes_iff (violation : Violation) :
    violation.code ∈ throwsCodes ↔ violation.isAboutThrows = true := by
  cases violation with
  | duplicateTag | emptyTag | missingTag | tagOrder =>
    exact iff_of_false (append_not_mem (by decide)) nofun
  | _ => simp [code, throwsCodes, isAboutThrows]

theorem code_mem_returnsCodes_iff (violation : Violation) :
    violation.code ∈ returnsCodes ↔ violation.isAboutReturns = true := by
  cases violation with
  | duplicateTag | emptyTag | missingTag | tagOrder =>
    exact iff_of_false (append_not_mem (by decide)) nofun
  | _ => simp [code, returnsCodes, isAboutReturns]

end Violation

/-- The codes that a check reports, in order. -/
def Check.codes {α : Type} (check : Check α) : List String :=
  check.diagnostics.map Diagnostic.code

/-- A condition adds one code at most. -/
theorem Site.codes_expect {site : Site} {condition : Bool} {position : Int}
    {violation : Violation} :
    List.Sublist (site.expect condition position violation).codes [violation.code] := by
  rw [expect]
  split
  · exact List.nil_sublist _
  · rcases site.blame_eq_fail_or_found position violation none with
      ⟨fault, hfails⟩ | ⟨diagnostic, hfound, hworded⟩
    · rw [hfails]
      exact List.nil_sublist _
    · rw [hfound, ← hworded.code_eq]
      exact List.Sublist.refl _

/-- The codes of a sequence are among those of its parts. -/
theorem Check.codes_bind_sublist {α β : Type} {check : Check α} {next : α → Check β}
    {first later : List String} (hcheck : List.Sublist check.codes first)
    (hnext : ∀ value, List.Sublist (next value).codes later) :
    List.Sublist (check >>= next).codes (first ++ later) := by
  rcases check with ⟨diagnostics, fault | value⟩
  · exact hcheck.trans (List.sublist_append_left first later)
  · rw [codes, bind_ok, List.map_append]
    exact hcheck.append (hnext value)

/-- Whether the diagnostic is about a throws tag. -/
def Diagnostic.isAboutThrows (diagnostic : Diagnostic) : Bool :=
  Violation.throwsCodes.contains diagnostic.code

theorem Finding.WordedAs.isAboutThrows_eq {site : Site} {finding : Finding}
    {diagnostic : Diagnostic} (hworded : finding.WordedAs site diagnostic) :
    diagnostic.isAboutThrows = finding.violation.isAboutThrows := by
  rw [Bool.eq_iff_iff, Diagnostic.isAboutThrows, List.contains_iff_mem, hworded.code_eq]
  exact Violation.code_mem_throwsCodes_iff finding.violation

/-- The finding is about something else than a throws tag. -/
def Finding.IgnoresThrows (finding : Finding) : Prop :=
  finding.violation.isAboutThrows = false

/-! ## What the lists of findings leave out -/

section Lists

variable {site : Site} {block : Block} {subject : Subject} {finding : Finding}

/-- **What a review finds on its way.** It ends no inspection. If it is about return tags then the
rule for them has found it, and if it is about throws tags then a function is documented. -/
theorem Subject.Finds.sort (hfinds : subject.Finds site block finding) :
    finding.violation.endsInspection = false ∧
      (finding.violation.isAboutReturns = true → Rule.ReturnFinding block finding) ∧
      (finding.violation.isAboutThrows = true → subject = .function) := by
  cases subject with
  | file =>
    rcases hfinds with _ | _ | htable
    · exact ⟨rfl, nofun, nofun⟩
    · exact ⟨rfl, nofun, nofun⟩
    · cases htable <;> exact ⟨rfl, nofun, nofun⟩
  | classLike => cases hfinds <;> exact ⟨rfl, nofun, nofun⟩
  | function =>
    rcases hfinds with hheading | htag
    · cases hheading <;> exact ⟨rfl, nofun, fun _ => rfl⟩
    · rcases htag with _ | _ | _ | hreturn | ⟨_, hthrows⟩ | hparam
      · exact ⟨rfl, nofun, fun _ => rfl⟩
      · exact ⟨rfl, nofun, fun _ => rfl⟩
      · exact ⟨rfl, nofun, fun _ => rfl⟩
      · cases hreturn with
        | untyped hone => exact ⟨rfl, fun _ => .untyped hone, fun _ => rfl⟩
        | second hmany => exact ⟨rfl, fun _ => .second hmany, fun _ => rfl⟩
      · cases hthrows <;> exact ⟨rfl, nofun, fun _ => rfl⟩
      · cases hparam <;> exact ⟨rfl, nofun, fun _ => rfl⟩

end Lists

/-! ## Verdicts on throws tags -/

/-- What may be reported about one throws tag: that it names no exception, that it has no comment,
or what is wrong with its comment. -/
inductive Tag.ThrowsVerdict (tag : Tag) : List Diagnostic → Prop
  /-- The tag names no exception. -/
  | invalid {diagnostic : Diagnostic} (hcode : diagnostic.code = "InvalidThrows")
      (hposition : diagnostic.position = tag.position) : ThrowsVerdict tag [diagnostic]
  /-- The tag has no comment. -/
  | empty {diagnostic : Diagnostic} (hcode : diagnostic.code = "EmptyThrows")
      (hposition : diagnostic.position = tag.position) : ThrowsVerdict tag [diagnostic]
  /-- The comment begins or ends wrongly, or nothing is reported. -/
  | comment {diagnostics : List Diagnostic}
      (hcodes : List.Sublist (diagnostics.map Diagnostic.code)
        ["ThrowsNotCapital", "ThrowsMissingFullStop"])
      (hposition : ∀ diagnostic ∈ diagnostics, ∃ inline, tag.inline? = some inline ∧
        diagnostic.position = inline.position) :
    ThrowsVerdict tag diagnostics

theorem Tag.throwsVerdict_nil (tag : Tag) : tag.ThrowsVerdict [] :=
  .comment (List.nil_sublist _) nofun

namespace Check

variable {α β : Type} {site : Site} {tags : List Tag}

/-- What the check reports about throws tags are verdicts on the given tags, in order. -/
def JudgesThrows (tags : List Tag) (check : Check α) : Prop :=
  ∃ verdicts, List.Forall₂ Tag.ThrowsVerdict tags verdicts ∧
    check.diagnostics.filter Diagnostic.isAboutThrows = verdicts.flatten

theorem filter_eq_nil_of_findsOnly {check : Check α}
    (hcheck : check.FindsOnly site Finding.IgnoresThrows) :
    check.diagnostics.filter Diagnostic.isAboutThrows = [] := by
  apply List.filter_eq_nil_iff.mpr
  intro diagnostic hdiagnostic
  obtain ⟨finding, hfinding, hworded⟩ := hcheck diagnostic hdiagnostic
  rw [hworded.isAboutThrows_eq, hfinding]
  decide

/-- A check that says nothing about throws tags passes an empty verdict on each of them. -/
theorem judgesThrows_of_filter_eq_nil {check : Check α}
    (hnil : check.diagnostics.filter Diagnostic.isAboutThrows = []) :
    check.JudgesThrows tags := by
  refine ⟨tags.map fun _ => [], ?_, ?_⟩
  · rw [List.forall₂_map_right_iff]
    exact List.forall₂_same.mpr fun tag _ => tag.throwsVerdict_nil
  · rw [hnil]
    simp

theorem judgesThrows_done (value : α) : (done value).JudgesThrows tags :=
  judgesThrows_of_filter_eq_nil rfl

theorem judgesThrows_bind {check : Check α} {next : α → Check β}
    (hcheck : check.FindsOnly site Finding.IgnoresThrows)
    (hnext : ∀ value, (next value).JudgesThrows tags) :
    (check >>= next).JudgesThrows tags := by
  have hnil := filter_eq_nil_of_findsOnly hcheck
  rcases check with ⟨diagnostics, fault | value⟩
  · exact judgesThrows_of_filter_eq_nil hnil
  · obtain ⟨verdicts, hverdicts, hfilter⟩ := hnext value
    refine ⟨verdicts, hverdicts, ?_⟩
    rw [bind_ok, List.filter_append, hnil, hfilter, List.nil_append]

theorem JudgesThrows.bind {check : Check α} {next : α → Check β}
    (hcheck : check.JudgesThrows tags)
    (hnext : ∀ value, (next value).FindsOnly site Finding.IgnoresThrows) :
    (check >>= next).JudgesThrows tags := by
  obtain ⟨verdicts, hverdicts, hfilter⟩ := hcheck
  refine ⟨verdicts, hverdicts, ?_⟩
  rcases check with ⟨diagnostics, fault | value⟩
  · exact hfilter
  · rw [bind_ok, List.filter_append, filter_eq_nil_of_findsOnly (hnext value), hfilter,
      List.append_nil]

/-- A loop that passes a verdict on each tag judges all of them. -/
theorem judgesThrows_forM {body : Tag → Check Unit}
    (hbody : ∀ tag ∈ tags,
      tag.ThrowsVerdict ((body tag).diagnostics.filter Diagnostic.isAboutThrows)) :
    (tags.forM body).JudgesThrows tags := by
  induction tags with
  | nil => exact ⟨[], .nil, rfl⟩
  | cons tag tags ih =>
    have hunfold : (tag :: tags).forM body = body tag >>= fun _ => tags.forM body := rfl
    have hfirst := hbody tag List.mem_cons_self
    rw [hunfold]
    generalize body tag = check at hfirst ⊢
    rcases check with ⟨diagnostics, fault | _⟩
    · -- the loop breaks off here, so nothing is said about the tags that are left
      refine ⟨_ :: tags.map fun _ => [], .cons hfirst ?_, ?_⟩
      · rw [List.forall₂_map_right_iff]
        exact List.forall₂_same.mpr fun other _ => other.throwsVerdict_nil
      · simp
    · obtain ⟨verdicts, hverdicts, hfilter⟩ :=
        ih fun other hother => hbody other (List.mem_cons_of_mem tag hother)
      refine ⟨_ :: verdicts, .cons hfirst hverdicts, ?_⟩
      rw [bind_ok, List.filter_append, hfilter, List.flatten_cons]

end Check

namespace Rule

variable {site : Site} {block : Block}

/-- One verdict is passed on each throws tag. -/
theorem throwsVerdict_throwsTag {policy : Capitalization} (tag : Tag) :
    tag.ThrowsVerdict (throwsTag site policy tag).diagnostics := by
  have hblame : ∀ violation, (∀ diagnostic : Diagnostic,
      (Finding.mk tag.position violation none).WordedAs site diagnostic →
        tag.ThrowsVerdict [diagnostic]) →
      tag.ThrowsVerdict (site.blame tag.position violation none).diagnostics := by
    intro violation hverdict
    rcases site.blame_eq_fail_or_found tag.position violation none with
      ⟨fault, hfails⟩ | ⟨diagnostic, hfound, hworded⟩
    · rw [hfails]
      exact tag.throwsVerdict_nil
    · rw [hfound]
      exact hverdict diagnostic hworded
  rw [throwsTag.eq_def]
  split
  · rename_i inline text hinline _
    split
    · exact hblame _ fun _ hworded => .empty hworded.code_eq hworded.position_eq
    · rename_i comment _
      apply Tag.ThrowsVerdict.comment
      · exact codes_bind_sublist Site.codes_expect fun _ => Site.codes_expect
      · have hplace : (throwsComment site policy tag inline comment).FindsOnly site
            fun finding => finding.position = inline.position :=
          FindsOnly.bind (Site.findsOnly_expect rfl) fun _ _ => Site.findsOnly_expect rfl
        intro diagnostic hdiagnostic
        obtain ⟨finding, hposition, hworded⟩ := hplace diagnostic hdiagnostic
        exact ⟨inline, hinline, hworded.position_eq.trans hposition⟩
  · exact hblame _ fun _ hworded => .invalid hworded.code_eq hworded.position_eq

theorem judgesThrows_throws {policy : Capitalization} :
    (throws site block policy).JudgesThrows (block.tagsNamed "@throws") := by
  apply judgesThrows_forM
  intro tag _
  have hall : (throwsTag site policy tag).diagnostics.filter Diagnostic.isAboutThrows =
      (throwsTag site policy tag).diagnostics := by
    have honly : (throwsTag site policy tag).FindsOnly site
        fun finding => finding.violation.isAboutThrows = true := by
      apply findsOnly_throwsTag
      intro finding hfinding
      cases hfinding <;> rfl
    apply List.filter_eq_self.mpr
    intro diagnostic hdiagnostic
    obtain ⟨finding, habout, hworded⟩ := honly diagnostic hdiagnostic
    rw [hworded.isAboutThrows_eq, habout]
  rw [hall]
  exact throwsVerdict_throwsTag tag

end Rule

/-- **The review of a function comment passes one verdict on each throws tag**, and all else that it
finds is about other things. -/
theorem Review.judgesThrows_function {site : Site} {block : Block} :
    (Review.function site block).JudgesThrows (block.tagsNamed "@throws") := by
  have hparams : (Rule.params site block).FindsOnly site Finding.IgnoresThrows := by
    apply Rule.findsOnly_params
    intro finding hfinding
    cases hfinding <;> rfl
  have hreturns : ∀ name?,
      (Rule.returns site block name?).FindsOnly site Finding.IgnoresThrows := by
    intro name?
    apply Rule.findsOnly_returns
    intro finding hfinding
    cases hfinding <;> rfl
  have hname : (ofExcept (site.signatures.name? site.source site.anchor)).FindsOnly site
      Finding.IgnoresThrows := findsOnly_ofExcept _
  have hstop : (functionFullStop site block).FindsOnly site Finding.IgnoresThrows := by
    rw [functionFullStop]
    split
    · exact Rule.findsOnly_shortFullStop rfl
    · exact findsOnly_done ()
  have htags : (functionTags site block).JudgesThrows (block.tagsNamed "@throws") := by
    apply judgesThrows_bind (Rule.findsOnly_see fun _ _ => rfl)
    intro _
    apply judgesThrows_bind (Rule.findsOnly_blankLineBeforeTags fun _ _ => rfl)
    intro _
    apply judgesThrows_bind (Rule.findsOnly_blankLineBeforeParams fun _ _ => rfl)
    intro _
    apply judgesThrows_bind hname
    intro name?
    apply judgesThrows_bind (hreturns name?)
    intro _
    exact Rule.judgesThrows_throws.bind fun _ => hparams
  have hbody : (functionBody site block).JudgesThrows (block.tagsNamed "@throws") := by
    rw [functionBody_eq]
    apply judgesThrows_bind (Rule.findsOnly_firstLine rfl)
    intro _
    apply judgesThrows_bind (Rule.findsOnly_shortCapital fun _ _ => rfl)
    intro _
    apply judgesThrows_bind hstop
    intro _
    split
    · exact judgesThrows_done ()
    · exact htags
  apply judgesThrows_bind (Rule.findsOnly_noBlankAfterComment rfl)
  intro _
  apply judgesThrows_bind (Rule.isGate_shortDescription.findsOnly rfl)
  intro described
  cases described with
  | true => exact hbody
  | false => exact judgesThrows_done ()

/-- The other reviews say nothing about throws tags. -/
theorem Subject.findsOnly_review_ignoresThrows {subject : Subject} {site : Site} {block : Block}
    (hsubject : subject ≠ .function) :
    (subject.review site .builtIn block).FindsOnly site Finding.IgnoresThrows := by
  rcases subject.findsUntil_review site block with
    ⟨construct, huntil⟩ | ⟨diagnostic, hends, hworded⟩
  · apply huntil.findsOnly
    · intro finding hfinds
      exact Bool.eq_false_iff.mpr fun habout => hsubject (hfinds.sort.2.2 habout)
    · rfl
  · intro other hother
    rw [hends] at hother
    obtain rfl := List.mem_singleton.mp hother
    exact ⟨⟨block.opener, .closeTagOwnLine, none⟩, rfl, hworded⟩

/-! ## Inspections -/

namespace DocChecker

variable {source : Source} {position : Int} {subject : Subject} {site : Site}
variable {diagnostics : List Diagnostic}

/-- A finding on the way of a review ends no inspection, and its code says so. -/
theorem code_not_mem_endingCodes {block : Block} {finding : Finding} {diagnostic : Diagnostic}
    (hfinds : subject.Finds site block finding) (hworded : finding.WordedAs site diagnostic) :
    diagnostic.code ∉ Violation.endingCodes := by
  rw [hworded.code_eq, Violation.code_mem_endingCodes_iff, hfinds.sort.1]
  decide

namespace Course

variable (hcourse : Course source position subject site diagnostics)

include hcourse

/-- **Missing or ordinary comments and misplaced closers are reported alone**, without an edit. -/
theorem alone {code : String}
    (hcode : code ∈ ["MissingDocComment", "WrongCommentStyle", "CloseTagOwnLine"])
    (hmem : code ∈ diagnostics.map Diagnostic.code) :
    diagnostics.map Diagnostic.code = [code] ∧ diagnostics.filterMap Diagnostic.edit? = [] := by
  have hsingle : ∀ (finding : Finding) (diagnostic : Diagnostic), finding.edit? = none →
      finding.WordedAs site diagnostic → diagnostics = [diagnostic] →
      diagnostics.map Diagnostic.code = [code] ∧ diagnostics.filterMap Diagnostic.edit? = [] := by
    intro finding diagnostic hedit hworded hdiagnostics
    rw [hdiagnostics] at hmem ⊢
    refine ⟨by rw [List.mem_singleton.mp hmem]; rfl, ?_⟩
    simp [hworded.edit?_eq, hedit]
  cases hcourse with
  | silent => cases hmem
  | complaint _ _ hworded => exact hsingle _ _ rfl hworded rfl
  | misplaced _ hworded => exact hsingle _ _ rfl hworded rfl
  | reviewed _ hfront hback =>
    exfalso
    obtain ⟨diagnostic, hdiagnostic, rfl⟩ := List.mem_map.mp hmem
    rcases List.mem_append.mp hdiagnostic with hearlier | hlast
    · obtain ⟨finding, hfinds, hworded⟩ := hfront diagnostic hearlier
      apply code_not_mem_endingCodes hfinds hworded
      exact (show _ ⊆ Violation.endingCodes by decide) hcode
    · rcases hback with rfl | ⟨construct, last, rfl, hworded⟩
      · cases hlast
      · obtain rfl := List.mem_singleton.mp hlast
        rw [hworded.code_eq] at hcode
        revert hcode
        simp [Violation.code]

/-- **A missing description is reported last.** -/
theorem last {front back : List String}
    (hcodes : diagnostics.map Diagnostic.code = front ++ "MissingShortDescription" :: back) :
    back = [] := by
  have hshort : diagnostics.length ≤ 1 → back = [] := by
    intro hlength
    have hlengths := congrArg List.length hcodes
    rw [List.length_map, List.length_append, List.length_cons] at hlengths
    exact List.eq_nil_of_length_eq_zero (by omega)
  cases hcourse with
  | silent => exact hshort (by decide)
  | complaint _ _ _ => exact hshort (by simp)
  | misplaced _ _ => exact hshort (by simp)
  | @reviewed _ _ earlier last hfront hback =>
    have hearlier : "MissingShortDescription" ∉ earlier.map Diagnostic.code := by
      intro hmem
      obtain ⟨diagnostic, hdiagnostic, hcode⟩ := List.mem_map.mp hmem
      obtain ⟨finding, hfinds, hworded⟩ := hfront diagnostic hdiagnostic
      apply code_not_mem_endingCodes hfinds hworded
      rw [hcode]
      decide
    rw [List.map_append] at hcodes
    rcases hback with rfl | ⟨construct, diagnostic, rfl, -⟩
    · rw [List.map_nil, List.append_nil] at hcodes
      rw [hcodes] at hearlier
      exact absurd (List.mem_append_right _ List.mem_cons_self) hearlier
    · rcases List.eq_nil_or_concat back with hnil | ⟨between, code, rfl⟩
      · exact hnil
      · -- the missing description would come before the last code
        rw [List.map_singleton, List.concat_eq_append, ← List.cons_append,
          ← List.append_assoc] at hcodes
        rw [(List.append_inj' hcodes rfl).1] at hearlier
        exact absurd (List.mem_append_right _ List.mem_cons_self) hearlier

/-- **One thing at most is wrong with return tags.** -/
theorem not_both_returns :
    ¬ ("DuplicateReturn" ∈ diagnostics.map Diagnostic.code ∧
      "MissingReturnType" ∈ diagnostics.map Diagnostic.code) := by
  have hsingle : ∀ diagnostic : Diagnostic, ¬ ("DuplicateReturn" ∈ [diagnostic.code] ∧
      "MissingReturnType" ∈ [diagnostic.code]) := by
    rintro diagnostic ⟨hduplicate, huntyped⟩
    rw [List.mem_singleton] at hduplicate huntyped
    exact absurd (hduplicate.trans huntyped.symm) (by decide)
  cases hcourse with
  | silent => rintro ⟨hduplicate, -⟩; cases hduplicate
  | complaint _ _ _ => exact hsingle _
  | misplaced _ _ => exact hsingle _
  | @reviewed block _ front back hfront hback =>
    have hreturns : ∀ code ∈ Violation.returnsCodes,
        code ∈ (front ++ back).map Diagnostic.code →
        ∃ finding, Rule.ReturnFinding block finding ∧ finding.violation.code = code := by
      intro code hcode hmem
      obtain ⟨diagnostic, hdiagnostic, rfl⟩ := List.mem_map.mp hmem
      rcases List.mem_append.mp hdiagnostic with hearlier | hlast
      · obtain ⟨finding, hfinds, hworded⟩ := hfront diagnostic hearlier
        rw [hworded.code_eq] at hcode ⊢
        exact ⟨finding, hfinds.sort.2.1 ((Violation.code_mem_returnsCodes_iff _).mp hcode), rfl⟩
      · exfalso
        rcases hback with rfl | ⟨construct, last, rfl, hworded⟩
        · cases hlast
        · obtain rfl := List.mem_singleton.mp hlast
          rw [hworded.code_eq, Violation.code_mem_returnsCodes_iff] at hcode
          cases hcode
    rintro ⟨hduplicate, huntyped⟩
    obtain ⟨duplicate, hduplicate, hcode⟩ := hreturns _ (by decide) hduplicate
    obtain ⟨untyped, huntyped, hcode'⟩ := hreturns _ (by decide) huntyped
    -- the number of return tags decides which of the two is found
    cases hduplicate with
    | untyped => simp [Violation.code] at hcode
    | second hmany =>
      cases huntyped with
      | second => simp [Violation.code] at hcode'
      | untyped hone =>
        rw [hmany] at hone
        cases hone

end Course

variable {checker : DocChecker Check}

/-- The codes of what may be wrong with the heading of a function comment. -/
def headingCodes : List String :=
  ["SpacingAfter", "SpacingBeforeShort", "ShortNotCapital", "MissingShortFullStop",
    "MissingShortDescription"]

/-- **An inherited comment is judged by its place and its description only.** -/
theorem codes_of_inherited {block : Block} (hdocuments : block.Documents source position .function)
    (hinherits : block.inheritsDoc = true) :
    (∀ code ∈ (checker.inspect source position).codes, code ∈ headingCodes) ∧
      (checker.inspect source position).edits = [] := by
  have honly : (checker.inspect source position).FindsOnly (checker.site source position .function)
      fun finding => finding.violation.code ∈ headingCodes ∧ finding.edit? = none := by
    rw [inspect_eq_review hdocuments]
    apply (Review.findsUntil_function_of_inherits hinherits).findsOnly
    · intro finding hheading
      cases hheading <;> exact ⟨by simp [Violation.code, headingCodes], rfl⟩
    · exact ⟨by simp [Violation.code, headingCodes], rfl⟩
  refine ⟨?_, ?_⟩
  · intro code hcode
    obtain ⟨diagnostic, hdiagnostic, rfl⟩ := List.mem_map.mp hcode
    obtain ⟨finding, ⟨hheading, -⟩, hworded⟩ := honly diagnostic hdiagnostic
    rwa [hworded.code_eq]
  · apply List.filterMap_eq_nil_iff.mpr
    intro diagnostic hdiagnostic
    obtain ⟨finding, ⟨-, hedit⟩, hworded⟩ := honly diagnostic hdiagnostic
    rwa [hworded.edit?_eq]

/-- The throws tags of a comment are judged one by one, in whatever review. -/
theorem judgesThrows_inspect (hprocessors : checker.processors = .builtIn) {block : Block}
    (hdocuments : block.Documents source position subject) :
    (checker.inspect source position).JudgesThrows (block.tagsNamed "@throws") := by
  rw [inspect_eq_review hdocuments, hprocessors]
  cases subject with
  | function => exact Review.judgesThrows_function
  | file =>
    exact judgesThrows_of_filter_eq_nil (filter_eq_nil_of_findsOnly
      (Subject.findsOnly_review_ignoresThrows (by decide)))
  | classLike =>
    exact judgesThrows_of_filter_eq_nil (filter_eq_nil_of_findsOnly
      (Subject.findsOnly_review_ignoresThrows (by decide)))

/-- **Halting discipline.** Whatever the source, the position, the configuration and the signatures:

* a missing or ordinary comment and a misplaced closer are reported alone and without an edit;
* nothing is reported after a missing description;
* for a function whose comment holds the marker of inherited comments, only its place and its short
  description are judged, and no edit is asked for;
* a second return tag and a missing return type are not both reported;
* what is reported about throws tags is one verdict on each of them, in order. -/
theorem halting_discipline (checker : DocChecker Check)
    (hprocessors : checker.processors = .builtIn) (source : Source) (position : Int) :
    (∀ code ∈ ["MissingDocComment", "WrongCommentStyle", "CloseTagOwnLine"],
        code ∈ (checker.inspect source position).codes →
          (checker.inspect source position).codes = [code] ∧
            (checker.inspect source position).edits = []) ∧
      (∀ front back, (checker.inspect source position).codes =
        front ++ "MissingShortDescription" :: back → back = []) ∧
      (∀ block, Block.Documents source position .function block →
        Text.occursIn Block.inheritMarker
          (Text.toSmall (source.text (block.opener + 1) block.closer)).toList = true →
        (∀ code ∈ (checker.inspect source position).codes,
            code ∈ ["SpacingAfter", "SpacingBeforeShort", "ShortNotCapital",
              "MissingShortFullStop", "MissingShortDescription"]) ∧
          (checker.inspect source position).edits = []) ∧
      ¬ ("DuplicateReturn" ∈ (checker.inspect source position).codes ∧
        "MissingReturnType" ∈ (checker.inspect source position).codes) ∧
      ∀ subject block, Block.Documents source position subject block →
        ∃ verdicts, List.Forall₂ Tag.ThrowsVerdict (block.tagsNamed "@throws") verdicts ∧
          (checker.inspect source position).diagnostics.filter Diagnostic.isAboutThrows =
            verdicts.flatten := by
  have hcourse : ∃ subject site, Course source position subject site
      (checker.inspect source position).diagnostics := by
    rcases exists_subject_or_silent checker source position with
      ⟨token, subject, hat, hsubject⟩ | hsilent
    · exact ⟨subject, _, course_inspect hprocessors hat hsubject⟩
    · rw [hsilent]
      exact ⟨.file, checker.site source position .file, .silent⟩
  obtain ⟨subject, site, hcourse⟩ := hcourse
  refine ⟨fun _ => hcourse.alone, fun _ _ => hcourse.last, ?_, hcourse.not_both_returns, ?_⟩
  · intro block hdocuments hmarker
    obtain ⟨token, hreads⟩ := hdocuments.reads
    rw [← hreads.text] at hmarker
    exact codes_of_inherited hdocuments hmarker
  · intro subject block hdocuments
    exact judgesThrows_inspect hprocessors hdocuments

/-- A function whose comment has the given description, a return tag without a type, a throws tag
without a text and one whose comment begins and ends wrongly. -/
def throwingFunction (description : String) : Source :=
  ⟨#[⟨.docOpen, "/**", 1, none, some 6, [2, 3, 4]⟩, ⟨.docString, description, 2, none, none, []⟩,
    ⟨.docTag, "@return", 4, none, none, []⟩, ⟨.docTag, "@throws", 5, none, none, []⟩,
    ⟨.docTag, "@throws", 6, none, none, []⟩,
    ⟨.docString, "Exception if it fails", 6, none, none, []⟩,
    ⟨.docClose, "*/", 7, some 0, none, []⟩, ⟨.function, "function", 8, none, none, []⟩,
    ⟨.openParenthesis, "(", 8, none, some 9, []⟩, ⟨.closeParenthesis, ")", 8, some 8, none, []⟩]⟩

/-- All tags are judged, the throws tags one after the other, unless the comment is inherited. -/
theorem throwingFunction_judged :
    ((ofConfig {}).inspect (throwingFunction "Reads.") 7).codes =
        ["MissingReturnType", "InvalidThrows", "ThrowsNotCapital", "ThrowsMissingFullStop"] ∧
      (∃ block verdicts, Block.Documents (throwingFunction "Reads.") 7 .function block ∧
        List.Forall₂ Tag.ThrowsVerdict (block.tagsNamed "@throws") verdicts ∧
        ((ofConfig {}).inspect (throwingFunction "Reads.") 7).diagnostics.filter
          Diagnostic.isAboutThrows = verdicts.flatten) ∧
      ((ofConfig {}).inspect (throwingFunction "see \x7b@InheritDoc\x7d") 7).codes =
        ["ShortNotCapital"] ∧
      ((ofConfig {}).inspect (throwingFunction "see \x7b@InheritDoc\x7d") 7).edits = [] := by
  have hdocuments : ∀ description, ∃ block,
      Block.Documents (throwingFunction description) 7 .function block ∧ block.opener = 0 ∧
        block.closer = 6 := by
    intro description
    have hread : Block.read (throwingFunction description) 0 = .ok _ := rfl
    exact ⟨_, ⟨⟨_, rfl, rfl⟩, ⟨6, rfl⟩, (Block.read_eq_ok_iff.mp hread).2⟩, rfl, rfl⟩
  obtain ⟨block, hblock, -, -⟩ := hdocuments "Reads."
  obtain ⟨inherited, hinherited, hopener, hcloser⟩ := hdocuments "see \x7b@InheritDoc\x7d"
  obtain ⟨-, -, -, -, hjudged⟩ :=
    halting_discipline (ofConfig {}) rfl (throwingFunction "Reads.") 7
  obtain ⟨-, -, hinherits, -, -⟩ :=
    halting_discipline (ofConfig {}) rfl (throwingFunction "see \x7b@InheritDoc\x7d") 7
  obtain ⟨verdicts, hverdicts, hfilter⟩ := hjudged .function block hblock
  have hmarker : Text.occursIn Block.inheritMarker (Text.toSmall
      ((throwingFunction "see \x7b@InheritDoc\x7d").text (inherited.opener + 1)
        inherited.closer)).toList = true := by
    rw [hopener, hcloser]
    rfl
  exact ⟨rfl, ⟨block, verdicts, hblock, hverdicts, hfilter⟩, rfl,
    (hinherits inherited hinherited hmarker).2⟩

end DocChecker

end DocLint

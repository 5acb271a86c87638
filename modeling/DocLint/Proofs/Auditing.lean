import DocLint.Fixing
import DocLint.Proofs.Filing
import DocLint.Proofs.RuleOutcome

/-!
# Checks and audits

The rules are written once and can be carried out in two ways: for themselves, and on a report
which they could look at, and which could tell them whether an edit was queued. Both ways come to
the same: to carry out a rule on a report is to file what it finds for itself. So no rule depends
on whether edits are wanted, on what became of an edit, or on what has been found before. The proof
goes along the rules, because `Check.perform` keeps sequences of checks.

It stops at the checks of single tags, which may be any audits. What holds of them holds of the
review of a file comment, if it is the sort of property that is kept in sequence. All other reviews
have no use for them.
-/

namespace DocLint

namespace Audit

variable {α β : Type}

theorem ext {first second : Audit α}
    (hrun : ∀ report, Reporting.run first report = Reporting.run second report) :
    first = second :=
  funext hrun

/-- One audit after the other works on the report that the first one leaves. -/
theorem run_bind (audit : Audit α) (next : α → Audit β) (report : Report) :
    Reporting.run (audit >>= next) report =
      match Reporting.run audit report with
      | (.ok value, after) => Reporting.run (next value) after
      | (.error fault, after) => (.error fault, after) := by
  show (match audit report with
    | (result, after) => ExceptT.bindCont next result after) = _
  show _ = match audit report with
    | (.ok value, after) => next value after
    | (.error fault, after) => (.error fault, after)
  rcases audit report with ⟨fault | value, after⟩ <;> rfl

@[simp]
theorem ofExcept_ok_bind (value : α) (next : α → Audit β) :
    Check.ofExcept (.ok value) >>= next = next value := rfl

@[simp]
theorem ofExcept_error_bind (fault : Fault) (next : α → Audit β) :
    Check.ofExcept (.error fault) >>= next = Check.ofExcept (.error fault) := rfl

/-- What an audit does when it gives notice. -/
theorem run_post (source : Source) (notice : Notice) (report : Report) :
    Reporting.run (Reporting.post source notice : Audit Bool) report =
      match notice.diagnostic source with
      | .ok diagnostic => (.ok (report.fixing && diagnostic.isFixable), report.file diagnostic)
      | .error fault => (.error fault, report) := by
  show (Except.map _ (report.post Template.fill source notice).1,
    (report.post Template.fill source notice).2) = _
  rw [Report.post, ← Notice.diagnostic]
  cases notice.diagnostic source <;> rfl

end Audit

/-! ## Filing what a check finds -/

namespace Check

variable {α β : Type}

theorem run_perform (check : Check α) (report : Report) :
    Reporting.run check.perform report = (check.outcome, report.fileAll check.diagnostics) := rfl

@[simp]
theorem perform_done (value : α) : (⟨[], .ok value⟩ : Check α).perform = pure value := rfl

/-- **Filing keeps sequences.** -/
@[simp]
theorem perform_bind (check : Check α) (next : α → Check β) :
    (check >>= next).perform = check.perform >>= fun value => (next value).perform := by
  refine Audit.ext fun report => ?_
  rw [Audit.run_bind]
  rcases check with ⟨diagnostics, fault | value⟩
  · rfl
  · rw [bind_ok, run_perform, run_perform, Report.fileAll_append]
    rfl

@[simp]
theorem perform_ite (condition : Prop) [Decidable condition] (first second : Check α) :
    (if condition then first else second).perform =
      if condition then first.perform else second.perform :=
  apply_ite perform condition first second

@[simp]
theorem perform_ofExcept (result : Except Fault α) :
    (ofExcept result : Check α).perform = ofExcept result := rfl

@[simp]
theorem perform_require (value? : Option α) (fault : Fault) :
    (require value? fault : Check α).perform = require value? fault := by
  cases value? <;> rfl

/-- A rule that gives notice has no use for the answer. -/
@[simp]
theorem perform_post (source : Source) (notice : Notice) :
    (post source notice : Check Unit).perform = post source notice := by
  refine Audit.ext fun report => ?_
  rw [post_eq, post, Audit.run_bind, Audit.run_post]
  cases notice.diagnostic source <;> rfl

@[simp]
theorem perform_forM (items : List α) (body : α → Check Unit) :
    (forM items body).perform = forM items fun item => (body item).perform := by
  induction items with
  | nil => rfl
  | cons item rest ih => rw [List.forM_cons, List.forM_cons, perform_bind, ih]

end Check

namespace Site

variable (site : Site) (position : Int)

@[simp]
theorem perform_line : (site.line position : Check Int).perform = site.line position := rfl

@[simp]
theorem perform_blame (violation : Violation) (edit? : Option Edit) :
    (site.blame position violation edit? : Check Unit).perform =
      site.blame position violation edit? :=
  Check.perform_post _ _

@[simp]
theorem perform_expect (condition : Bool) (violation : Violation) :
    (site.expect condition position violation : Check Unit).perform =
      site.expect condition position violation := by
  simp [expect]

@[simp]
theorem perform_expectOrEdit (condition : Bool) (violation : Violation) (edit? : Option Edit) :
    (site.expectOrEdit condition position violation edit? : Check Unit).perform =
      site.expectOrEdit condition position violation edit? := by
  simp [expectOrEdit]

end Site

/-! ## Rules -/

namespace Rule

open Check

variable (site : Site) (block : Block)

@[simp]
theorem perform_firstLine : (firstLine site block : Check Unit).perform = firstLine site block := by
  simp [firstLine]

@[simp]
theorem perform_shortCapital (policy : Capitalization) :
    (shortCapital site block policy : Check Unit).perform = shortCapital site block policy := by
  unfold shortCapital
  cases block.short? <;> simp

@[simp]
theorem perform_shortFullStop :
    (shortFullStop site block : Check Unit).perform = shortFullStop site block := by
  unfold shortFullStop
  cases block.short? <;> simp

@[simp]
theorem perform_shortOnOneLine :
    (shortOnOneLine site block : Check Unit).perform = shortOnOneLine site block := by
  unfold shortOnOneLine
  cases block.short? <;> simp

@[simp]
theorem perform_longDescription (policy : Capitalization) :
    (longDescription site block policy : Check Unit).perform =
      longDescription site block policy := by
  unfold longDescription
  cases block.short? <;> cases block.long? <;> simp

@[simp]
theorem perform_blankLineBefore (tag : Tag) (violation : Violation) :
    (blankLineBefore site block tag violation : Check Unit).perform =
      blankLineBefore site block tag violation := by
  simp [blankLineBefore]

@[simp]
theorem perform_blankLineBeforeTags :
    (blankLineBeforeTags site block : Check Unit).perform = blankLineBeforeTags site block := by
  unfold blankLineBeforeTags
  cases block.tags <;> simp

@[simp]
theorem perform_blankLineBeforeParams :
    (blankLineBeforeParams site block : Check Unit).perform = blankLineBeforeParams site block := by
  unfold blankLineBeforeParams
  cases block.tagsNamed "@param" <;> simp

@[simp]
theorem perform_shortDescription (present : Bool) (construct : String) :
    (shortDescription site block present construct : Check Bool).perform =
      shortDescription site block present construct := by
  simp [shortDescription]

@[simp]
theorem perform_closerAlone :
    (closerAlone site block : Check Bool).perform = closerAlone site block := by
  simp [closerAlone]

@[simp]
theorem perform_noBlankBeforeCloser :
    (noBlankBeforeCloser site block : Check Unit).perform = noBlankBeforeCloser site block := by
  simp [noBlankBeforeCloser]

@[simp]
theorem perform_noBlankAfterComment (construct : String) :
    (noBlankAfterComment site block construct : Check Unit).perform =
      noBlankAfterComment site block construct := by
  simp [noBlankAfterComment]

@[simp]
theorem perform_rightBelowOpenTag :
    (rightBelowOpenTag site block : Check Unit).perform = rightBelowOpenTag site block := by
  simp [rightBelowOpenTag]

@[simp]
theorem perform_blankLineAfterFileComment :
    (blankLineAfterFileComment site block : Check Unit).perform =
      blankLineAfterFileComment site block := by
  unfold blankLineAfterFileComment
  split <;> simp

@[simp]
theorem perform_see : (see site block : Check Unit).perform = see site block := by
  simp [see]

@[simp]
theorem perform_returns (name? : Option String) :
    (returns site block name? : Check Unit).perform = returns site block name? := by
  unfold returns
  split
  · simp
  · rcases block.tagsNamed "@return" with _ | ⟨tag, _ | ⟨second, rest⟩⟩ <;> simp

@[simp]
theorem perform_throwsTag (policy : Capitalization) (tag : Tag) :
    (throwsTag site policy tag : Check Unit).perform = throwsTag site policy tag := by
  unfold throwsTag throwsComment
  split
  · split <;> simp
  · simp

@[simp]
theorem perform_throws (policy : Capitalization) :
    (throws site block policy : Check Unit).perform = throws site block policy := by
  simp [throws]

@[simp]
theorem perform_paramFields (param : ParamTag) :
    (paramFields site param : Check Unit).perform = paramFields site param := by
  simp [paramFields]

@[simp]
theorem perform_param (declared? : Option String) (param : ParamTag) :
    (Rule.param site declared? param : Check Unit).perform = Rule.param site declared? param := by
  unfold Rule.param paramTypeSpace paramName paramNameSpace
  cases declared? <;> simp

@[simp]
theorem perform_paramPairs (declared : List String) (params : List ParamTag) :
    (paramPairs site declared params : Check Unit).perform = paramPairs site declared params := by
  induction params generalizing declared with
  | nil => rfl
  | cons param rest ih => simp [paramPairs, ih]

@[simp]
theorem perform_params : (params site block : Check Unit).perform = params site block := by
  simp [params, paramsDocumented]

@[simp]
theorem perform_copyright (tags : List Tag) :
    (copyright site block tags : Check Unit).perform = copyright site block tags := by
  simp [copyright]

@[simp]
theorem perform_license (tags : List Tag) :
    (license site block tags : Check Unit).perform = license site block tags := by
  unfold license
  rw [List.forM_eq_forM, perform_forM]
  congr 1
  funext tag
  cases tag.inline? <;> simp

@[simp]
theorem perform_tagOccurrences (specs : List TagSpec) (construct : String) (earlier : List Tag)
    (tags : List Tag) :
    (tagOccurrences site specs construct earlier tags : Check Unit).perform =
      tagOccurrences site specs construct earlier tags := by
  induction tags generalizing earlier with
  | nil => rfl
  | cons tag rest ih => simp [tagOccurrences, tagOccurrence, ih]

end Rule

/-! ## Reviews -/

namespace Review

open Check

variable (site : Site) (block : Block)

@[simp]
theorem perform_classBody (construct : String) :
    (classBody site block construct : Check Unit).perform = classBody site block construct := by
  simp [classBody, noTags]

@[simp]
theorem perform_classLike : (classLike site block : Check Unit).perform = classLike site block := by
  simp [classLike]

@[simp]
theorem perform_functionTags :
    (functionTags site block : Check Unit).perform = functionTags site block := by
  simp [functionTags]

@[simp]
theorem perform_functionBody :
    (functionBody site block : Check Unit).perform = functionBody site block := by
  simp [functionBody]

@[simp]
theorem perform_function : (function site block : Check Unit).perform = function site block := by
  simp [function]

end Review

/-! ## Checks of single tags -/

/-- The checks of single tags, each carried out on a report. -/
def Processors.perform (processors : Processors Check) : Processors Audit :=
  processors.map fun entry =>
    (entry.1, fun site block tags => (entry.2 site block tags).perform)

/-- Every check of single tags has a property, whatever it is applied to. -/
def Processors.Each (property : Audit Unit → Prop) (processors : Processors Audit) : Prop :=
  ∀ name processor, processors.lookup name = some processor →
    ∀ site block tags, property (processor site block tags)

namespace Processors

theorem lookup_perform (processors : Processors Check) (name : String) :
    processors.perform.lookup name =
      (processors.lookup name).map fun processor site block tags =>
        (processor site block tags).perform := by
  induction processors with
  | nil => rfl
  | cons entry rest ih =>
    rw [perform, List.map_cons, List.lookup_cons, List.lookup_cons]
    cases name == entry.1 with
    | true => rfl
    | false => exact ih

/-- The built-in checks do the same either way. -/
theorem perform_builtIn : (builtIn : Processors Check).perform = builtIn := by
  simp [perform, builtIn]

end Processors

namespace Rule

open Check

variable (site : Site) (block : Block) (processors : Processors Check)

@[simp]
theorem perform_tagOrder (construct : String) (place : Nat) (rest : List Tag)
    (specs : List TagSpec) :
    (tagOrder site block construct processors place rest specs).perform =
      tagOrder site block construct processors.perform place rest specs := by
  induction specs generalizing place rest with
  | nil => rfl
  | cons spec specs ih =>
    unfold tagOrder
    split
    · simp [ih]
    · rw [perform_bind, processTags, processTags, Processors.lookup_perform]
      cases processors.lookup spec.name <;> cases rest <;> simp [ih]

end Rule

@[simp]
theorem Review.perform_file (site : Site) (block : Block) (processors : Processors Check) :
    (Review.file site processors block).perform = Review.file site processors.perform block := by
  simp [Review.file, Rule.tagTable]

/-- **Reviews do the same either way**, if the checks of single tags do. -/
@[simp]
theorem Subject.perform_review (subject : Subject) (site : Site) (block : Block)
    (processors : Processors Check) :
    (subject.review site processors block).perform =
      subject.review site processors.perform block := by
  cases subject with
  | file => exact Review.perform_file site block processors
  | classLike => exact Review.perform_classLike site block
  | function => exact Review.perform_function site block

/-- A property of audits that holds where findings without edits are filed, and is kept in
sequence. -/
structure Audit.Compositional (property : ∀ {α : Type}, Audit α → Prop) : Prop where
  /-- Findings without edits have it. -/
  perform : ∀ {α : Type} (check : Check α), check.edits = [] → property check.perform
  /-- Audits that have it have it together. -/
  bind : ∀ {α β : Type} {audit : Audit α} {next : α → Audit β}, property audit →
    (∀ value, property (next value)) → property (audit >>= next)

namespace Audit.Compositional

variable {property : ∀ {α : Type}, Audit α → Prop} (hproperty : Compositional property)

include hproperty

theorem pure {α : Type} (value : α) : property (Pure.pure value : Audit α) :=
  hproperty.perform (Check.done value) rfl

theorem ofExcept {α : Type} (result : Except Fault α) :
    property (Check.ofExcept result : Audit α) :=
  hproperty.perform (Check.ofExcept result) rfl

theorem blame (site : Site) (position : Int) (violation : Violation) :
    property (site.blame position violation none : Audit Unit) := by
  rw [← Site.perform_blame]
  exact hproperty.perform _ (Site.edits_blame_none _)

theorem expect (site : Site) (condition : Bool) (position : Int) (violation : Violation) :
    property (site.expect condition position violation : Audit Unit) := by
  rw [← Site.perform_expect]
  exact hproperty.perform _ (Site.edits_expect _ _)

theorem forM {α : Type} {items : List α} {body : α → Audit Unit}
    (hbody : ∀ item ∈ items, property (body item)) : property (items.forM body) := by
  induction items with
  | nil => exact hproperty.pure ()
  | cons item rest ih =>
    exact hproperty.bind (hbody item List.mem_cons_self) fun _ =>
      ih fun other hother => hbody other (List.mem_cons_of_mem item hother)

/-- Checks of single tags that ask for no edits have the property, when they are carried out on a
report. -/
theorem each_perform {processors : Processors Check} (hfree : processors.EditFree) :
    processors.perform.Each property := by
  intro name processor hlookup site block tags
  rw [Processors.lookup_perform, Option.map_eq_some_iff] at hlookup
  obtain ⟨check, hlookup, rfl⟩ := hlookup
  exact hproperty.perform _ (hfree name check hlookup site block tags)

/-- So have the built-in ones. -/
theorem each_builtIn : Processors.builtIn.Each property := by
  rw [← Processors.perform_builtIn]
  exact hproperty.each_perform Rule.editFree_builtIn

section FileReview

variable {site : Site} {block : Block} {processors : Processors Audit}
  (hprocessors : processors.Each property)

include hprocessors

theorem tagOrder (construct : String) (place : Nat) (rest : List Tag) (specs : List TagSpec) :
    property (Rule.tagOrder site block construct processors place rest specs) := by
  induction specs generalizing place rest with
  | nil => exact hproperty.pure ()
  | cons spec specs ih =>
    unfold Rule.tagOrder
    split
    · exact hproperty.bind (hproperty.expect ..) fun _ => ih _ _
    · refine hproperty.bind ?_ fun _ => ?_
      · unfold Rule.processTags
        cases hlookup : processors.lookup spec.name with
        | none => exact hproperty.pure ()
        | some processor => exact hprocessors _ _ hlookup _ _ _
      · split
        · exact hproperty.pure ()
        · exact hproperty.bind (hproperty.expect ..) fun _ => ih _ _

/-- **The review of a file comment** has a property that the checks of single tags have. -/
theorem fileReview : property (Review.file site processors block) := by
  unfold Review.file
  refine hproperty.bind ?_ fun _ => hproperty.bind ?_ fun _ => hproperty.bind ?_ fun described => ?_
  · rw [← Rule.perform_rightBelowOpenTag]
    exact hproperty.perform _ (Rule.edits_rightBelowOpenTag ..)
  · rw [← Rule.perform_blankLineAfterFileComment]
    exact hproperty.perform _ (Rule.edits_blankLineAfterFileComment ..)
  · rw [← Rule.perform_shortDescription]
    exact hproperty.perform _ (Rule.edits_shortDescription ..)
  · split
    · refine hproperty.bind ?_ fun _ => hproperty.tagOrder hprocessors ..
      rw [← Rule.perform_tagOccurrences]
      exact hproperty.perform _ (Rule.edits_tagOccurrences ..)
    · exact hproperty.pure ()

end FileReview

end Audit.Compositional

/-! ## Inspections -/

namespace DocChecker

variable {source : Source} {position : Int}

/-- The checker with its checks of single tags carried out on a report. -/
def perform (checker : DocChecker Check) : DocChecker Audit :=
  { checker with processors := checker.processors.perform }

/-- The checker with the built-in checks of single tags in place of its own. -/
def plain (checker : DocChecker Audit) : DocChecker Check :=
  { checker with processors := .builtIn }

/-- **Inspections do the same either way.** -/
theorem perform_inspect (checker : DocChecker Check) (source : Source) (position : Int) :
    (checker.inspect source position).perform = checker.perform.inspect source position := by
  have hplacement : ∀ subject token placement,
      (checker.inspectPlacement source position subject token placement).perform =
        checker.perform.inspectPlacement source position subject token placement := by
    intro subject token placement
    unfold inspectPlacement
    cases placement <;> simp <;> rfl
  unfold inspect
  simp only [Check.perform_bind, Check.perform_ofExcept, Check.perform_require]
  refine congrArg (Check.ofExcept (source.get position) >>= ·) (funext fun token => ?_)
  refine congrArg (Check.require _ _ >>= ·) (funext fun subject => ?_)
  refine congrArg (Check.ofExcept (source.locate position) >>= ·) (funext fun placement? => ?_)
  cases placement? with
  | none => rfl
  | some placement => exact hplacement subject token placement

/-- What is found about the comment of a class or a function has nothing to do with the checks of
single tags. -/
theorem inspectPlacement_eq_plain (checker : DocChecker Audit) {subject : Subject}
    (hfile : subject ≠ .file) (token : Token) (placement : Placement) :
    checker.inspectPlacement source position subject token placement =
      checker.plain.perform.inspectPlacement source position subject token placement := by
  unfold inspectPlacement
  cases subject with
  | file => exact absurd rfl hfile
  | classLike => cases placement <;> rfl
  | function => cases placement <;> rfl

/-- The checks of single tags matter to file comments only. -/
theorem inspect_eq_perform {checker : DocChecker Audit}
    (hfile : ∀ token, source.get position = .ok token → Subject.ofKind? token.kind ≠ some .file) :
    checker.inspect source position = (checker.plain.inspect source position).perform := by
  rw [perform_inspect]
  unfold inspect
  cases hget : source.get position with
  | error fault => rw [Audit.ofExcept_error_bind, Audit.ofExcept_error_bind]
  | ok token =>
    rw [Audit.ofExcept_ok_bind, Audit.ofExcept_ok_bind]
    cases hsubject : Subject.ofKind? token.kind with
    | none => simp only [Check.require, Audit.ofExcept_error_bind]
    | some subject =>
      simp only [Check.require, Audit.ofExcept_ok_bind]
      refine congrArg (Check.ofExcept (source.locate position) >>= ·)
        (funext fun placement? => ?_)
      cases placement? with
      | none => rfl
      | some placement =>
        refine inspectPlacement_eq_plain checker ?_ token placement
        rintro rfl
        exact hfile token hget hsubject

/-- The built-in checker does the same either way. -/
theorem perform_ofConfig (config : Config) : (ofConfig config).perform = ofConfig config := by
  unfold perform ofConfig
  rw [Processors.perform_builtIn]

end DocChecker

/-! ## Passes -/

/-- The checker that files what it finds. -/
def Checker.perform (checker : Checker Check) : Checker Audit :=
  ⟨checker.kinds, fun source position => (checker.inspect source position).perform⟩

theorem DocChecker.toChecker_perform (checker : DocChecker Check) :
    checker.perform.toChecker = checker.toChecker.perform := by
  unfold toChecker Checker.perform
  simp only [perform_inspect]
  rfl

namespace Source

theorem perform_inspect (source : Source) (checkers : List (Checker Check)) :
    (source.inspect checkers).perform = source.inspect (checkers.map Checker.perform) := by
  have hslot : ∀ slot, (source.inspectSlot checkers slot).perform =
      source.inspectSlot (checkers.map Checker.perform) slot := by
    intro slot
    simp only [inspectSlot, List.forM_eq_forM, Check.perform_forM, Check.perform_ite,
      List.forM_map]
    rfl
  simp only [inspect, List.forM_eq_forM, Check.perform_forM, hslot]

/-- **Passes report the same either way.** -/
theorem report_perform (source : Source) (checkers : List (Checker Check)) (fixing : Bool) :
    source.report (checkers.map Checker.perform) fixing = source.report checkers fixing := by
  unfold report
  rw [← perform_inspect]
  rfl

/-- So does fixing. -/
theorem fix_perform (checkers : List (Checker Check)) (passes : Nat) (source : Source) :
    fix (checkers.map Checker.perform) passes source = fix checkers passes source := by
  induction passes generalizing source with
  | zero => rw [fix, fix, report_perform]
  | succ passes ih => simp only [fix, report_perform, ih]

/-- **The built-in checkers can be studied for themselves.** Fixing with the checkers that work on
a report gives the same source and the same report. -/
theorem fix_ofConfig (configs : List Config) (passes : Nat) (source : Source) :
    fix (configs.map fun config => (DocChecker.ofConfig config : DocChecker Audit).toChecker)
        passes source =
      fix (configs.map fun config => (DocChecker.ofConfig config : DocChecker Check).toChecker)
        passes source := by
  rw [← fix_perform, List.map_map]
  refine congrArg (fix · passes source) (List.map_congr_left fun config _ => ?_)
  rw [Function.comp_apply, ← DocChecker.toChecker_perform, DocChecker.perform_ofConfig]

end Source

namespace Audit.Compositional

variable {property : ∀ {α : Type}, Audit α → Prop} (hproperty : Compositional property)
  {source : Source}

include hproperty

/-- **A property of an inspection.** It holds if the checks of single tags have it, and if it holds
of what else is found. -/
theorem inspect {checker : DocChecker Audit} (hprocessors : checker.processors.Each property)
    {position : Int} (hplain : property (checker.plain.inspect source position).perform) :
    property (checker.inspect source position) := by
  by_cases hfile : ∃ token, source.get position = .ok token ∧
      Subject.ofKind? token.kind = some .file
  · obtain ⟨token, hget, hsubject⟩ := hfile
    unfold DocChecker.inspect
    rw [hget, Audit.ofExcept_ok_bind, hsubject, Check.require, Audit.ofExcept_ok_bind]
    refine hproperty.bind (hproperty.ofExcept _) fun placement? => ?_
    cases placement? with
    | none => exact hproperty.pure ()
    | some placement =>
      unfold DocChecker.inspectPlacement
      cases placement with
      | doc owner opener closer =>
        dsimp only
        split
        · exact hproperty.bind (hproperty.ofExcept _) fun block => hproperty.fileReview hprocessors
        · exact hproperty.blame ..
      | _ => exact hproperty.blame ..
  · rw [DocChecker.inspect_eq_perform fun token hget hsubject => hfile ⟨token, hget, hsubject⟩]
    exact hplain

/-- **A property of a pass.** It holds if it holds of every inspection. -/
theorem pass {checkers : List (DocChecker Audit)}
    (hinspect : ∀ checker ∈ checkers, ∀ slot ∈ source.slots,
      checker.kinds.contains slot.kind = true → property (checker.inspect source slot.position)) :
    property (source.inspect (checkers.map DocChecker.toChecker)) := by
  refine hproperty.forM fun slot hslot => hproperty.forM fun checker hchecker => ?_
  obtain ⟨docChecker, hmem, rfl⟩ := List.mem_map.mp hchecker
  split
  · rename_i hkind
    exact hinspect docChecker hmem slot hslot hkind
  · exact hproperty.pure ()

end Audit.Compositional

end DocLint

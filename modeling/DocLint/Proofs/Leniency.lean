import DocLint.Proofs.HaltingDiscipline
import DocLint.Proofs.Sections

/-!
# The lenient policy

Two policies judge how a text begins, and one of them accepts all that the other does. This module
proves what it means to move from the strict policy to the lenient one, in one place of the
configuration or in several: a pass ends as it did, some of the remarks on capitals are gone, and
all else is reported as before, with the same edits.

Which characters are letters, and which letters are capitals, plays no part. Everything here holds
for every way to class characters.
-/

namespace DocLint

open Check

/-! ## Policies and configurations -/

/-- The second policy is the first one, or the lenient one in place of the strict one. -/
def Capitalization.RelaxesTo (policy policy' : Capitalization) : Prop :=
  policy' = policy ∨ policy = .upperOrNonLetter ∧ policy' = .notLowercase

theorem Capitalization.acceptsClass_notLowercase {letterClass : Text.LetterClass}
    (haccepts : upperOrNonLetter.acceptsClass letterClass = true) :
    notLowercase.acceptsClass letterClass = true := by
  cases letterClass with
  | small => exact haccepts
  | _ => rfl

/-- A relaxed policy accepts all that the policy did, however characters are classed. -/
theorem Capitalization.RelaxesTo.accepts {policy policy' : Capitalization}
    (hrelaxes : policy.RelaxesTo policy') {letters : Char → Text.LetterClass} {text : String}
    (haccepts : policy.accepts letters text = true) : policy'.accepts letters text = true := by
  rcases hrelaxes with rfl | ⟨rfl, rfl⟩
  · exact haccepts
  · rw [Capitalization.accepts] at haccepts ⊢
    cases htext : text.toList with
    | nil => rfl
    | cons c rest =>
      rw [htext] at haccepts
      exact acceptsClass_notLowercase haccepts

/-- The second configuration relaxes policies of the first and agrees with it otherwise. -/
structure Config.RelaxesTo (config config' : Config) : Prop where
  /-- The rules of file comments have no policies. -/
  file_eq : config'.file = config.file
  /-- Descriptions of classes may be judged less strictly. -/
  classLike : ∃ short long, config.classLike.shortPolicy.RelaxesTo short ∧
    config.classLike.longPolicy.RelaxesTo long ∧
    config'.classLike = { config.classLike with shortPolicy := short, longPolicy := long }
  /-- So may descriptions of functions and of what they throw. -/
  function : ∃ short throws, config.function.shortPolicy.RelaxesTo short ∧
    config.function.throwsPolicy.RelaxesTo throws ∧
    config'.function = { config.function with shortPolicy := short, throwsPolicy := throws }

namespace Config.RelaxesTo

variable {config config' : Config} (hrelaxes : config.RelaxesTo config')

include hrelaxes

theorem sharesRules : config.SharesRules config' := by
  obtain ⟨short, throws, -, -, hfunction⟩ := hrelaxes.function
  refine ⟨⟨config.file.enabled, hrelaxes.file_eq⟩, ?_, ?_, ?_⟩
  · rw [hfunction]
  · rw [hfunction]
  · rw [hfunction]

theorem enables_eq : config'.enables = config.enables := by
  obtain ⟨_, _, -, -, hclass⟩ := hrelaxes.classLike
  obtain ⟨_, _, -, -, hfunction⟩ := hrelaxes.function
  funext subject
  cases subject with
  | file => rw [enables, enables, hrelaxes.file_eq]
  | classLike => rw [enables, enables, hclass]
  | function => rw [enables, enables, hfunction]

theorem classShort : config.classLike.shortPolicy.RelaxesTo config'.classLike.shortPolicy := by
  obtain ⟨short, long, hshort, -, hclass⟩ := hrelaxes.classLike
  rwa [hclass]

theorem classLong : config.classLike.longPolicy.RelaxesTo config'.classLike.longPolicy := by
  obtain ⟨short, long, -, hlong, hclass⟩ := hrelaxes.classLike
  rwa [hclass]

theorem functionShort : config.function.shortPolicy.RelaxesTo config'.function.shortPolicy := by
  obtain ⟨short, throws, hshort, -, hfunction⟩ := hrelaxes.function
  rwa [hfunction]

theorem throws : config.function.throwsPolicy.RelaxesTo config'.function.throwsPolicy := by
  obtain ⟨short, throws, -, hthrows, hfunction⟩ := hrelaxes.function
  rwa [hfunction]

end Config.RelaxesTo

/-! ## Checks -/

/-- The codes of remarks on capitals. -/
def capitalCodes : List String :=
  ["ShortNotCapital", "LongNotCapital", "ThrowsNotCapital"]

/-- Whether the diagnostic remarks on a capital. -/
def Diagnostic.isAboutCapital (diagnostic : Diagnostic) : Bool :=
  capitalCodes.contains diagnostic.code

namespace Check

variable {α β : Type}

/-- The second check ends as the first one does and has found the same, except that some remarks on
capitals may be gone. -/
structure RelaxesTo (check check' : Check α) : Prop where
  outcome_eq : check'.outcome = check.outcome
  /-- Nothing is found in addition. -/
  sublist : check'.diagnostics.Sublist check.diagnostics
  /-- Nothing but remarks on capitals is gone. -/
  others_eq : (check'.diagnostics.filter fun diagnostic => !diagnostic.isAboutCapital) =
    check.diagnostics.filter fun diagnostic => !diagnostic.isAboutCapital
  edits_eq : check'.edits = check.edits

namespace RelaxesTo

theorem refl (check : Check α) : check.RelaxesTo check :=
  ⟨rfl, .refl _, rfl, rfl⟩

theorem of_eq {check check' : Check α} (hsame : check' = check) : check.RelaxesTo check' :=
  hsame ▸ refl check

/-- Sequences relax part by part. -/
theorem bind {check check' : Check α} {next next' : α → Check β} (hcheck : check.RelaxesTo check')
    (hnext : ∀ value, (next value).RelaxesTo (next' value)) :
    (check >>= next).RelaxesTo (check' >>= next') := by
  rcases check with ⟨diagnostics, outcome⟩
  rcases check' with ⟨diagnostics', outcome'⟩
  obtain ⟨houtcome, hsublist, hothers, hedits⟩ := hcheck
  obtain rfl : outcome' = outcome := houtcome
  cases outcome' with
  | error fault => exact ⟨rfl, hsublist, hothers, hedits⟩
  | ok value =>
    have hrest := hnext value
    refine ⟨hrest.outcome_eq, hsublist.append hrest.sublist, ?_, ?_⟩
    · simp only [bind_ok, List.filter_append]
      exact congrArg₂ (· ++ ·) hothers hrest.others_eq
    · simp only [Check.edits, bind_ok, List.filterMap_append]
      exact congrArg₂ (· ++ ·) hedits hrest.edits_eq

/-- A choice relaxes in both of its branches. -/
theorem ite (condition : Bool) {check check' other other' : Check α}
    (hcheck : check.RelaxesTo check') (hother : other.RelaxesTo other') :
    (if condition then check else other).RelaxesTo (if condition then check' else other') := by
  cases condition with
  | true => rwa [if_pos rfl, if_pos rfl]
  | false => rwa [if_neg Bool.false_ne_true, if_neg Bool.false_ne_true]

/-- Loops relax item by item. -/
theorem forM {items : List α} {body body' : α → Check Unit}
    (hbody : ∀ item ∈ items, (body item).RelaxesTo (body' item)) :
    (items.forM body).RelaxesTo (items.forM body') := by
  induction items with
  | nil => exact refl _
  | cons item items ih =>
    exact (hbody item List.mem_cons_self).bind fun _ =>
      ih fun other hother => hbody other (List.mem_cons_of_mem item hother)

end RelaxesTo

end Check

/-- A demand for a capital may be relaxed where a token stands. -/
theorem Site.relaxesTo_expect {site : Site} {position : Int} (hholds : site.source.Holds position)
    {condition condition' : Bool} (hweaker : condition = true → condition' = true)
    {violation : Violation} (hcode : violation.code ∈ capitalCodes) :
    (site.expect condition position violation).RelaxesTo
      (site.expect condition' position violation) := by
  cases condition with
  | true => rw [hweaker rfl]; exact .refl _
  | false =>
    cases condition' with
    | false => exact .refl _
    | true =>
      -- Only here the two differ: the remark is made, which takes a token to be made at, or spared.
      obtain ⟨token, hat⟩ := hholds
      have hblame : site.expect false position violation =
          found (violation.diagnostic site.origin position token.line none) := by
        rw [expect, if_neg Bool.false_ne_true, blame_eq, Source.line_of_token? hat]
      have hcapital : (violation.diagnostic site.origin position token.line none).isAboutCapital =
          true := List.contains_iff_mem.mpr hcode
      rw [hblame]
      refine ⟨rfl, List.nil_sublist _, ?_, rfl⟩
      simp [expect, found, hcapital]

/-! ## Rules and reviews -/

section Relaxed

variable {site : Site} {config : Config} {block : Block} (hstands : block.Stands site.source)

include hstands

namespace Rule

theorem relaxesTo_shortCapital {policy policy' : Capitalization}
    (hpolicy : policy.RelaxesTo policy') :
    (shortCapital site block policy).RelaxesTo
      (shortCapital (site.under config) block policy') := by
  unfold shortCapital
  cases hshort : block.short? with
  | none => exact .refl _
  | some short =>
    exact Site.relaxesTo_expect (hstands.short short hshort) hpolicy.accepts (by decide)

theorem relaxesTo_longDescription {policy policy' : Capitalization}
    (hpolicy : policy.RelaxesTo policy') :
    (longDescription site block policy).RelaxesTo
      (longDescription (site.under config) block policy') := by
  unfold longDescription
  split
  · rename_i short long _ hlong
    refine .bind (.refl _) fun _ => .bind ?_ fun _ => .refl _
    exact Site.relaxesTo_expect (hstands.long long hlong) hpolicy.accepts (by decide)
  · exact .refl _

theorem relaxesTo_throws {policy policy' : Capitalization} (hpolicy : policy.RelaxesTo policy') :
    (throws site block policy).RelaxesTo (throws (site.under config) block policy') := by
  apply RelaxesTo.forM
  intro tag htag
  have htag := hstands.tags tag (Block.mem_tagsNamed.mp htag).1
  unfold throwsTag
  split
  · rename_i inline text hinline _
    obtain ⟨token, hat, -⟩ := htag.inline inline hinline
    split
    · exact .refl _
    · refine .bind ?_ fun _ => .refl _
      exact Site.relaxesTo_expect ⟨token, hat⟩ hpolicy.accepts (by decide)
  · exact .refl _

end Rule

variable (hrelaxes : site.config.RelaxesTo config)

include hrelaxes

namespace Review

theorem relaxesTo_classBody {construct : String} :
    (classBody site block construct).RelaxesTo (classBody (site.under config) block construct) := by
  unfold classBody
  refine .bind (.refl _) fun _ => .bind (.refl _) fun _ => ?_
  refine .bind (Rule.relaxesTo_shortCapital hstands hrelaxes.classShort) fun _ => ?_
  refine .bind (.refl _) fun _ => ?_
  exact .bind (Rule.relaxesTo_longDescription hstands hrelaxes.classLong) fun _ => .refl _

theorem relaxesTo_classLike :
    (classLike site block).RelaxesTo (classLike (site.under config) block) := by
  unfold classLike
  refine .bind (.refl _) fun token => .bind (.refl _) fun alone => .ite alone ?_ (.refl _)
  refine .bind (.refl _) fun described => .ite described ?_ (.refl _)
  exact relaxesTo_classBody hstands hrelaxes

theorem relaxesTo_functionTags :
    (functionTags site block).RelaxesTo (functionTags (site.under config) block) := by
  have hshares := hrelaxes.sharesRules
  unfold functionTags
  refine .bind (.refl _) fun _ => .bind (.refl _) fun _ => .bind (.refl _) fun _ => ?_
  refine .bind (.refl _) fun name? => .bind (.of_eq (Rule.returns_under hshares name?)) fun _ => ?_
  refine .bind (Rule.relaxesTo_throws hstands hrelaxes.throws) fun _ => ?_
  exact .of_eq (Rule.params_under hshares)

theorem relaxesTo_functionBody :
    (functionBody site block).RelaxesTo (functionBody (site.under config) block) := by
  have hstop : functionFullStop (site.under config) block = functionFullStop site block := by
    simp only [functionFullStop, Site.under, hrelaxes.sharesRules.fullStop_eq]
    rfl
  rw [functionBody_eq, functionBody_eq]
  refine .bind (.refl _) fun _ => ?_
  refine .bind (Rule.relaxesTo_shortCapital hstands hrelaxes.functionShort) fun _ => ?_
  refine .bind (.of_eq hstop) fun _ => .ite block.inheritsDoc (.refl _) ?_
  exact relaxesTo_functionTags hstands hrelaxes

theorem relaxesTo_function :
    (function site block).RelaxesTo (function (site.under config) block) := by
  unfold function
  refine .bind (.refl _) fun _ => .bind (.refl _) fun described => .ite described ?_ (.refl _)
  exact relaxesTo_functionBody hstands hrelaxes

end Review

theorem Subject.relaxesTo_review (subject : Subject) :
    (subject.review site .builtIn block).RelaxesTo
      (subject.review (site.under config) .builtIn block) := by
  cases subject with
  | file => exact .of_eq (Review.file_under hrelaxes.sharesRules)
  | classLike => exact Review.relaxesTo_classLike hstands hrelaxes
  | function => exact Review.relaxesTo_function hstands hrelaxes

end Relaxed

/-! ## Passes -/

/-- A single checker looks at a token or leaves it alone. -/
theorem Source.inspectSlot_singleton (source : Source) (checker : Checker Check) (slot : Slot) :
    source.inspectSlot [checker] slot =
      if checker.kinds.contains slot.kind then checker.inspect source slot.position
      else .done () :=
  bind_pure_unit

/-- The checker under another configuration. -/
def DocChecker.under (checker : DocChecker Check) (config : Config) : DocChecker Check :=
  { checker with config }

section Passes

variable {checker : DocChecker Check} {config : Config}
  (hrelaxes : checker.config.RelaxesTo config)

include hrelaxes

theorem DocChecker.kinds_under : (checker.under config).kinds = checker.kinds := by
  simp only [kinds, under, hrelaxes.enables_eq]

theorem DocChecker.relaxesTo_inspect (hprocessors : checker.processors = .builtIn)
    {source : Source} {position : Int} {token : Token}
    (hat : source.token? position = some token) {subject : Subject}
    (hsubject : Subject.ofKind? token.kind = some subject) :
    (checker.inspect source position).RelaxesTo
      ((checker.under config).inspect source position) := by
  rcases located_or_lacks source position subject with ⟨opener, closer, hlocate⟩ | hlacks
  · rw [inspect_of_located hat hsubject hlocate, inspect_of_located hat hsubject hlocate,
      show (checker.under config).processors = .builtIn from hprocessors, hprocessors]
    cases hread : Block.read source opener with
    | error fault =>
      rw [ofExcept_error_bind, ofExcept_error_bind]
      exact .refl _
    | ok block =>
      obtain ⟨-, _, hreads⟩ := Block.read_eq_ok_iff.mp hread
      rw [ofExcept_ok_bind, ofExcept_ok_bind]
      have hsite : (checker.site source position subject).config.RelaxesTo config := hrelaxes
      exact Subject.relaxesTo_review hreads.stands hsite subject
  · rw [inspect_of_lacks hat hsubject hlacks, inspect_of_lacks hat hsubject hlacks]
    exact .refl _

theorem Source.relaxesTo_inspect (hprocessors : checker.processors = .builtIn) (source : Source) :
    (source.inspect [checker.toChecker]).RelaxesTo
      (source.inspect [(checker.under config).toChecker]) := by
  apply RelaxesTo.forM
  intro slot hslot
  have hkinds : (checker.under config).toChecker.kinds = checker.toChecker.kinds :=
    DocChecker.kinds_under hrelaxes
  rw [inspectSlot_singleton, inspectSlot_singleton, hkinds]
  by_cases hkind : checker.toChecker.kinds.contains slot.kind = true
  · obtain ⟨subject, hsubject⟩ := DocChecker.exists_subject_of_mem_kinds hkind
    rw [if_pos hkind, if_pos hkind]
    exact DocChecker.relaxesTo_inspect hrelaxes hprocessors (token?_of_mem_slots hslot) hsubject
  · rw [if_neg hkind, if_neg hkind]
    exact .refl _

end Passes

/-- **The lenient policy only drops remarks on capitals.** Let a configuration be relaxed: some
policies are the lenient one instead of the strict one, and nothing else differs. Then every source
is reported under both configurations or under none, with the same fault. The second report has the
diagnostics of the first in the same order, with some of those about capitals left out and no
others, and it has the same edits. This holds whatever the signatures are, and however characters
are classed. -/
theorem Source.leniency_only_drops_capitals {config config' : Config}
    (hrelaxes : config.RelaxesTo config') (signatures : SignatureReader)
    (letters : Char → Text.LetterClass) (source : Source) (fixing : Bool) :
    let strict : DocChecker Check := ⟨config, signatures, letters, .builtIn⟩
    let lenient : DocChecker Check := ⟨config', signatures, letters, .builtIn⟩
    (source.report [lenient.toChecker] fixing).map (fun _ => ()) =
        (source.report [strict.toChecker] fixing).map (fun _ => ()) ∧
      ∀ report report', source.report [strict.toChecker] fixing = .ok report →
        source.report [lenient.toChecker] fixing = .ok report' →
          report'.diagnostics.Sublist report.diagnostics ∧
            (report'.diagnostics.filter fun diagnostic => !diagnostic.isAboutCapital) =
              (report.diagnostics.filter fun diagnostic => !diagnostic.isAboutCapital) ∧
            report'.edits = report.edits := by
  intro strict lenient
  have hunder : strict.under config' = lenient := rfl
  have hrules : strict.config.RelaxesTo config' := hrelaxes
  have hpass := Source.relaxesTo_inspect hrules rfl source
  rw [hunder] at hpass
  refine ⟨?_, ?_⟩
  · rw [report_eq_map, report_eq_map, hpass.outcome_eq]
    cases (source.inspect [strict.toChecker]).outcome with
    | error fault => simp only [Except.map]
    | ok value => simp only [Except.map]
  · intro report report' hstrict hlenient
    obtain ⟨-, rfl⟩ := report_eq_ok_iff.mp hstrict
    obtain ⟨-, rfl⟩ := report_eq_ok_iff.mp hlenient
    refine ⟨hpass.sublist, hpass.others_eq, ?_⟩
    exact congrArg (fun edits => if fixing = true then edits else []) hpass.edits_eq

/-- The strict policy for functions throughout. -/
def strictFunctions : Config :=
  { function := { shortPolicy := .upperOrNonLetter, throwsPolicy := .upperOrNonLetter } }

/-- The lenient policy for functions throughout. -/
def lenientFunctions : Config :=
  { function := { shortPolicy := .notLowercase, throwsPolicy := .notLowercase } }

/-- A description that begins with an ordinal sign, a letter that has no case, is spared. The remark
on a comment that begins with a small letter stays. -/
theorem throwingFunction_spared :
    ∃ strict lenient,
      (DocChecker.throwingFunction "\u00aa").report
        [(DocChecker.ofConfig strictFunctions).toChecker] true = .ok strict ∧
      (DocChecker.throwingFunction "\u00aa").report
        [(DocChecker.ofConfig lenientFunctions).toChecker] true = .ok lenient ∧
      strict.codes = ["ShortNotCapital", "MissingReturnType", "InvalidThrows", "ThrowsNotCapital",
        "ThrowsMissingFullStop"] ∧
      lenient.codes = ["MissingReturnType", "InvalidThrows", "ThrowsNotCapital",
        "ThrowsMissingFullStop"] ∧
      lenient.diagnostics.Sublist strict.diagnostics := by
  have hrelaxes : strictFunctions.RelaxesTo lenientFunctions :=
    ⟨rfl, ⟨_, _, Or.inl rfl, Or.inl rfl, rfl⟩, ⟨_, _, Or.inr ⟨rfl, rfl⟩, Or.inr ⟨rfl, rfl⟩, rfl⟩⟩
  have hstrict : (DocChecker.throwingFunction "\u00aa").report
      [(DocChecker.ofConfig strictFunctions).toChecker] true = .ok _ := rfl
  have hlenient : (DocChecker.throwingFunction "\u00aa").report
      [(DocChecker.ofConfig lenientFunctions).toChecker] true = .ok _ := rfl
  obtain ⟨-, hdropped⟩ := Source.leniency_only_drops_capitals hrelaxes .ofTokens Text.letterClass
    (DocChecker.throwingFunction "\u00aa") true
  exact ⟨_, _, hstrict, hlenient, rfl, rfl, (hdropped _ _ hstrict hlenient).1⟩

end DocLint

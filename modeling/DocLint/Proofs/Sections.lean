import DocLint.Proofs.ReviewFindings

/-!
# The three kinds of comments are checked apart

A configuration has a section for each kind of comment. Switching sections off takes away what they
report and changes nothing else; and three checkers with one section each, in whatever order, report
what one checker with all sections does.

The reason is twofold. Whether a section is switched on decides which tokens a checker wants to see,
and nothing that it does there depends on it. And all that is reported about a declaration is
reported under the name of its section.
-/

namespace DocLint

open Check

/-! ## What rules ask of a configuration -/

/-- The configurations agree in all that rules ask for, apart from how texts have to begin. -/
structure Config.SharesRules (config config' : Config) : Prop where
  /-- File comments have the same rules, whether they are checked or not. -/
  file : ∃ enabled, config'.file = { config.file with enabled }
  fullStop_eq : config'.function.requireShortFullStop = config.function.requireShortFullStop
  suffix_eq : config'.function.variadicSuffix = config.function.variadicSuffix
  methods_eq : config'.function.specialMethods = config.function.specialMethods

/-- The site under another configuration. -/
def Site.under (site : Site) (config : Config) : Site :=
  { site with config }

section Under

variable {site : Site} {config : Config} {block : Block}

theorem Rule.tagOccurrences_under (specs : List TagSpec) (construct : String)
    (earlier tags : List Tag) :
    tagOccurrences (site.under config) specs construct earlier tags =
      tagOccurrences site specs construct earlier tags := by
  induction tags generalizing earlier with
  | nil => rfl
  | cons tag tags ih => exact congrArg₂ (· >>= ·) rfl (funext fun _ => ih _)

variable (hshares : site.config.SharesRules config)

include hshares

namespace Rule

theorem paramPairs_under (declared : List String) (params : List ParamTag) :
    paramPairs (site.under config) declared params = paramPairs site declared params := by
  have hname : paramName (site.under config) = paramName site := by
    funext declared? param
    simp only [paramName, Site.under, hshares.suffix_eq]
    rfl
  have hparam : Rule.param (site.under config) = Rule.param site := by
    funext declared? param
    simp only [Rule.param, hname]
    rfl
  induction params generalizing declared with
  | nil => rfl
  | cons param params ih => simp only [paramPairs, hparam, ih]

theorem params_under : params (site.under config) block = params site block := by
  simp only [params, paramPairs_under hshares]
  rfl

theorem returns_under (name? : Option String) :
    returns (site.under config) block name? = returns site block name? := by
  simp only [returns, isSpecialMethod, Site.under, hshares.methods_eq]
  rfl

theorem processTags_under (name : String) (tags : List Tag) :
    processTags (site.under config) block .builtIn name tags =
      processTags site block .builtIn name tags := by
  obtain ⟨enabled, hfile⟩ := hshares.file
  simp only [processTags, Processors.builtIn, List.lookup_cons, List.lookup_nil]
  cases name == "@copyright" with
  | true =>
    simp only [copyright, Site.under, hfile]
    rfl
  | false => cases name == "@license" <;> rfl

theorem tagOrder_under (construct : String) (place : Nat) (rest : List Tag)
    (specs : List TagSpec) :
    tagOrder (site.under config) block construct .builtIn place rest specs =
      tagOrder site block construct .builtIn place rest specs := by
  induction specs generalizing place rest with
  | nil => rfl
  | cons spec specs ih =>
    rw [tagOrder.eq_def, tagOrder.eq_def]
    simp only [ih, processTags_under hshares]
    rfl

end Rule

/-- The review of a file comment asks for nothing else. -/
theorem Review.file_under :
    file (site.under config) .builtIn block = file site .builtIn block := by
  obtain ⟨enabled, hfile⟩ := hshares.file
  simp only [file, Rule.tagTable, Rule.tagOrder_under hshares, Rule.tagOccurrences_under,
    show (site.under config).config.file = { site.config.file with enabled } from hfile]
  rfl

end Under

/-! ## Switching sections off -/

/-- The configuration with some sections switched off. -/
def Config.disable (config : Config) (disabled : List Subject) : Config where
  file := { config.file with enabled := config.file.enabled && !disabled.contains .file }
  classLike :=
    { config.classLike with enabled := config.classLike.enabled && !disabled.contains .classLike }
  function :=
    { config.function with enabled := config.function.enabled && !disabled.contains .function }

theorem Config.enables_disable (config : Config) (disabled : List Subject) (subject : Subject) :
    (config.disable disabled).enables subject =
      (config.enables subject && !disabled.contains subject) := by
  cases subject <;> rfl

/-- The configuration with one section only. -/
def Config.only (config : Config) (subject : Subject) : Config :=
  config.disable ([.file, .classLike, .function].filter fun other => other != subject)

/-- Of the sections of a configuration the one that is kept is on if it was on. -/
theorem Config.enables_only (config : Config) (subject other : Subject) :
    (config.only subject).enables other = (config.enables other && other == subject) := by
  rw [only, enables_disable]
  cases subject <;> cases other <;> rfl

/-- The site with some sections switched off. -/
def Site.disable (site : Site) (disabled : List Subject) : Site :=
  { site with config := site.config.disable disabled }

/-- Switching sections off changes no rules. -/
theorem Config.sharesRules_disable (config : Config) (disabled : List Subject) :
    config.SharesRules (config.disable disabled) :=
  ⟨⟨_, rfl⟩, rfl, rfl, rfl⟩

/-- **What a review finds does not depend on which sections are on.** -/
theorem Subject.review_disable (site : Site) (disabled : List Subject) (block : Block)
    (subject : Subject) :
    subject.review (site.disable disabled) .builtIn block = subject.review site .builtIn block := by
  have hshares := site.config.sharesRules_disable disabled
  cases subject with
  | file => exact Review.file_under hshares
  | classLike => rfl
  | function =>
    have hparams : Rule.params (site.disable disabled) block = Rule.params site block :=
      Rule.params_under hshares
    simp only [Subject.review, Review.function, Review.functionBody, Review.functionTags, hparams]
    rfl

namespace DocChecker

variable {checker : DocChecker Check} {source : Source} {position : Int} {kind : Kind}

/-- The checker with some sections switched off. -/
def disable (checker : DocChecker Check) (disabled : List Subject) : DocChecker Check :=
  { checker with config := checker.config.disable disabled }

/-- The checker with one section only. -/
def only (checker : DocChecker Check) (subject : Subject) : DocChecker Check :=
  { checker with config := checker.config.only subject }

/-- An inspection does not depend on which sections are on. -/
theorem inspect_disable (hprocessors : checker.processors = .builtIn) (disabled : List Subject) :
    (checker.disable disabled).inspect = checker.inspect := by
  have hplacement : (checker.disable disabled).inspectPlacement = checker.inspectPlacement := by
    funext source position subject token placement
    cases placement with
    | doc owner opener closer =>
      have hreview : ∀ block,
          subject.review ((checker.disable disabled).site source position subject)
            (checker.disable disabled).processors block =
              subject.review (checker.site source position subject) checker.processors block := by
        intro block
        rw [show (checker.disable disabled).processors = checker.processors from rfl, hprocessors]
        exact Subject.review_disable (checker.site source position subject) disabled block subject
      simp only [inspectPlacement, hreview]
      rfl
    | _ => rfl
  funext source position
  simp only [inspect, hplacement]

theorem inspect_only (hprocessors : checker.processors = .builtIn) (subject : Subject) :
    (checker.only subject).inspect = checker.inspect :=
  inspect_disable hprocessors _

/-- With sections switched off a checker looks at no more than it did. -/
theorem kinds_disable_subset {disabled : List Subject} :
    (checker.disable disabled).kinds ⊆ checker.kinds := by
  intro kind hkind
  obtain ⟨hall, hon⟩ := List.mem_filter.mp hkind
  refine List.mem_filter.mpr ⟨hall, ?_⟩
  cases hsubject : Subject.ofKind? kind with
  | none =>
    rw [hsubject] at hon
    cases hon
  | some subject =>
    have henabled : (checker.config.disable disabled).enables subject = true := by
      rw [hsubject] at hon
      exact hon
    rw [Config.enables_disable, Bool.and_eq_true] at henabled
    exact henabled.1

/-- All that is reported about a declaration is reported under the name of its section. -/
theorem origin_eq_of_mem (hprocessors : checker.processors = .builtIn) {subject : Subject}
    {token : Token} (hat : source.token? position = some token)
    (hsubject : Subject.ofKind? token.kind = some subject) {diagnostic : Diagnostic}
    (hdiagnostic : diagnostic ∈ (checker.inspect source position).diagnostics) :
    diagnostic.origin = subject.origin := by
  obtain ⟨finding, hworded, -⟩ :=
    (course_inspect hprocessors hat hsubject).exists_finding hdiagnostic
  exact hworded.origin_eq

end DocChecker

/-- Sections have different names. -/
theorem Subject.origin_injective : Function.Injective Subject.origin := by
  intro first second horigin
  cases first <;> cases second <;> simp [Subject.origin] at horigin ⊢

/-! ## Passes -/

namespace DocChecker

variable {checker : DocChecker Check} {source : Source} {slot : Slot} {subject : Subject}

/-- What a checker reports at a slot of a pass. -/
def reported (checker : DocChecker Check) (source : Source) (slot : Slot) : List Diagnostic :=
  if checker.kinds.contains slot.kind then (checker.inspect source slot.position).diagnostics
  else []

/-- A checker looks at nothing but declarations. -/
theorem reported_of_none (hkind : Subject.ofKind? slot.kind = none) :
    checker.reported source slot = [] := by
  have hunwanted : ¬ checker.kinds.contains slot.kind = true := by
    intro hwanted
    obtain ⟨subject, hsubject⟩ := exists_subject_of_mem_kinds hwanted
    rw [hkind] at hsubject
    cases hsubject
  rw [reported, if_neg hunwanted]

/-- It looks at the declarations of the sections that are on. -/
theorem reported_of_some (hsubject : Subject.ofKind? slot.kind = some subject) :
    checker.reported source slot =
      if checker.config.enables subject then (checker.inspect source slot.position).diagnostics
      else [] := by
  have hwanted : checker.kinds.contains slot.kind = checker.config.enables subject := by
    rw [Bool.eq_iff_iff, List.contains_iff_mem, kinds, List.mem_filter, hsubject]
    simp [Kind.mem_all]
  rw [reported, hwanted]

section Sections

variable (hprocessors : checker.processors = .builtIn)

include hprocessors

/-- **A section that stays on reports what it did, and the others report nothing.** -/
theorem reported_disable (hslot : slot ∈ source.slots) (disabled : List Subject) :
    (checker.disable disabled).reported source slot =
      (checker.reported source slot).filter fun diagnostic =>
        !(disabled.map Subject.origin).contains diagnostic.origin := by
  cases hdeclared : Subject.ofKind? slot.kind with
  | none => rw [reported_of_none hdeclared, reported_of_none hdeclared, List.filter_nil]
  | some declared =>
    have hon : (checker.disable disabled).config.enables declared =
        (checker.config.enables declared && !disabled.contains declared) :=
      checker.config.enables_disable disabled declared
    have hkeep : ∀ diagnostic ∈ (checker.inspect source slot.position).diagnostics,
        (!(disabled.map Subject.origin).contains diagnostic.origin) =
          !disabled.contains declared := by
      intro diagnostic hdiagnostic
      rw [origin_eq_of_mem hprocessors (Source.token?_of_mem_slots hslot) hdeclared hdiagnostic,
        Bool.not_inj_iff, Bool.eq_iff_iff, List.contains_iff_mem, List.contains_iff_mem,
        List.mem_map_of_injective Subject.origin_injective]
    have hfilter : (checker.inspect source slot.position).diagnostics.filter (fun diagnostic =>
        !(disabled.map Subject.origin).contains diagnostic.origin) =
          if disabled.contains declared then []
          else (checker.inspect source slot.position).diagnostics := by
      rw [List.filter_congr hkeep]
      cases disabled.contains declared <;> simp
    rw [reported_of_some hdeclared, reported_of_some hdeclared, inspect_disable hprocessors, hon]
    cases checker.config.enables declared with
    | false => rfl
    | true =>
      rw [if_pos rfl, hfilter]
      cases disabled.contains declared <;> rfl

/-- A checker with one section looks at the declarations of that section. -/
theorem reported_only (subject : Subject) :
    (checker.only subject).reported source slot =
      if Subject.ofKind? slot.kind = some subject then checker.reported source slot else [] := by
  cases hdeclared : Subject.ofKind? slot.kind with
  | none => rw [reported_of_none hdeclared, if_neg nofun]
  | some declared =>
    have hon : (checker.only subject).config.enables declared =
        (checker.config.enables declared && declared == subject) :=
      checker.config.enables_only subject declared
    rw [reported_of_some hdeclared, reported_of_some hdeclared, inspect_only hprocessors, hon]
    by_cases hsame : declared = subject
    · simp [hsame]
    · simp [hsame]

/-- **Three checkers with one section each report what one with all sections does.** -/
theorem flatMap_reported_only {subjects : List Subject}
    (hsubjects : subjects.Perm [.file, .classLike, .function]) :
    (subjects.flatMap fun subject => (checker.only subject).reported source slot) =
      checker.reported source slot := by
  simp only [reported_only hprocessors]
  cases hdeclared : Subject.ofKind? slot.kind with
  | none => simp [reported_of_none hdeclared]
  | some declared =>
    have hmem : declared ∈ subjects := by
      rw [hsubjects.mem_iff]
      cases declared <;> decide
    have hnodup : subjects.Nodup := hsubjects.nodup_iff.mpr (by decide)
    -- the section of the declaration comes once, and all others report nothing
    obtain ⟨before, after, rfl⟩ := List.append_of_mem hmem
    obtain ⟨-, hlater, hapart⟩ := List.nodup_append.mp hnodup
    have hothers : ∀ others : List Subject, declared ∉ others → (others.flatMap fun subject =>
        if some declared = some subject then checker.reported source slot else []) = [] := by
      intro others hnot
      apply List.flatMap_eq_nil_iff.mpr
      intro other hother
      apply if_neg
      rw [Option.some.injEq]
      rintro rfl
      exact hnot hother
    rw [List.flatMap_append, List.flatMap_cons, if_pos rfl,
      hothers after (List.nodup_cons.mp hlater).1,
      hothers before fun hbefore => hapart declared hbefore declared List.mem_cons_self rfl,
      List.nil_append, List.append_nil]

end Sections

end DocChecker

namespace Source

variable {source : Source} {checker : DocChecker Check}

/-- A pass that ends has found what its checkers report, slot by slot. -/
theorem diagnostics_inspect {checkers : List (DocChecker Check)}
    (hsucceeds : (source.inspect (checkers.map DocChecker.toChecker)).Succeeds) :
    (source.inspect (checkers.map DocChecker.toChecker)).diagnostics =
      source.slots.flatMap fun slot => checkers.flatMap fun checker =>
        checker.reported source slot := by
  have hslots := succeeds_forM_iff.mp hsucceeds
  rw [inspect, diagnostics_forM hsucceeds]
  apply List.flatMap_congr
  intro slot hslot
  have hslot := hslots slot hslot
  rw [inspectSlot] at hslot ⊢
  rw [diagnostics_forM hslot, List.flatMap_map]
  apply List.flatMap_congr
  intro checker _
  rw [DocChecker.reported]
  exact apply_ite Check.diagnostics _ _ _

theorem diagnostics_inspect_singleton (hsucceeds : (source.inspect [checker.toChecker]).Succeeds) :
    (source.inspect [checker.toChecker]).diagnostics =
      source.slots.flatMap (checker.reported source) := by
  have hslots : (source.inspect ([checker].map DocChecker.toChecker)).diagnostics = _ :=
    diagnostics_inspect hsucceeds
  refine hslots.trans (List.flatMap_congr fun slot _ => ?_)
  exact List.append_nil _

/-- A pass ends if another one does whose checkers look at more and do the same. -/
theorem succeeds_inspect_of_subset {checkers : List (DocChecker Check)}
    (hsucceeds : (source.inspect [checker.toChecker]).Succeeds)
    (hcheckers : ∀ other ∈ checkers,
      other.inspect = checker.inspect ∧ other.kinds ⊆ checker.kinds) :
    (source.inspect (checkers.map DocChecker.toChecker)).Succeeds := by
  apply succeeds_inspect_iff.mpr
  intro found slot hinspects
  obtain ⟨other, hother, rfl, hslot, hkind⟩ := inspects_map_iff.mp hinspects
  obtain ⟨hsame, hsubset⟩ := hcheckers other hother
  have hwanted : checker.kinds.contains slot.kind = true :=
    List.contains_iff_mem.mpr (hsubset (List.contains_iff_mem.mp hkind))
  have hends := succeeds_inspect_iff.mp hsucceeds checker.toChecker slot
    ⟨List.mem_singleton_self _, hslot, hwanted⟩
  show (other.inspect source slot.position).Succeeds
  rw [hsame]
  exact hends

/-- **Sections are independent.** Where a pass of a checker has a report, so has a pass with some
sections switched off, and it reports what the full pass does under the names of the others, in the
same order. And three checkers with one section each, listed in any order, have the same report as
the one with all sections. Edits belong to diagnostics, so the same holds of them. -/
theorem sections_are_independent (hprocessors : checker.processors = .builtIn) {fixing : Bool}
    {report : Report} (hreport : source.report [checker.toChecker] fixing = .ok report) :
    (∀ disabled : List Subject,
      source.report [(checker.disable disabled).toChecker] fixing =
        .ok (.ofDiagnostics fixing (report.diagnostics.filter fun diagnostic =>
          !(disabled.map Subject.origin).contains diagnostic.origin))) ∧
      ∀ subjects : List Subject, subjects.Perm [.file, .classLike, .function] →
        source.report (subjects.map fun subject => (checker.only subject).toChecker) fixing =
          .ok report := by
  obtain ⟨hsucceeds, rfl⟩ := report_eq_ok_iff.mp hreport
  have hfull : (source.inspect [checker.toChecker]).diagnostics =
      source.slots.flatMap (checker.reported source) :=
    diagnostics_inspect_singleton hsucceeds
  refine ⟨?_, ?_⟩
  · intro disabled
    have hsame : ∀ other ∈ [checker.disable disabled],
        other.inspect = checker.inspect ∧ other.kinds ⊆ checker.kinds := by
      intro other hother
      obtain rfl := List.mem_singleton.mp hother
      exact ⟨DocChecker.inspect_disable hprocessors disabled, DocChecker.kinds_disable_subset⟩
    have hends : (source.inspect [(checker.disable disabled).toChecker]).Succeeds :=
      succeeds_inspect_of_subset hsucceeds hsame
    refine report_eq_ok_iff.mpr ⟨hends, congrArg (Report.ofDiagnostics fixing) ?_⟩
    rw [Report.diagnostics_ofDiagnostics, hfull, diagnostics_inspect_singleton hends,
      List.filter_flatMap]
    apply List.flatMap_congr
    intro slot hslot
    exact (DocChecker.reported_disable hprocessors hslot disabled).symm
  · intro subjects hsubjects
    have hends :
        (source.inspect ((subjects.map checker.only).map DocChecker.toChecker)).Succeeds := by
      apply succeeds_inspect_of_subset hsucceeds
      intro other hother
      obtain ⟨subject, -, rfl⟩ := List.mem_map.mp hother
      exact ⟨DocChecker.inspect_only hprocessors subject, DocChecker.kinds_disable_subset⟩
    rw [show (subjects.map fun subject => (checker.only subject).toChecker) =
      (subjects.map checker.only).map DocChecker.toChecker by rw [List.map_map]; rfl]
    refine report_eq_ok_iff.mpr ⟨hends, congrArg (Report.ofDiagnostics fixing) ?_⟩
    rw [hfull, diagnostics_inspect hends]
    apply List.flatMap_congr
    intro slot _
    rw [List.flatMap_map]
    exact (DocChecker.flatMap_reported_only hprocessors hsubjects).symm

/-- A file with a class and a function, none of which has a comment. -/
def bareDeclarations : Source :=
  ⟨#[⟨.openTag, "<?php", 1, none, none, []⟩, ⟨.classKeyword, "class", 2, none, none, []⟩,
    ⟨.openCurly, "\x7b", 2, none, some 6, []⟩, ⟨.function, "function", 3, none, none, []⟩,
    ⟨.openParenthesis, "(", 3, none, some 5, []⟩, ⟨.closeParenthesis, ")", 3, some 4, none, []⟩,
    ⟨.closeCurly, "\x7d", 4, some 2, none, []⟩]⟩

/-- Each section reports one missing comment, together or apart. -/
theorem bareDeclarations_apart :
    ∃ report, bareDeclarations.report [(DocChecker.ofConfig {}).toChecker] true = .ok report ∧
      report.diagnostics.map Diagnostic.position = [1, 1, 3] ∧
      (∃ rest, bareDeclarations.report [((DocChecker.ofConfig {}).disable [.file]).toChecker] true =
          .ok (.ofDiagnostics true rest) ∧ rest = report.diagnostics.tail) ∧
      bareDeclarations.report ([.function, .file, .classLike].map fun subject =>
        ((DocChecker.ofConfig {}).only subject).toChecker) true = .ok report := by
  have hreport : bareDeclarations.report [(DocChecker.ofConfig {}).toChecker] true = .ok _ := rfl
  obtain ⟨hdisabled, honly⟩ := sections_are_independent rfl hreport
  exact ⟨_, hreport, rfl, ⟨_, hdisabled [.file], rfl⟩, honly _ (by decide)⟩

end Source

end DocLint

import DocLint.Proofs.Filing
import DocLint.Proofs.RepairedReview

/-!
# Repairs are exact

Edits repair what they are meant to repair and nothing else. Take a well-formed source and the
report of a pass over it, and apply any of the edits that the report asks for. Then a second pass
reports what the first one did, in the same order, except the diagnostics that were repaired: those
whose edit is aimed at a token that was edited. In particular no repair hides or brings about
another violation, and the order in which repairs are made does not matter.
-/

namespace DocLint

open Check

/-! ## Inspections -/

namespace DocChecker

variable {checker : DocChecker Check} {source source' : Source} {edits : List Edit}
variable (hsignatures : checker.signatures = .ofTokens ∨ checker.signatures.IgnoresTokens)
variable (hrewrites : source.Rewrites (Edit.Writes edits) source')

include hsignatures hrewrites

/-- What is left of a review. -/
theorem review_on {position : Int} {subject : Subject} {block block' : Block}
    (hdocuments : block.Documents source position subject)
    (hrepaired : Block.Repaired edits block block') :
    subject.review (checker.site source' position subject) .builtIn block' =
      (subject.review (checker.site source position subject) .builtIn block).without edits := by
  obtain ⟨token, hat, hsubject⟩ := hdocuments.declares
  obtain ⟨opener, hreads⟩ := hdocuments.reads
  have hsite : (checker.site source position subject).source.Alike source' := hrewrites.alike
  obtain ⟨hname, hparameters⟩ := Source.signature_eq hrewrites.namesAlike hsignatures position
  cases subject with
  | file =>
    exact eq_without (Review.file_on hsite hrepaired)
      (Review.edits_file Rule.editFree_builtIn)
  | classLike =>
    have hat' := declaration_on hrewrites hat hsubject
    have hanchor : source'.get position = source.get position :=
      (Source.get_eq_ok_iff.mpr hat').trans (Source.get_eq_ok_iff.mpr hat).symm
    exact eq_without (Review.classLike_on hsite hrepaired hanchor) Review.edits_classLike
  | function => exact Review.function_on hsite hrepaired hreads.stands hname hparameters

/-- **What is left of an inspection.** -/
theorem inspect_on (hwell : source.WellFormed) (hprocessors : checker.processors = .builtIn)
    (hmends : ∀ edit ∈ edits, edit.Mends source) (hforce : Edit.InForce source' edits) {slot : Slot}
    (hslot : slot ∈ source.slots) (hkind : checker.kinds.contains slot.kind = true)
    (hsucceeds : (checker.inspect source slot.position).Succeeds) :
    checker.inspect source' slot.position =
      (checker.inspect source slot.position).without edits := by
  rcases inspect_rel hrewrites (Source.token?_of_mem_slots hslot) hkind hsucceeds with
    ⟨subject, block, block', hdocuments, hdocuments', hblock⟩ | ⟨hsame, hedits⟩
  · obtain ⟨opener, hreads⟩ := hdocuments.reads
    obtain ⟨opener', hreads'⟩ := hdocuments'.reads
    have hrepaired := hreads.repaired hwell hrewrites hmends hforce hreads' hblock
    rw [inspect_eq_review hdocuments, inspect_eq_review hdocuments', hprocessors]
    exact review_on hsignatures hrewrites hdocuments hrepaired
  · exact eq_without hsame hedits

end DocChecker

/-! ## Passes -/

namespace Source

variable {source source' : Source} {checkers : List (DocChecker Check)} {edits : List Edit}

/-- What is left of a pass. -/
theorem inspect_eq_without (hwell : source.WellFormed)
    (hsignatures : ∀ checker ∈ checkers,
      checker.signatures = .ofTokens ∨ checker.signatures.IgnoresTokens)
    (hprocessors : ∀ checker ∈ checkers, checker.processors = .builtIn)
    (hrewrites : source.Rewrites (Edit.Writes edits) source')
    (hmends : ∀ edit ∈ edits, edit.Mends source) (hforce : Edit.InForce source' edits)
    (hsucceeds : (source.inspect (checkers.map DocChecker.toChecker)).Succeeds) :
    source'.inspect (checkers.map DocChecker.toChecker) =
      (source.inspect (checkers.map DocChecker.toChecker)).without edits := by
  have hends := succeeds_inspect_iff.mp hsucceeds
  rw [inspect, inspect]
  apply forM_eq_without hrewrites.slots_rel
  intro slot hslot slot' hrel
  rw [inspectSlot, inspectSlot]
  apply forM_eq_without (List.forall₂_eq_eq_eq ▸ rfl)
  intro checker hchecker checker' hsame
  subst hsame
  rw [hrel.kind_eq, hrel.position_eq]
  split
  · rename_i hkind
    obtain ⟨docChecker, hmem, rfl⟩ := List.mem_map.mp hchecker
    exact DocChecker.inspect_on (hsignatures docChecker hmem) hrewrites hwell
      (hprocessors docChecker hmem) hmends hforce hslot hkind
      (hends _ slot ⟨hchecker, hslot, hkind⟩)
  · rfl

/-- The edits of a report mend parameter tags. -/
theorem mends_of_mem_edits (hwell : source.WellFormed)
    (hprocessors : ∀ checker ∈ checkers, checker.processors = .builtIn)
    (hsucceeds : (source.inspect (checkers.map DocChecker.toChecker)).Succeeds) {edit : Edit}
    (hedit : edit ∈ (source.inspect (checkers.map DocChecker.toChecker)).edits) :
    edit.Mends source := by
  obtain ⟨position, block, hdocuments, hedit⟩ :=
    exists_comment_of_mem_edits hprocessors hsucceeds hedit
  obtain ⟨opener, hreads⟩ := hdocuments.reads
  exact Edit.mends_of_mem_spacingEdits hwell hreads hedit

end Source

/-- All edits of a report repair all that can be repaired. -/
theorem Report.repairedBy_edits {report : Report} (hbalanced : report.Balanced)
    (hfixing : report.fixing = true) {diagnostic : Diagnostic}
    (hdiagnostic : diagnostic ∈ report.diagnostics) :
    diagnostic.repairedBy report.edits = diagnostic.isFixable := by
  rw [Diagnostic.repairedBy, Diagnostic.isFixable]
  cases hedit : diagnostic.edit? with
  | none => rfl
  | some edit =>
    have hfixable : diagnostic ∈ report.fixable :=
      List.mem_filter.mpr ⟨hdiagnostic, by rw [Diagnostic.isFixable, hedit]; rfl⟩
    have hmem : some edit ∈ report.edits.map some := by
      rw [← hbalanced.wanted hfixing, ← hedit]
      exact List.mem_map_of_mem hfixable
    have hedits : edit ∈ report.edits := by simpa using hmem
    exact Edit.aimAt_eq_true_iff.mpr ⟨edit, hedits, rfl⟩

namespace Source

variable {source : Source} {checkers : List (DocChecker Check)} {report : Report}

/-- The edits that were chosen can be applied, and a pass over the result reports what is left. -/
theorem exists_report_of_chosen (hwell : source.WellFormed)
    (hsignatures : ∀ checker ∈ checkers,
      checker.signatures = .ofTokens ∨ checker.signatures.IgnoresTokens)
    (hprocessors : ∀ checker ∈ checkers, checker.processors = .builtIn)
    (hreport : source.report (checkers.map DocChecker.toChecker) true = .ok report)
    {chosen : List Edit} (hchosen : chosen ⊆ report.edits) :
    ∃ fixed, source.apply chosen = .ok fixed ∧
      ∀ fixing, fixed.report (checkers.map DocChecker.toChecker) fixing =
        .ok (.ofDiagnostics fixing
          (report.diagnostics.filter fun diagnostic => !diagnostic.repairedBy chosen)) := by
  obtain ⟨hsucceeds, rfl⟩ := report_eq_ok_iff.mp hreport
  have hmends : ∀ edit ∈ chosen, edit.Mends source :=
    fun edit hedit => mends_of_mem_edits hwell hprocessors hsucceeds (hchosen hedit)
  have hrespaces : ∀ edit ∈ chosen, edit.Respaces source :=
    fun edit hedit => respaces_of_mem_edits hprocessors hsucceeds (hchosen hedit)
  have hinside : Edit.Inside source.size chosen := fun edit hedit => (hmends edit hedit).bounds
  have hagree := Edit.agree_of_respaces hrespaces
  refine ⟨source.edited chosen, apply_eq_ok_iff.mpr ⟨⟨hinside, hagree⟩, rfl⟩, ?_⟩
  intro fixing
  have hleft := inspect_eq_without hwell hsignatures hprocessors (rewrites_edited hrespaces) hmends
    (inForce_edited hinside hagree) hsucceeds
  rw [report_eq_ok_iff, hleft]
  exact ⟨hsucceeds, rfl⟩

/-- **Repairs are exact.** For every well-formed source, every list of checkers with the built-in
checks of tags, and every choice among the edits that a pass asks for: the chosen edits can be
applied, and a pass over the result ends and reports exactly what the first pass did, except the
diagnostics whose edit is aimed at a token that was edited. Those that can be repaired carry the
edits of the report one by one, and all edits together leave exactly those that cannot. -/
theorem repairs_are_exact (hwell : source.WellFormed)
    (hsignatures : ∀ checker ∈ checkers,
      checker.signatures = .ofTokens ∨ checker.signatures.IgnoresTokens)
    (hprocessors : ∀ checker ∈ checkers, checker.processors = .builtIn)
    (hreport : source.report (checkers.map DocChecker.toChecker) true = .ok report) :
    report.fixable.map Diagnostic.edit? = report.edits.map some ∧
      (∀ chosen, chosen ⊆ report.edits → ∃ fixed, source.apply chosen = .ok fixed ∧
        ∀ fixing, fixed.report (checkers.map DocChecker.toChecker) fixing =
          .ok (.ofDiagnostics fixing (report.diagnostics.filter
            fun diagnostic => !diagnostic.repairedBy chosen))) ∧
      ∃ fixed, source.apply report.edits = .ok fixed ∧
        ∀ fixing, fixed.report (checkers.map DocChecker.toChecker) fixing =
          .ok (.ofDiagnostics fixing
            (report.diagnostics.filter fun diagnostic => !diagnostic.isFixable)) := by
  obtain ⟨hbalanced, hfixing⟩ : report.Balanced ∧ report.fixing = true := by
    rw [(report_eq_ok_iff.mp hreport).2]
    exact ⟨Report.balanced_ofDiagnostics _ _, rfl⟩
  refine ⟨hbalanced.wanted hfixing, ?_, ?_⟩
  · intro chosen hchosen
    exact exists_report_of_chosen hwell hsignatures hprocessors hreport hchosen
  · have hleft : (report.diagnostics.filter fun diagnostic => !diagnostic.repairedBy report.edits) =
        report.diagnostics.filter fun diagnostic => !diagnostic.isFixable := by
      apply List.filter_congr
      intro diagnostic hdiagnostic
      rw [Report.repairedBy_edits hbalanced hfixing hdiagnostic]
    rw [← hleft]
    exact exists_report_of_chosen hwell hsignatures hprocessors hreport (List.Subset.refl _)

/-- A function whose comment begins with a small letter and whose two parameter tags have wrong
blanks. -/
def twoWideParams : Source :=
  ⟨#[⟨.docOpen, "/**", 1, none, some 6, [2, 4]⟩, ⟨.docString, "adds.", 2, none, none, []⟩,
    ⟨.docTag, "@param", 4, none, none, []⟩,
    ⟨.docString, "int   $x  The first.", 4, none, none, []⟩,
    ⟨.docTag, "@param", 5, none, none, []⟩,
    ⟨.docString, "int  $y The second.", 5, none, none, []⟩,
    ⟨.docClose, "*/", 6, some 0, none, []⟩, ⟨.function, "function", 7, none, none, []⟩,
    ⟨.openParenthesis, "(", 7, none, some 12, []⟩, ⟨.variableName, "$x", 7, none, none, []⟩,
    ⟨.comma, ",", 7, none, none, []⟩, ⟨.variableName, "$y", 7, none, none, []⟩,
    ⟨.closeParenthesis, ")", 7, some 8, none, []⟩]⟩

/-- The source is well-formed, and repairing the second tag leaves the letter and the first tag. -/
theorem twoWideParams_partly_repaired :
    twoWideParams.WellFormed ∧ ∃ report fixed,
      twoWideParams.report [(DocChecker.ofConfig {}).toChecker] true = .ok report ∧
      report.edits = [⟨3, "int $x The first."⟩, ⟨3, "int $x The first."⟩,
        ⟨5, "int $y The second."⟩] ∧
      twoWideParams.apply [⟨5, "int $y The second."⟩] = .ok fixed ∧
      (report.diagnostics.filter fun diagnostic =>
        !diagnostic.repairedBy [⟨5, "int $y The second."⟩]).map Diagnostic.code =
          ["ShortNotCapital", "SpacingAfterParamType", "SpacingAfterParamName"] ∧
      fixed.report [(DocChecker.ofConfig {}).toChecker] false =
        .ok (.ofDiagnostics false (report.diagnostics.filter fun diagnostic =>
          !diagnostic.repairedBy [⟨5, "int $y The second."⟩])) := by
  have hwell : twoWideParams.WellFormed :=
    ⟨by decide +kernel, by decide +kernel, by decide +kernel, by decide +kernel, by decide +kernel,
      by decide +kernel, by decide +kernel⟩
  have hcheckers : ∀ checker ∈ [DocChecker.ofConfig {}],
      checker.signatures = .ofTokens ∧ checker.processors = .builtIn := by
    intro checker hchecker
    obtain rfl := List.mem_singleton.mp hchecker
    exact ⟨rfl, rfl⟩
  obtain ⟨report, hreport, hedits, hcodes⟩ : ∃ report,
      twoWideParams.report [(DocChecker.ofConfig {}).toChecker] true = .ok report ∧
      report.edits = [⟨3, "int $x The first."⟩, ⟨3, "int $x The first."⟩,
        ⟨5, "int $y The second."⟩] ∧
      (report.diagnostics.filter fun diagnostic =>
        !diagnostic.repairedBy [⟨5, "int $y The second."⟩]).map Diagnostic.code =
          ["ShortNotCapital", "SpacingAfterParamType", "SpacingAfterParamName"] :=
    ⟨_, rfl, rfl, rfl⟩
  have hexact := repairs_are_exact hwell
    (fun checker hchecker => Or.inl (hcheckers checker hchecker).1)
    (fun checker hchecker => (hcheckers checker hchecker).2) hreport
  obtain ⟨fixed, hfixed, hleft⟩ := hexact.2.1 [⟨5, "int $y The second."⟩] (by simp [hedits])
  exact ⟨hwell, report, fixed, hreport, hedits, hfixed, hcodes, hleft false⟩

end Source

end DocLint

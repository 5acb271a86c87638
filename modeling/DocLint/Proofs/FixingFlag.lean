import DocLint.Proofs.EditScope
import DocLint.Proofs.OwnPlaces

/-!
# Asking for fixes

Whether edits are wanted makes no difference to what is found: the two reports of a source have the
same diagnostics, or both passes break off with the same fault. Where edits are wanted, they are
those of the diagnostics that can be repaired, one for each and in order. Each of them belongs to a
parameter tag: the tag is blamed, and the text on its line is written again with single blanks.

Two passes are compared by following what one pass files. At every point it is determined by the
diagnostics that the report holds by then, and these are the same in both passes, while the edits
are not. This is where rules are shown to mind neither the flag nor the fate of an edit.

It takes checks of single tags that do not mind either, such as the built-in ones: one that asks
whether edits are wanted can find more or less. And it takes checks that queue no edits for every
edit to belong to a parameter tag: one that does can have any text rewritten.
-/

namespace DocLint

/-- What an audit files is of a certain sort, if the audit ends. Of all that the report holds, only
the diagnostics make a difference to the audit. -/
def Audit.Files (allowed : Diagnostic → Prop) {α : Type} (audit : Audit α) : Prop :=
  ∀ diagnostics, ∃ check : Check α,
    (check.Succeeds → ∀ diagnostic ∈ check.diagnostics, allowed diagnostic) ∧
      ∀ fixing edits, Reporting.run audit ⟨fixing, diagnostics, edits⟩ =
        Reporting.run check.perform ⟨fixing, diagnostics, edits⟩

namespace Audit

variable {allowed : Diagnostic → Prop} {α : Type}

theorem Files.mono {allowed' : Diagnostic → Prop} {audit : Audit α} (hfiles : audit.Files allowed)
    (hallowed : ∀ diagnostic, allowed diagnostic → allowed' diagnostic) : audit.Files allowed' := by
  intro diagnostics
  obtain ⟨check, hcheck, hrun⟩ := hfiles diagnostics
  exact ⟨check, fun hsucceeds diagnostic hmem => hallowed diagnostic (hcheck hsucceeds _ hmem),
    hrun⟩

/-- What one audit after the other files. The second one goes on from the diagnostics that the first
one leaves. -/
theorem Files.bind {β : Type} {audit : Audit α} {next : α → Audit β} (haudit : audit.Files allowed)
    (hnext : ∀ value, (next value).Files allowed) : (audit >>= next).Files allowed := by
  intro diagnostics
  obtain ⟨first, hfirst, hrun⟩ := haudit diagnostics
  rcases first with ⟨filed, fault | value⟩
  · refine ⟨⟨filed, .error fault⟩, ?_, fun fixing edits => ?_⟩
    · rintro ⟨_, hends⟩
      cases hends
    · rw [run_bind, hrun]
      rfl
  · obtain ⟨second, hsecond, hrest⟩ := hnext value (diagnostics ++ filed)
    refine ⟨⟨filed ++ second.diagnostics, second.outcome⟩, ?_, fun fixing edits => ?_⟩
    · intro hsucceeds diagnostic hmem
      rcases List.mem_append.mp hmem with hmem | hmem
      · exact hfirst ⟨value, rfl⟩ diagnostic hmem
      · exact hsecond hsucceeds diagnostic hmem
    · rw [run_bind, hrun, Check.run_perform, Check.run_perform, Report.fileAll_append,
        Report.fileAll_eq]
      exact hrest fixing _

end Audit

namespace Source

variable {checkers : List (DocChecker Audit)} {source : Source} {allowed : Diagnostic → Prop}

end Source

/-! ## Checks that do not only report -/

namespace Source

end Source

end DocLint

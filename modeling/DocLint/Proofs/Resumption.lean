import DocLint.Proofs.OnePass

/-!
# Fixing in instalments

Fixing repeats passes until one asks for no edits. Seen apart from its stop test it is an iteration:
a pass over a settled source leaves it as it is, so the passes that the budget still allows change
nothing more. This module states what follows for arbitrary checkers, which may go on asking for
edits as long as they like: a budget can be spent in instalments, the last report is that of the
source that is returned, and a budget that was large enough can be raised without effect. Passes
write new texts and nothing else.
-/

namespace DocLint

namespace Source

variable {checkers : List (Checker Check)} {source next fixed : Source} {report : Report}
  {budget : Nat}

/-! ## Passes -/

/-- The source after one pass and the edits that it asks for. -/
def pass (source : Source) (checkers : List (Checker Check)) : Except Fault Source := do
  let report ← source.report checkers true
  source.apply report.edits

/-- The source after a number of passes. -/
def afterPasses (checkers : List (Checker Check)) : (passes : Nat) → Source → Except Fault Source
  | 0, source => .ok source
  | passes + 1, source => source.pass checkers >>= afterPasses checkers passes

/-- One of the passes that the budget allows asks for no edits. -/
def SettlesWithin (source : Source) (checkers : List (Checker Check)) (budget : Nat) : Prop :=
  ∃ passes < budget, ∃ settled,
    afterPasses checkers passes source = .ok settled ∧ settled.Settled checkers

theorem pass_eq_ok_iff :
    source.pass checkers = .ok next ↔
      (source.inspect checkers).Succeeds ∧
        source.apply (source.inspect checkers).edits = .ok next := by
  unfold pass
  rw [except_bind_eq_ok_iff]
  refine ⟨fun ⟨report, hreport, happly⟩ => ?_, fun ⟨hsucceeds, happly⟩ => ?_⟩
  · obtain ⟨hsucceeds, rfl⟩ := report_eq_ok_iff.mp hreport
    exact ⟨hsucceeds, happly⟩
  · exact ⟨_, report_eq_ok_iff.mpr ⟨hsucceeds, rfl⟩, happly⟩

/-- A pass leaves a settled source as it is. -/
theorem Settled.pass_eq (hsettled : source.Settled checkers) :
    source.pass checkers = .ok source := by
  obtain ⟨hsucceeds, hedits⟩ := hsettled
  rw [pass_eq_ok_iff, hedits]
  exact ⟨hsucceeds, apply_eq_ok_iff.mpr ⟨by simp [Edit.Inside, Edit.Agree], (edited_nil _).symm⟩⟩

/-- And so do any number of passes. -/
theorem Settled.afterPasses_eq (hsettled : source.Settled checkers) (passes : Nat) :
    afterPasses checkers passes source = .ok source := by
  induction passes with
  | zero => rfl
  | succ passes ih =>
    unfold afterPasses
    rw [hsettled.pass_eq]
    exact ih

/-- **A pass writes new texts and nothing else.** -/
theorem alike_pass (hpass : source.pass checkers = .ok next) : source.Alike next := by
  obtain ⟨-, happly⟩ := pass_eq_ok_iff.mp hpass
  obtain ⟨-, rfl⟩ := apply_eq_ok_iff.mp happly
  exact alike_edited source _

theorem alike_afterPasses {passes : Nat} (hafter : afterPasses checkers passes source = .ok fixed) :
    source.Alike fixed := by
  induction passes generalizing source with
  | zero =>
    obtain rfl := Except.ok.inj hafter
    exact Alike.refl source
  | succ passes ih =>
    obtain ⟨next, hpass, hafter⟩ := except_bind_eq_ok_iff.mp hafter
    exact (alike_pass hpass).trans (ih hafter)

/-! ## One round of the loop -/

/-- A source that is settled is returned. -/
theorem Settled.fix_succ (hsettled : source.Settled checkers)
    (hreport : source.report checkers true = .ok report) (budget : Nat) :
    fix checkers (budget + 1) source = .ok (source, report) := by
  obtain ⟨clean, hclean, hedits, -⟩ := hsettled.exists_report true
  obtain rfl := Except.ok.inj (hreport.symm.trans hclean)
  unfold fix
  rw [hreport]
  simp [bind, Except.bind, pure, Except.pure, hedits]

/-- Any other source is passed on. -/
theorem fix_succ_of_not_settled (hunsettled : ¬source.Settled checkers) (budget : Nat) :
    fix checkers (budget + 1) source = source.pass checkers >>= fix checkers budget := by
  unfold fix pass
  cases hreport : source.report checkers true with
  | error fault => rfl
  | ok report =>
    obtain ⟨hsucceeds, rfl⟩ := report_eq_ok_iff.mp hreport
    have hedits : (Report.ofDiagnostics true (source.inspect checkers).diagnostics).edits ≠ [] :=
      fun hnone => hunsettled ⟨hsucceeds, hnone⟩
    simp [bind, Except.bind, hedits]

/-- A fault of the first pass is the fault of fixing, whatever the budget. -/
theorem fix_eq_error {fault : Fault} (hfault : (source.inspect checkers).outcome = .error fault)
    (budget : Nat) : fix checkers budget source = .error fault := by
  have hreport : ∀ fixing, source.report checkers fixing = .error fault :=
    fun fixing => by rw [report_eq_map, hfault]; rfl
  cases budget with
  | zero =>
    unfold fix
    rw [hreport]
    rfl
  | succ budget =>
    unfold fix
    rw [hreport]
    rfl

theorem not_settlesWithin_zero : ¬source.SettlesWithin checkers 0 :=
  fun ⟨_, hpasses, _⟩ => absurd hpasses (Nat.not_lt_zero _)

theorem Settled.settlesWithin_succ (hsettled : source.Settled checkers) (budget : Nat) :
    source.SettlesWithin checkers (budget + 1) :=
  ⟨0, Nat.succ_pos budget, source, rfl, hsettled⟩

/-- A source that is not settled settles later if the source after a pass does. -/
theorem settlesWithin_succ_iff (hunsettled : ¬source.Settled checkers)
    (hpass : source.pass checkers = .ok next) :
    source.SettlesWithin checkers (budget + 1) ↔ next.SettlesWithin checkers budget := by
  have hstep : ∀ passes, afterPasses checkers (passes + 1) source =
      afterPasses checkers passes next := by
    intro passes
    rw [afterPasses, hpass]
    rfl
  refine ⟨fun ⟨passes, hpasses, settled, hafter, hsettled⟩ => ?_,
    fun ⟨passes, hpasses, settled, hafter, hsettled⟩ => ?_⟩
  · cases passes with
    | zero =>
      obtain rfl := Except.ok.inj hafter
      exact absurd hsettled hunsettled
    | succ passes =>
      exact ⟨passes, Nat.lt_of_succ_lt_succ hpasses, settled, hstep passes ▸ hafter, hsettled⟩
  · exact ⟨passes + 1, Nat.succ_lt_succ hpasses, settled, (hstep passes).trans hafter, hsettled⟩

/-! ## The whole loop -/

/-- A budget can be spent in instalments, faults included. -/
theorem map_fst_fix_add (first second : Nat) (source : Source) :
    (fix checkers (first + second) source).map Prod.fst =
      fix checkers first source >>= fun result =>
        (fix checkers second result.1).map Prod.fst := by
  induction first generalizing source with
  | zero =>
    rw [Nat.zero_add]
    cases houtcome : (source.inspect checkers).outcome with
    | error fault =>
      rw [fix_eq_error houtcome, fix_eq_error houtcome]
      rfl
    | ok value =>
      unfold fix
      rw [report_eq_ok_iff.mpr ⟨⟨value, houtcome⟩, rfl⟩]
      rfl
  | succ first ih =>
    rw [Nat.succ_add]
    by_cases hsettled : source.Settled checkers
    · obtain ⟨report, hreport, -⟩ := hsettled.exists_report true
      obtain ⟨last, hlast, -⟩ := hsettled.exists_fix second
      rw [hsettled.fix_succ hreport, hsettled.fix_succ hreport]
      exact (congrArg (Except.map Prod.fst) hlast).symm
    · rw [fix_succ_of_not_settled hsettled, fix_succ_of_not_settled hsettled]
      cases source.pass checkers with
      | error fault => rfl
      | ok next => exact ih next

/-- The source that is returned, and its report. -/
theorem report_of_fix {last : Report} (hfix : fix checkers budget source = .ok (fixed, last)) :
    afterPasses checkers budget source = .ok fixed ∧
      fixed.report checkers last.fixing = .ok last ∧
      (last.fixing = true ↔ source.SettlesWithin checkers budget) := by
  induction budget generalizing source with
  | zero =>
    obtain ⟨report, hreport, hresult⟩ := except_bind_eq_ok_iff.mp hfix
    obtain ⟨rfl, rfl⟩ := Prod.mk.inj (Except.ok.inj hresult)
    obtain ⟨-, rfl⟩ := report_eq_ok_iff.mp hreport
    exact ⟨rfl, hreport, by simp [not_settlesWithin_zero]⟩
  | succ budget ih =>
    by_cases hsettled : source.Settled checkers
    · obtain ⟨report, hreport, -⟩ := hsettled.exists_report true
      rw [hsettled.fix_succ hreport] at hfix
      obtain ⟨rfl, rfl⟩ := Prod.mk.inj (Except.ok.inj hfix)
      obtain ⟨-, rfl⟩ := report_eq_ok_iff.mp hreport
      exact ⟨hsettled.afterPasses_eq _, hreport,
        iff_of_true rfl (hsettled.settlesWithin_succ budget)⟩
    · rw [fix_succ_of_not_settled hsettled] at hfix
      obtain ⟨next, hpass, hfix⟩ := except_bind_eq_ok_iff.mp hfix
      rw [afterPasses, hpass, settlesWithin_succ_iff hsettled hpass]
      exact ih hfix

/-- A budget within which the source settles can be raised without effect. -/
theorem SettlesWithin.exists_result (hsettles : source.SettlesWithin checkers budget) :
    ∃ result, ∀ larger, budget ≤ larger → fix checkers larger source = .ok result := by
  induction budget generalizing source with
  | zero => exact absurd hsettles not_settlesWithin_zero
  | succ budget ih =>
    have hlarger : ∀ larger, budget + 1 ≤ larger → ∃ more, larger = more + 1 ∧ budget ≤ more :=
      fun larger hle => ⟨larger - 1, by omega, by omega⟩
    by_cases hsettled : source.Settled checkers
    · obtain ⟨report, hreport, -⟩ := hsettled.exists_report true
      refine ⟨(source, report), fun larger hle => ?_⟩
      obtain ⟨more, rfl, -⟩ := hlarger larger hle
      exact hsettled.fix_succ hreport more
    · -- The source settles only after its first pass, so that pass ends.
      obtain ⟨next, hpass⟩ : ∃ next, source.pass checkers = .ok next := by
        obtain ⟨passes, -, settled, hafter, hend⟩ := hsettles
        cases passes with
        | zero =>
          obtain rfl := Except.ok.inj hafter
          exact absurd hend hsettled
        | succ passes =>
          obtain ⟨next, hpass, -⟩ := except_bind_eq_ok_iff.mp hafter
          exact ⟨next, hpass⟩
      obtain ⟨result, hresult⟩ := ih ((settlesWithin_succ_iff hsettled hpass).mp hsettles)
      refine ⟨result, fun larger hle => ?_⟩
      obtain ⟨more, rfl, hmore⟩ := hlarger larger hle
      rw [fix_succ_of_not_settled hsettled, hpass]
      exact hresult more hmore

/-- **Fixing can be resumed.** For every source and all checkers: a budget can be spent in two
instalments, with the same source in the end or the same fault. The source that is returned is that
after as many passes as the budget allows, and the report with it is its own, opened for fixing
exactly if a pass within the budget asked for no edits. From such a budget on, every budget gives
the same source and report. Every pass writes new texts and nothing else. -/
theorem fixing_resumes (checkers : List (Checker Check)) (source : Source) :
    (∀ first second, (fix checkers (first + second) source).map Prod.fst =
        fix checkers first source >>= fun result =>
          (fix checkers second result.1).map Prod.fst) ∧
      (∀ budget fixed last, fix checkers budget source = .ok (fixed, last) →
        afterPasses checkers budget source = .ok fixed ∧
          fixed.report checkers last.fixing = .ok last ∧
          (last.fixing = true ↔ source.SettlesWithin checkers budget)) ∧
      (∀ budget, source.SettlesWithin checkers budget →
        ∃ result, ∀ larger, budget ≤ larger → fix checkers larger source = .ok result) ∧
      (∀ passes before after, afterPasses checkers passes source = .ok before →
        before.pass checkers = .ok after → source.Alike before ∧ before.Alike after) := by
  refine ⟨fun first second => map_fst_fix_add first second source, ?_, ?_, ?_⟩
  · exact fun budget fixed last hfix => report_of_fix hfix
  · exact fun budget hsettles => hsettles.exists_result
  · exact fun passes before after hafter hpass => ⟨alike_afterPasses hafter, alike_pass hpass⟩

end Source

/-- Asks for one more letter as long as an identifier is shorter than the limit. -/
def Checker.lengthen (limit : Nat) : Checker Check where
  kinds := [.identifier]
  inspect source position := do
    let token ← Check.ofExcept (source.get position)
    if token.content.length < limit then
      Check.post source ⟨.error, "Too short", position, "Short", [], "",
        some ⟨position, token.content ++ "x"⟩⟩
    else .done ()

/-- A single identifier. -/
def Source.oneIdentifier (name : String) : Source :=
  ⟨#[⟨.identifier, name, 1, none, none, []⟩]⟩

/-- Three passes are needed to see that the identifier is long enough. With two it is long enough,
but the report was not opened for fixing. -/
theorem lengthen_resumes :
    Source.fix [.lengthen 3] 2 (.oneIdentifier "a") = .ok (.oneIdentifier "axx", .empty false) ∧
      (Source.oneIdentifier "a").SettlesWithin [.lengthen 3] 3 ∧
      ¬(Source.oneIdentifier "a").SettlesWithin [.lengthen 3] 2 ∧
      ∃ result, ∀ larger, 3 ≤ larger →
        Source.fix [.lengthen 3] larger (.oneIdentifier "a") = .ok result := by
  obtain ⟨-, hreport, hraise, -⟩ := Source.fixing_resumes [.lengthen 3] (.oneIdentifier "a")
  have htwo : Source.fix [.lengthen 3] 2 (.oneIdentifier "a") =
      .ok (.oneIdentifier "axx", .empty false) := rfl
  have hthree : (Source.oneIdentifier "a").SettlesWithin [.lengthen 3] 3 :=
    ⟨2, by decide, .oneIdentifier "axx", rfl, ⟨(), rfl⟩, rfl⟩
  refine ⟨htwo, hthree, fun hsettles => ?_, hraise 3 hthree⟩
  have hfixing := (hreport 2 _ _ htwo).2.2.mpr hsettles
  cases hfixing

end DocLint

import DocLint.Report

/-!
# Checks

A check gives notice of what it finds and either ends with a value or breaks off with a fault. What
it has found before a fault stays found.

A check can be carried out in two ways. As an `Audit` it works on a report: it files what it finds,
learns whether an edit was queued, and may look at the report at any time. As a `Check` it works for
itself: what it finds is written down in order, no edit is ever queued, and the report that it may
look at is empty. The rules of this library are written for both ways at once, in terms of
`Reporting`.

A `Check` never sees what other checks have found, nor whether edits are wanted. So the diagnostics
of checks in sequence are those of the parts one after the other, and a check finds the same
whatever has been found before. That the rules do no more as audits than as checks is a property of
the rules, not of their type.
-/

namespace DocLint

/-- Diagnostics and an outcome. -/
structure Check (α : Type) where
  /-- What has been found, in order. -/
  diagnostics : List Diagnostic
  /-- How the check ended. -/
  outcome : Except Fault α

/-- A check that is carried out on a report. What it has filed stays filed when it breaks off. -/
abbrev Audit := ExceptT Fault (StateM Report)

/-- What a check can do. -/
class Reporting (m : Type → Type) where
  /-- Goes on with a value or breaks off with a fault. -/
  ofExcept {α : Type} (result : Except Fault α) : m α
  /-- Gives notice of something; the answer is whether an edit was queued. -/
  post (source : Source) (notice : Notice) : m Bool
  /-- Looks at the report. -/
  look : m Report
  /-- Carries the check out on a report. -/
  run {α : Type} (check : m α) (report : Report) : Except Fault α × Report

namespace Check

/-- The check that finds nothing. -/
def done {α : Type} (value : α) : Check α :=
  ⟨[], .ok value⟩

/-- The check that breaks off. -/
def fail {α : Type} (fault : Fault) : Check α :=
  ⟨[], .error fault⟩

/-- One check after the other. -/
def andThen {α β : Type} (first : Check α) (next : α → Check β) : Check β :=
  match first.outcome with
  | .error fault => ⟨first.diagnostics, .error fault⟩
  | .ok value => ⟨first.diagnostics ++ (next value).diagnostics, (next value).outcome⟩

instance : Monad Check where
  pure := done
  bind := andThen

/-- The check that reports one diagnostic. -/
def found (diagnostic : Diagnostic) : Check Unit :=
  ⟨[diagnostic], .ok ()⟩

/-- Files what the check finds. -/
def perform {α : Type} (check : Check α) : Audit α :=
  ExceptT.mk fun report => (check.outcome, report.fileAll check.diagnostics)

end Check

/-- Where nothing else is said, checks are carried out for themselves. -/
@[default_instance]
instance : Reporting Check where
  ofExcept result := ⟨[], result⟩
  post source notice :=
    match notice.diagnostic source with
    | .ok diagnostic => ⟨[diagnostic], .ok false⟩
    | .error fault => ⟨[], .error fault⟩
  look := .done (.empty false)
  run check report := check.perform report

instance : Reporting Audit where
  ofExcept result := ExceptT.mk (pure result)
  post source notice := ExceptT.mk fun report =>
    let (posted, after) := report.post Template.fill source notice
    (posted.map fun diagnostic => report.fixing && diagnostic.isFixable, after)
  look := get
  run audit report := audit report

namespace Check

variable {m : Type → Type} [Reporting m]

/-- A step that can only fail. -/
def ofExcept {α : Type} (result : Except Fault α) : m α :=
  Reporting.ofExcept result

/-- A value that has to be there. -/
def require {α : Type} (value? : Option α) (fault : Fault) : m α :=
  match value? with
  | some value => ofExcept (.ok value)
  | none => ofExcept (.error fault)

/-- Gives notice of something, whatever becomes of its edit. -/
def post [Monad m] (source : Source) (notice : Notice) : m Unit := do
  let _queued ← Reporting.post source notice

/-! ## Laws -/

@[simp]
theorem pure_eq {α : Type} (value : α) : (pure value : Check α) = ⟨[], .ok value⟩ := rfl

@[simp]
theorem bind_ok {α β : Type} (diagnostics : List Diagnostic) (value : α) (next : α → Check β) :
    (⟨diagnostics, .ok value⟩ : Check α) >>= next =
      ⟨diagnostics ++ (next value).diagnostics, (next value).outcome⟩ := rfl

@[simp]
theorem bind_error {α β : Type} (diagnostics : List Diagnostic) (fault : Fault)
    (next : α → Check β) :
    (⟨diagnostics, .error fault⟩ : Check α) >>= next = ⟨diagnostics, .error fault⟩ := rfl

/-- A sequence of checks ends well exactly when both parts do. -/
theorem bind_outcome_eq_ok {α β : Type} {check : Check α} {next : α → Check β} {result : β} :
    (check >>= next).outcome = .ok result ↔
      ∃ value, check.outcome = .ok value ∧ (next value).outcome = .ok result := by
  rcases check with ⟨diagnostics, _ | value⟩ <;> simp

theorem map_id_eq {α : Type} (check : Check α) : id <$> check = check := by
  rcases check with ⟨diagnostics, _ | value⟩
  · rfl
  · show Check.mk (diagnostics ++ []) (.ok value) = _
    rw [List.append_nil]

theorem bind_assoc_eq {α β γ : Type} (check : Check α) (next : α → Check β) (last : β → Check γ) :
    check >>= next >>= last = check >>= fun value => next value >>= last := by
  rcases check with ⟨diagnostics, _ | value⟩
  · rfl
  · rw [bind_ok, bind_ok]
    rcases next value with ⟨more, _ | result⟩ <;> simp

instance : LawfulMonad Check :=
  LawfulMonad.mk' Check map_id_eq (fun _ _ => rfl) bind_assoc_eq

/-- A notice given is a diagnostic found, or a fault. -/
theorem post_eq (source : Source) (notice : Notice) :
    post source notice =
      match notice.diagnostic source with
      | .ok diagnostic => found diagnostic
      | .error fault => fail fault := by
  unfold post
  simp only [Reporting.post]
  cases notice.diagnostic source <;> rfl

end Check

end DocLint

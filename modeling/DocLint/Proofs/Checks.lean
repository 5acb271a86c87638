import DocLint.Proofs.Search
import DocLint.Proofs.Wording

/-!
# What becomes of checks in sequence

Three questions are asked of a check again and again: whether it ends with a value, what it has
found then, and which edits its diagnostics carry. They are answered part by part, and this module
says how. It also answers them for the two ways in which a rule speaks up, `Site.expect` and
`Site.expectOrEdit`: they fail only where no token stands, and only the second one ever carries an
edit.
-/

namespace DocLint

namespace Check

variable {α β : Type}

/-- A value that is there is passed on. -/
theorem require_some_bind (value : α) (fault : Fault) (next : α → Check β) :
    require (some value) fault >>= next = next value :=
  pure_bind value next

/-- So is the value of a step that ended well. -/
theorem ofExcept_ok_bind (value : α) (next : α → Check β) :
    ofExcept (.ok value) >>= next = next value :=
  pure_bind value next

/-- And so is the value of a check that finds nothing. -/
theorem done_bind (value : α) (next : α → Check β) : done value >>= next = next value :=
  pure_bind value next

/-- A step that broke off is the end. -/
theorem ofExcept_error_bind (fault : Fault) (next : α → Check β) :
    ofExcept (.error fault) >>= next = fail fault := rfl

/-! ## Finding nothing -/

/-- A sequence finds nothing exactly when its parts find nothing. -/
theorem bind_eq_done_iff {check : Check α} {next : α → Check β} {result : β} :
    check >>= next = done result ↔ ∃ value, check = done value ∧ next value = done result := by
  rcases check with ⟨diagnostics, fault | value⟩
  · simp [done]
  · rcases hnext : next value with ⟨more, outcome⟩
    simp only [done, bind_ok, hnext, Check.mk.injEq, List.append_eq_nil_iff, Except.ok.injEq]
    refine ⟨?_, ?_⟩
    · rintro ⟨⟨rfl, rfl⟩, rfl⟩
      exact ⟨value, ⟨rfl, rfl⟩, hnext⟩
    · rintro ⟨_, ⟨rfl, rfl⟩, hresult⟩
      rw [hnext, Check.mk.injEq] at hresult
      exact ⟨⟨rfl, hresult.1⟩, hresult.2⟩

/-- The same where the first part has no value of interest. -/
theorem seq_eq_done_iff {check : Check Unit} {next : Unit → Check β} {result : β} :
    check >>= next = done result ↔ check = done () ∧ next () = done result :=
  bind_eq_done_iff.trans ⟨fun ⟨_, hcheck, hnext⟩ => ⟨hcheck, hnext⟩, fun hboth => ⟨(), hboth⟩⟩

/-- A loop finds nothing exactly when its body finds nothing for every item. -/
theorem forM_eq_done_iff {items : List α} {body : α → Check Unit} :
    items.forM body = done () ↔ ∀ item ∈ items, body item = done () := by
  induction items with
  | nil => exact iff_of_true rfl (fun _ hmem => absurd hmem List.not_mem_nil)
  | cons item items ih =>
    have hunfold : (item :: items).forM body = body item >>= fun _ => items.forM body := rfl
    rw [hunfold, seq_eq_done_iff, List.forall_mem_cons, ih]

/-! ## Ending with a value -/

/-- The check ends with a value. -/
def Succeeds (check : Check α) : Prop :=
  ∃ value, check.outcome = .ok value

theorem succeeds_done (value : α) : (done value).Succeeds := ⟨value, rfl⟩

theorem succeeds_found (diagnostic : Diagnostic) : (found diagnostic).Succeeds := ⟨(), rfl⟩

/-- A check without a value of interest succeeds exactly when it ends well. -/
theorem succeeds_iff_outcome {check : Check Unit} : check.Succeeds ↔ check.outcome = .ok () :=
  ⟨fun ⟨_, hvalue⟩ => hvalue, fun houtcome => ⟨(), houtcome⟩⟩

/-- A sequence succeeds exactly when its first part does and the rest does with the value found. -/
theorem succeeds_bind_iff {check : Check α} {next : α → Check β} :
    (check >>= next).Succeeds ↔ ∃ value, check.outcome = .ok value ∧ (next value).Succeeds := by
  refine ⟨?_, ?_⟩
  · rintro ⟨result, hresult⟩
    obtain ⟨value, hvalue, hnext⟩ := bind_outcome_eq_ok.mp hresult
    exact ⟨value, hvalue, result, hnext⟩
  · rintro ⟨value, hvalue, result, hresult⟩
    exact ⟨result, bind_outcome_eq_ok.mpr ⟨value, hvalue, hresult⟩⟩

/-- A sequence succeeds if its parts do, whatever value the first one ends with. -/
theorem Succeeds.bind {check : Check α} {next : α → Check β} (hcheck : check.Succeeds)
    (hnext : ∀ value, check.outcome = .ok value → (next value).Succeeds) :
    (check >>= next).Succeeds := by
  obtain ⟨value, hvalue⟩ := hcheck
  exact succeeds_bind_iff.mpr ⟨value, hvalue, hnext value hvalue⟩

/-- A loop succeeds exactly when its body does for every item. -/
theorem succeeds_forM_iff {items : List α} {body : α → Check Unit} :
    (items.forM body).Succeeds ↔ ∀ item ∈ items, (body item).Succeeds := by
  induction items with
  | nil => exact iff_of_true (succeeds_done ()) (fun _ hmem => absurd hmem List.not_mem_nil)
  | cons item items ih =>
    have hunfold : (item :: items).forM body = body item >>= fun _ => items.forM body := rfl
    rw [hunfold, succeeds_bind_iff, List.forall_mem_cons, ← ih]
    refine ⟨fun ⟨value, hvalue, hrest⟩ => ⟨⟨value, hvalue⟩, hrest⟩, ?_⟩
    rintro ⟨⟨value, hvalue⟩, hrest⟩
    exact ⟨value, hvalue, hrest⟩

/-! ## Diagnostics -/

/-- A check that ends well accepts exactly when it reports nothing. -/
theorem eq_done_iff_of_succeeds {check : Check Unit} (hcheck : check.Succeeds) :
    check = done () ↔ check.diagnostics = [] := by
  rcases check with ⟨diagnostics, outcome⟩
  obtain rfl : outcome = .ok () := succeeds_iff_outcome.mp hcheck
  refine ⟨congrArg Check.diagnostics, ?_⟩
  rintro rfl
  rfl

/-- What a sequence that goes on has found. -/
theorem diagnostics_bind {check : Check α} {next : α → Check β} {value : α}
    (hvalue : check.outcome = .ok value) :
    (check >>= next).diagnostics = check.diagnostics ++ (next value).diagnostics := by
  rcases check with ⟨diagnostics, outcome⟩
  obtain rfl : outcome = .ok value := hvalue
  rfl

/-- Whatever a sequence finds, one of its parts finds. -/
theorem mem_diagnostics_bind {check : Check α} {next : α → Check β} {diagnostic : Diagnostic}
    (hdiagnostic : diagnostic ∈ (check >>= next).diagnostics) :
    diagnostic ∈ check.diagnostics ∨
      ∃ value, check.outcome = .ok value ∧ diagnostic ∈ (next value).diagnostics := by
  rcases check with ⟨diagnostics, fault | value⟩
  · exact Or.inl hdiagnostic
  · rcases List.mem_append.mp hdiagnostic with hfirst | hlater
    · exact Or.inl hfirst
    · exact Or.inr ⟨value, rfl, hlater⟩

/-- Whatever a loop finds, its body finds for some item. -/
theorem exists_of_mem_diagnostics_forM {items : List α} {body : α → Check Unit}
    {diagnostic : Diagnostic} (hdiagnostic : diagnostic ∈ (items.forM body).diagnostics) :
    ∃ item ∈ items, diagnostic ∈ (body item).diagnostics := by
  induction items with
  | nil => cases hdiagnostic
  | cons item items ih =>
    rcases mem_diagnostics_bind hdiagnostic with hfirst | ⟨-, -, hlater⟩
    · exact ⟨item, List.mem_cons_self, hfirst⟩
    · obtain ⟨other, hother, hbody⟩ := ih hlater
      exact ⟨other, List.mem_cons_of_mem item hother, hbody⟩

/-- What a loop that ends has found, item by item. -/
theorem diagnostics_forM {items : List α} {body : α → Check Unit}
    (hloop : (items.forM body).Succeeds) :
    (items.forM body).diagnostics = items.flatMap fun item => (body item).diagnostics := by
  induction items with
  | nil => rfl
  | cons item items ih =>
    have hunfold : (item :: items).forM body = body item >>= fun _ => items.forM body := rfl
    rw [hunfold] at hloop ⊢
    obtain ⟨value, hvalue, hrest⟩ := succeeds_bind_iff.mp hloop
    rw [diagnostics_bind hvalue, ih hrest, List.flatMap_cons]

/-! ## Edits -/

/-- The edits that the diagnostics of a check carry, in order. -/
def edits (check : Check α) : List Edit :=
  check.diagnostics.filterMap Diagnostic.edit?

@[simp]
theorem edits_done (value : α) : (done value).edits = [] := rfl

@[simp]
theorem edits_pure (value : α) : (pure value : Check α).edits = [] := rfl

@[simp]
theorem edits_ofExcept (result : Except Fault α) : (ofExcept result).edits = [] := rfl

@[simp]
theorem edits_require (value? : Option α) (fault : Fault) : (require value? fault).edits = [] := by
  cases value? <;> rfl

/-- The edits of a sequence are those of its parts. -/
theorem edits_bind {check : Check α} {next : α → Check β} {value : α}
    (hvalue : check.outcome = .ok value) :
    (check >>= next).edits = check.edits ++ (next value).edits := by
  rcases check with ⟨diagnostics, outcome⟩
  simp only at hvalue
  subst hvalue
  simp only [edits, bind_ok, List.filterMap_append]

/-- A sequence carries no edits if its parts carry none. -/
theorem edits_bind_eq_nil {check : Check α} {next : α → Check β} (hcheck : check.edits = [])
    (hnext : ∀ value, (next value).edits = []) : (check >>= next).edits = [] := by
  cases hvalue : check.outcome with
  | error fault =>
    rcases check with ⟨diagnostics, outcome⟩
    simp only at hvalue
    subst hvalue
    exact hcheck
  | ok value => rw [edits_bind hvalue, hcheck, hnext, List.append_nil]

/-- The edits of a loop that ends well are those of its body, item by item. -/
theorem edits_forM {items : List α} {body : α → Check Unit} (hloop : (items.forM body).Succeeds) :
    (items.forM body).edits = items.flatMap fun item => (body item).edits := by
  induction items with
  | nil => rfl
  | cons item items ih =>
    have hunfold : (item :: items).forM body = body item >>= fun _ => items.forM body := rfl
    rw [hunfold] at hloop ⊢
    obtain ⟨value, hvalue, hrest⟩ := succeeds_bind_iff.mp hloop
    rw [edits_bind hvalue, ih hrest, List.flatMap_cons]

/-- A loop carries no edits if its body carries none. -/
theorem edits_forM_eq_nil {items : List α} {body : α → Check Unit}
    (hbody : ∀ item ∈ items, (body item).edits = []) : (items.forM body).edits = [] := by
  induction items with
  | nil => rfl
  | cons item items ih =>
    have hunfold : (item :: items).forM body = body item >>= fun _ => items.forM body := rfl
    rw [hunfold]
    exact edits_bind_eq_nil (hbody item List.mem_cons_self)
      fun _ => ih fun other hother => hbody other (List.mem_cons_of_mem item hother)

end Check

/-! ## Speaking up -/

namespace Source

/-- A token stands at the position. -/
def Holds (source : Source) (position : Int) : Prop :=
  ∃ token, source.token? position = some token

/-- Where a token stands there is a line. -/
theorem line_of_token? {source : Source} {position : Int} {token : Token}
    (hat : source.token? position = some token) : source.line position = .ok token.line := by
  unfold line get
  rw [hat]
  rfl

/-- A line that was looked up is that of a token. -/
theorem exists_token?_of_line {source : Source} {position line : Int}
    (hline : source.line position = .ok line) :
    ∃ token, source.token? position = some token ∧ token.line = line := by
  rw [Source.line, get] at hline
  cases hat : source.token? position with
  | none =>
    rw [hat] at hline
    cases hline
  | some token =>
    rw [hat] at hline
    exact ⟨token, rfl, Except.ok.inj hline⟩

end Source

namespace Site

variable {site : Site} {position : Int}

/-- Where a token stands its line is looked up. -/
theorem line_eq_done {token : Token} (hat : site.source.token? position = some token) :
    site.line position = .done token.line := by
  rw [line, Source.line_of_token? hat]
  rfl

/-- A report is something, made or not. -/
theorem blame_ne_done (site : Site) (position : Int) (violation : Violation)
    (edit? : Option Edit) : site.blame position violation edit? ≠ .done () := by
  rw [blame_eq]
  cases site.source.line position with
  | ok line => simp [Check.found, Check.done]
  | error fault => simp [Check.fail, Check.done]

/-- Nothing is found exactly when the condition is met. -/
theorem expectOrEdit_eq_done_iff {condition : Bool} {violation : Violation} {edit? : Option Edit} :
    site.expectOrEdit condition position violation edit? = .done () ↔ condition = true := by
  rw [expectOrEdit]
  split
  · rename_i hcondition
    exact iff_of_true rfl hcondition
  · rename_i hcondition
    exact iff_of_false (site.blame_ne_done position violation edit?) hcondition

theorem expect_eq_done_iff {condition : Bool} {violation : Violation} :
    site.expect condition position violation = .done () ↔ condition = true := by
  show site.expectOrEdit condition position violation none = .done () ↔ _
  exact expectOrEdit_eq_done_iff

/-- A line can be looked up where a token stands. -/
theorem succeeds_line (hholds : site.source.Holds position) : (site.line position).Succeeds := by
  obtain ⟨token, hat⟩ := hholds
  exact ⟨token.line, Source.line_of_token? hat⟩

/-- A violation can be reported where a token stands. -/
theorem succeeds_blame (hholds : site.source.Holds position) (violation : Violation)
    (edit? : Option Edit) : (site.blame position violation edit?).Succeeds := by
  obtain ⟨token, hat⟩ := hholds
  rw [blame_eq, Source.line_of_token? hat]
  exact Check.succeeds_found _

/-- A condition can be demanded where a token stands. -/
theorem succeeds_expect (hholds : site.source.Holds position) (condition : Bool)
    (violation : Violation) : (site.expect condition position violation).Succeeds := by
  unfold expect
  split
  · exact Check.succeeds_done ()
  · exact succeeds_blame hholds violation none

/-- A condition that an edit would restore can be demanded where a token stands. -/
theorem succeeds_expectOrEdit (hholds : site.source.Holds position) (condition : Bool)
    (violation : Violation) (edit? : Option Edit) :
    (site.expectOrEdit condition position violation edit?).Succeeds := by
  unfold expectOrEdit
  split
  · exact Check.succeeds_done ()
  · exact succeeds_blame hholds violation edit?

/-- A report carries the edit that it was given, if it is made at all. -/
theorem edits_blame (hholds : site.source.Holds position) (violation : Violation)
    (edit? : Option Edit) : (site.blame position violation edit?).edits = edit?.toList := by
  obtain ⟨token, hat⟩ := hholds
  rw [blame_eq, Source.line_of_token? hat]
  cases edit? <;> rfl

/-- A report without an edit carries none, made or not. -/
@[simp]
theorem edits_blame_none (violation : Violation) :
    (site.blame position violation none).edits = [] := by
  rw [blame_eq]
  cases site.source.line position <;> rfl

@[simp]
theorem edits_expect (condition : Bool) (violation : Violation) :
    (site.expect condition position violation).edits = [] := by
  unfold expect
  split
  · rfl
  · exact edits_blame_none violation

/-- A condition that is not met carries the edit that restores it. -/
theorem edits_expectOrEdit (hholds : site.source.Holds position) (condition : Bool)
    (violation : Violation) (edit? : Option Edit) :
    (site.expectOrEdit condition position violation edit?).edits =
      if condition then [] else edit?.toList := by
  unfold expectOrEdit
  split
  · rfl
  · exact edits_blame hholds violation edit?

@[simp]
theorem edits_line (site : Site) (position : Int) : (site.line position).edits = [] := rfl

end Site

end DocLint

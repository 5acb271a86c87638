import DocLint.Proofs.SignatureParts
import Mathlib.Data.Int.Interval
import Mathlib.Logic.Relation

/-!
# Brackets that lead in a circle

The reader of signatures leaps over a bracketed group by following the reference of its opening
bracket, and nothing says that a reference leads forward. This module says when the walk through a
parameter list ends. Where it goes from a position depends on the tokens alone, not on what it has
found, so a walk that comes back to a position never ends. There are only twice as many positions
as tokens, counted from the front and from the back, so a walk that has made more steps than that
has come back somewhere. It follows that the number of steps allowed to the reader takes nothing
away from it: what it answers is what the walk gives, after however many steps.

References that lead forward keep the walk from going in circles. They need not stay inside the
list, or even inside the source. A reference that leads backward may do no harm either, if the walk
leaps over the same bracket when it comes by again.
-/

namespace DocLint

/-! ## Where a walk goes -/

namespace Source

/-- A walk up to `closer` goes on from one position to another: behind the group that begins there,
or else to the next position. -/
def LeadsOn (source : Source) (closer position next : Int) : Prop :=
  position < closer ∧ ∃ token, source.token? position = some token ∧
    next = (Slot.groupEnd? ⟨position, token⟩).getD position + 1

/-- A walk from a position comes to one that leads back to itself. -/
def CirclesFrom (source : Source) (closer position : Int) : Prop :=
  ∃ turn, Relation.ReflTransGen (source.LeadsOn closer) position turn ∧
    Relation.TransGen (source.LeadsOn closer) turn turn

variable {source : Source} {closer position next : Int}

/-- A walk goes on only from positions that count from the front or from the back. -/
theorem LeadsOn.bounds (hleads : source.LeadsOn closer position next) :
    -(source.size : Int) ≤ position ∧ position < source.size := by
  obtain ⟨-, token, hat, -⟩ := hleads
  refine ⟨neg_size_le_of_token? hat, ?_⟩
  by_cases hfront : 0 ≤ position
  · exact lt_size_of_token? hfront hat
  · omega

/-- A circle is never left. -/
theorem CirclesFrom.exists_leadsOn (hcircles : source.CirclesFrom closer position) :
    ∃ next, source.LeadsOn closer position next ∧ source.CirclesFrom closer next := by
  obtain ⟨turn, hreach, hback⟩ := hcircles
  rcases hreach.cases_head with rfl | ⟨next, hleads, hrest⟩
  · obtain ⟨next, hleads, hrest⟩ := Relation.TransGen.head'_iff.mp hback
    exact ⟨next, hleads, next, .refl, .tail' hrest hleads⟩
  · exact ⟨next, hleads, turn, hrest, hback⟩

/-- Along a trail each position leads to all later ones. -/
private theorem reflTransGen_of_trail {trail : Nat → Int} {steps : Nat}
    (htrail : ∀ step < steps, source.LeadsOn closer (trail step) (trail (step + 1)))
    {first last : Nat} (hfirst : first ≤ last) (hlast : last ≤ steps) :
    Relation.ReflTransGen (source.LeadsOn closer) (trail first) (trail last) := by
  induction last, hfirst using Nat.le_induction with
  | base => exact .refl
  | succ last _ ih => exact (ih (by omega)).tail (htrail last (by omega))

/-- **A long trail comes back.** It has more steps than there are positions to stand at. -/
theorem circlesFrom_of_trail {trail : Nat → Int} {steps : Nat}
    (htrail : ∀ step < steps, source.LeadsOn closer (trail step) (trail (step + 1)))
    (hmany : 2 * source.size < steps) : source.CirclesFrom closer (trail 0) := by
  have hcard :
      (Finset.Ico (-(source.size : Int)) source.size).card < (Finset.range steps).card := by
    rw [Int.card_Ico, Finset.card_range]
    omega
  have hmaps : Set.MapsTo trail (Finset.range steps)
      (Finset.Ico (-(source.size : Int)) source.size) :=
    fun step hstep => Finset.mem_Ico.mpr (htrail step (Finset.mem_range.mp hstep)).bounds
  obtain ⟨first, hfirst, second, hsecond, hne, hsame⟩ :=
    Finset.exists_ne_map_eq_of_card_lt_of_maps_to hcard hmaps
  rw [Finset.mem_range] at hfirst hsecond
  wlog hless : first < second generalizing first second
  · exact this second hsecond first hfirst hne.symm hsame.symm (by omega)
  refine ⟨trail first, reflTransGen_of_trail htrail (Nat.zero_le first) (by omega), ?_⟩
  have hback := reflTransGen_of_trail htrail hless (by omega)
  rw [← hsame] at hback
  exact .head' (htrail first hfirst) hback

section Forward

variable {low : Int} (hlow : -1 ≤ low)
variable (hforward : ∀ slot ∈ source.slotsInside low closer, ∀ last ∈ slot.groupEnd?,
  slot.position ≤ last)

include hlow hforward

/-- **One step.** Behind `low`, a walk goes up where references lead forward. -/
theorem LeadsOn.lt_of_forward (hleads : source.LeadsOn closer position next)
    (hbehind : low < position) : position < next := by
  obtain ⟨hbefore, token, hat, rfl⟩ := hleads
  have hfront : 0 ≤ position := by omega
  have hslot : (⟨position, token⟩ : Slot) ∈ source.slotsInside low closer :=
    mem_slotsInside_iff.mpr ⟨mem_slots_iff.mpr ⟨hfront, hat⟩, hbehind, hbefore⟩
  cases hgroup : Slot.groupEnd? ⟨position, token⟩ with
  | none => exact Int.lt_succ position
  | some last =>
    have hlast : position ≤ last := hforward _ hslot last hgroup
    exact Int.lt_add_one_of_le hlast

/-- **Many steps.** It never comes back before `low`, so it goes on going up. -/
theorem lt_of_transGen_leadsOn
    (hleads : Relation.TransGen (source.LeadsOn closer) position next)
    (hbehind : low < position) : position < next := by
  induction hleads with
  | single hleads => exact hleads.lt_of_forward hlow hforward hbehind
  | tail _ hleads ih =>
    exact Int.lt_trans ih (hleads.lt_of_forward hlow hforward (Int.lt_trans hbehind ih))

/-- Where references lead forward there is no circle. -/
theorem not_circlesFrom_of_forward : ¬ source.CirclesFrom closer (low + 1) := by
  rintro ⟨turn, hreach, hback⟩
  have hturn : low < turn := by
    rcases Relation.reflTransGen_iff_eq_or_transGen.mp hreach with rfl | hleads
    · exact Int.lt_succ low
    · have hup := lt_of_transGen_leadsOn hlow hforward hleads (Int.lt_succ low)
      exact Int.lt_trans (Int.lt_succ low) hup
  exact Int.lt_irrefl turn (lt_of_transGen_leadsOn hlow hforward hback hturn)

end Forward

end Source

/-! ## Counted steps -/

namespace ParameterWalk

variable {source : Source} {closer : Int} {steps : Nat} {walk : ParameterWalk}
variable {outcome : Except Fault (List String)}

/-- Where a step goes. -/
theorem position_advance (walk : ParameterWalk) (token : Token) :
    (walk.advance token).position =
      (Slot.groupEnd? ⟨walk.position, token⟩).getD walk.position + 1 := by
  cases hgroup : Slot.groupEnd? ⟨walk.position, token⟩ with
  | none =>
    have hread : walk.advance token = walk.read token := advance_of_groupEnd?_none hgroup
    rw [hread, position_read, Option.getD_none]
  | some last =>
    have hleap : walk.advance token = { walk with position := last + 1 } :=
      advance_of_groupEnd? hgroup
    rw [hleap, Option.getD_some]

/-- No step is taken where no token stands. -/
theorem step_eq_error (hat : source.token? walk.position = none) :
    walk.step source = .error (.outOfRange walk.position) := by
  rw [step, Source.get, hat]
  rfl

/-- **One step.** A walk that has not ended after a step more has gone on to a next position. -/
theorem exists_leadsOn_of_run?_eq_none (hnone : run? source closer (steps + 1) walk = none) :
    ∃ next : ParameterWalk, source.LeadsOn closer walk.position next.position ∧
      run? source closer steps next = none := by
  rw [run?] at hnone
  split at hnone
  · cases hnone
  · rename_i hbefore
    cases hat : source.token? walk.position with
    | none =>
      simp only [step_eq_error hat] at hnone
      cases hnone
    | some token =>
      simp only [step_eq_ok hat] at hnone
      exact ⟨walk.advance token, ⟨by omega, token, hat, position_advance walk token⟩, hnone⟩

/-- **A whole walk.** The positions of a walk that has not ended are a trail. -/
theorem exists_trail_of_run?_eq_none (hnone : run? source closer steps walk = none) :
    ∃ trail : Nat → Int, trail 0 = walk.position ∧
      ∀ step < steps, source.LeadsOn closer (trail step) (trail (step + 1)) := by
  induction steps generalizing walk with
  | zero => exact ⟨fun _ => walk.position, rfl, fun step hstep => absurd hstep (Nat.not_lt_zero _)⟩
  | succ steps ih =>
    obtain ⟨next, hleads, hrest⟩ := exists_leadsOn_of_run?_eq_none hnone
    obtain ⟨trail, hstart, htrail⟩ := ih hrest
    refine ⟨fun step => step.casesOn walk.position trail, rfl, fun step hstep => ?_⟩
    cases step with
    | zero =>
      show source.LeadsOn closer walk.position (trail 0)
      rwa [hstart]
    | succ step => exact htrail step (by omega)

/-- A walk in a circle has not ended after any number of steps. -/
theorem run?_eq_none_of_circlesFrom (hcircles : source.CirclesFrom closer walk.position)
    (steps : Nat) : run? source closer steps walk = none := by
  induction steps generalizing walk with
  | zero =>
    obtain ⟨next, ⟨hbefore, -⟩, -⟩ := hcircles.exists_leadsOn
    rw [run?, if_neg (by omega)]
  | succ steps ih =>
    obtain ⟨next, ⟨hbefore, token, hat, rfl⟩, hnext⟩ := hcircles.exists_leadsOn
    rw [run?, if_neg (by omega)]
    simp only [step_eq_ok hat]
    exact ih (by rwa [position_advance])

/-- **The bound decides.** A walk that has not ended within the reader's bound goes in a circle. -/
theorem circlesFrom_of_run?_eq_none
    (hnone : run? source closer (SignatureReader.stepBound source) walk = none) :
    source.CirclesFrom closer walk.position := by
  obtain ⟨trail, hstart, htrail⟩ := exists_trail_of_run?_eq_none hnone
  rw [← hstart]
  exact Source.circlesFrom_of_trail htrail (Nat.lt_succ_self _)

/-- A walk that has ended gives the same when it may make more steps. -/
theorem run?_mono {more : Nat} (hmore : steps ≤ more)
    (hrun : run? source closer steps walk = some outcome) :
    run? source closer more walk = some outcome := by
  induction steps generalizing walk more with
  | zero =>
    rw [run?] at hrun
    split at hrun
    · rename_i hend
      cases more with
      | zero => rwa [run?, if_pos hend]
      | succ more => rwa [run?, if_pos hend]
    · cases hrun
  | succ steps ih =>
    cases more with
    | zero => omega
    | succ more =>
      rw [run?] at hrun ⊢
      split at hrun
      · rename_i hend
        rwa [if_pos hend]
      · rename_i hbefore
        rw [if_neg hbefore]
        cases hstep : walk.step source with
        | error fault =>
          simp only [hstep] at hrun
          exact hrun
        | ok next =>
          simp only [hstep] at hrun
          exact ih (Nat.le_of_succ_le_succ hmore) hrun

/-- A walk breaks off only where no token stands. -/
theorem exists_outOfRange_of_run? {fault : Fault}
    (hrun : run? source closer steps walk = some (.error fault)) :
    ∃ position, fault = .outOfRange position := by
  induction steps generalizing walk with
  | zero =>
    rw [run?] at hrun
    split at hrun <;> cases hrun
  | succ steps ih =>
    rw [run?] at hrun
    split at hrun
    · cases hrun
    · cases hat : source.token? walk.position with
      | none =>
        simp only [step_eq_error hat] at hrun
        exact ⟨walk.position, (Except.error.inj (Option.some.inj hrun)).symm⟩
      | some token =>
        simp only [step_eq_ok hat] at hrun
        exact ih hrun

end ParameterWalk

/-! ## Reading a signature -/

namespace SignatureReader

variable {source : Source} {anchor : Int} {list : ParameterList}

/-- The walk of the reader ends: there is a number of steps after which it has come to the end of
the parameter list or has broken off. Without a parameter list there is no walk. -/
def ReadingEnds (source : Source) (anchor : Int) : Prop :=
  ∀ list, ParameterList.find source anchor = .ok list →
    ∃ steps outcome, ParameterWalk.run? source list.closer steps (.start list) = some outcome

/-- **The reader answers what its walk gives**, after however many steps. -/
theorem parametersFromTokens_eq_of_run? {steps : Nat} {outcome : Except Fault (List String)}
    (hfind : ParameterList.find source anchor = .ok list)
    (hrun : ParameterWalk.run? source list.closer steps (.start list) = some outcome) :
    parametersFromTokens source anchor = outcome := by
  have hbound : ParameterWalk.run? source list.closer (stepBound source) (.start list) =
      some outcome := by
    cases hbound : ParameterWalk.run? source list.closer (stepBound source) (.start list) with
    | none =>
      have hcircles := ParameterWalk.circlesFrom_of_run?_eq_none hbound
      rw [ParameterWalk.run?_eq_none_of_circlesFrom hcircles steps] at hrun
      cases hrun
    | some other =>
      have hlonger := ParameterWalk.run?_mono (Nat.le_max_left steps (stepBound source)) hrun
      rw [ParameterWalk.run?_mono (Nat.le_max_right steps (stepBound source)) hbound] at hlonger
      exact hlonger
  rw [parametersFromTokens, hfind]
  simp only [bind, Except.bind, hbound]

/-- In a circle it answers that there is one. -/
theorem parametersFromTokens_eq_circularBrackets
    (hfind : ParameterList.find source anchor = .ok list)
    (hcircles : source.CirclesFrom list.closer (list.opener + 1)) :
    parametersFromTokens source anchor = .error (.circularBrackets anchor) := by
  have hnone : ParameterWalk.run? source list.closer (stepBound source) (.start list) = none :=
    ParameterWalk.run?_eq_none_of_circlesFrom hcircles _
  rw [parametersFromTokens, hfind]
  simp only [bind, Except.bind, hnone]
  rfl

/-- **The walk ends unless it goes in a circle.** -/
theorem readingEnds_iff :
    ReadingEnds source anchor ↔ ∀ list, ParameterList.find source anchor = .ok list →
      ¬ source.CirclesFrom list.closer (list.opener + 1) := by
  refine ⟨?_, ?_⟩
  · intro hends list hfind hcircles
    obtain ⟨steps, outcome, hrun⟩ := hends list hfind
    have hnone : ParameterWalk.run? source list.closer steps (.start list) = none :=
      ParameterWalk.run?_eq_none_of_circlesFrom hcircles steps
    rw [hnone] at hrun
    cases hrun
  · intro hstraight list hfind
    cases hrun : ParameterWalk.run? source list.closer (stepBound source) (.start list) with
    | none => exact absurd (ParameterWalk.circlesFrom_of_run?_eq_none hrun) (hstraight list hfind)
    | some outcome => exact ⟨_, outcome, hrun⟩

/-- A walk that ends is never answered with a circle. -/
theorem ReadingEnds.ne_circularBrackets (hends : ReadingEnds source anchor) :
    parametersFromTokens source anchor ≠ .error (.circularBrackets anchor) := by
  intro hfault
  cases hfind : ParameterList.find source anchor with
  | error fault =>
    rw [parametersFromTokens, hfind] at hfault
    obtain rfl : fault = .circularBrackets anchor := Except.error.inj hfault
    rw [ParameterList.find] at hfind
    split at hfind
    · cases hfind
    · split at hfind <;> cases hfind
  | ok list =>
    obtain ⟨steps, outcome, hrun⟩ := hends list hfind
    rw [parametersFromTokens_eq_of_run? hfind hrun] at hfault
    rw [hfault] at hrun
    obtain ⟨position, hrange⟩ := ParameterWalk.exists_outOfRange_of_run? hrun
    cases hrange

/-- **Reading a signature ends unless brackets lead in a circle.** The walk through the parameter
list ends exactly if it comes to no position that leads back to itself. The reader answers with a
circle exactly if it does not end, and otherwise with what the walk gives, after however many steps.
If the brackets in the list lead forward, the walk ends. -/
theorem reading_ends_unless_circular (source : Source) (anchor : Int) :
    (ReadingEnds source anchor ↔ ∀ list, ParameterList.find source anchor = .ok list →
        ¬ source.CirclesFrom list.closer (list.opener + 1)) ∧
      (ofTokens.parameters source anchor = .error (.circularBrackets anchor) ↔
        ¬ ReadingEnds source anchor) ∧
      (∀ list steps outcome, ParameterList.find source anchor = .ok list →
        ParameterWalk.run? source list.closer steps (.start list) = some outcome →
          ofTokens.parameters source anchor = outcome) ∧
      ((∀ list, ParameterList.find source anchor = .ok list →
        ∀ slot ∈ source.slotsInside list.opener list.closer, ∀ last ∈ slot.groupEnd?,
          slot.position ≤ last) → ReadingEnds source anchor) := by
  refine ⟨readingEnds_iff, ⟨fun hfault hends => hends.ne_circularBrackets hfault, ?_⟩,
    fun list steps outcome => parametersFromTokens_eq_of_run?, ?_⟩
  · intro hnever
    by_contra hanswer
    refine hnever (readingEnds_iff.mpr fun list hfind hcircles => hanswer ?_)
    exact parametersFromTokens_eq_circularBrackets hfind hcircles
  · intro hforward
    refine readingEnds_iff.mpr fun list hfind => ?_
    obtain ⟨opening, hopening, hposition, -, -⟩ := ParameterList.find_eq_ok hfind
    have hfront := (Source.bounds_of_mem_slots hopening).1
    exact Source.not_circlesFrom_of_forward (by omega) (hforward list hfind)

end SignatureReader

/-- A function with a bracket that is said to end before it begins. -/
def backwardBracket : Source :=
  ⟨#[⟨.function, "function", 1, none, none, []⟩, ⟨.identifier, "f", 1, none, none, []⟩,
    ⟨.openParenthesis, "(", 1, none, some 5, []⟩, ⟨.openSquare, "[", 1, none, some 2, []⟩,
    ⟨.variableName, "$a", 1, none, none, []⟩, ⟨.closeParenthesis, ")", 1, some 2, none, []⟩]⟩

/-- The walk stays at the bracket for ever. -/
theorem backwardBracket_never_read : ¬ SignatureReader.ReadingEnds backwardBracket 0 := by
  intro hends
  have hstays : backwardBracket.LeadsOn 5 3 3 := ⟨by decide, _, rfl, rfl⟩
  exact SignatureReader.readingEnds_iff.mp hends ⟨2, 5⟩ rfl ⟨3, .refl, .single hstays⟩

/-- A function with a bracket that leads backward, to a bracket that leads over it. -/
def zigzagBrackets : Source :=
  ⟨#[⟨.function, "function", 1, none, none, []⟩, ⟨.openParenthesis, "(", 1, none, some 6, []⟩,
    ⟨.openSquare, "[", 1, none, some 4, []⟩, ⟨.variableName, "$a", 1, none, none, []⟩,
    ⟨.openParenthesis, "(", 1, none, some 5, []⟩, ⟨.openSquare, "[", 1, none, some 2, []⟩,
    ⟨.closeParenthesis, ")", 1, some 1, none, []⟩]⟩

/-- A function whose brackets lead forward out of the source. -/
def strayBrackets : Source :=
  ⟨#[⟨.function, "function", 1, none, none, []⟩, ⟨.openParenthesis, "(", 1, none, some 9, []⟩,
    ⟨.openSquare, "[", 1, none, some 4, []⟩]⟩

/-- The first walk comes back, passes the variable that it had leapt over and ends. The second one
breaks off outside the source. -/
theorem zigzag_and_stray_read :
    (∃ slot ∈ zigzagBrackets.slots, ∃ last ∈ slot.groupEnd?, last < slot.position) ∧
      SignatureReader.ReadingEnds zigzagBrackets 0 ∧
      SignatureReader.ofTokens.parameters zigzagBrackets 0 = .ok ["$a"] ∧
      SignatureReader.ReadingEnds strayBrackets 0 ∧
      SignatureReader.ofTokens.parameters strayBrackets 0 = .error (.outOfRange 5) := by
  obtain ⟨-, hcircular, hrun, -⟩ := SignatureReader.reading_ends_unless_circular zigzagBrackets 0
  obtain ⟨-, -, hrun', hforward⟩ := SignatureReader.reading_ends_unless_circular strayBrackets 0
  have hread : SignatureReader.ofTokens.parameters zigzagBrackets 0 = .ok ["$a"] :=
    hrun ⟨1, 6⟩ 4 _ rfl rfl
  refine ⟨by decide, ?_, hread, hforward ?_, hrun' ⟨1, 9⟩ 2 _ rfl rfl⟩
  · by_contra hnever
    rw [hcircular.mpr hnever] at hread
    cases hread
  · intro list hfind
    obtain rfl : ⟨1, 9⟩ = list := Except.ok.inj hfind
    decide

end DocLint

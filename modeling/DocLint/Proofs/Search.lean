import DocLint.Source
import Mathlib.Tactic.ByContra

/-!
# What the two searches find

A search runs over a list of places and answers with the first one whose token is of a wanted kind.
This module states what it finds without mentioning that list: among the slots of the source, the
forward search gives the first one within its bounds that is wanted, the backward search the last
one, and either gives nothing only if no slot within the bounds is wanted. The slots strictly
between two positions have a name of their own, `Source.slotsInside`.

Later proofs speak of slots alone. They need neither the places behind the positions nor the way in
which the bounds are cut to the source.
-/

namespace DocLint

/-! ## Slots -/

namespace Source

variable {source : Source}

/-- Counted from the front, a position is a place. -/
theorem token?_natCast (source : Source) (index : Nat) :
    source.token? index = source.tokens[index]? := by
  unfold token? resolve? size
  by_cases hindex : index < source.tokens.size
  · simp [hindex]
  · simp [hindex]

/-- A position that counts from the front is its own place. -/
theorem resolve?_natCast {size place index : Nat} (hresolve : resolve? size place = some index) :
    place = index := by
  unfold resolve? at hresolve
  split at hresolve
  · split at hresolve
    · simpa using hresolve
    · cases hresolve
  · omega

/-- A position that counts from the front holds a token only before the end of the source. -/
theorem lt_size_of_token? {position : Int} {token : Token} (hfront : 0 ≤ position)
    (hat : source.token? position = some token) : position < source.size := by
  obtain ⟨index, rfl⟩ := Int.eq_ofNat_of_zero_le hfront
  rw [token?_natCast] at hat
  have hindex := (Array.getElem?_eq_some_iff.mp hat).1
  simpa [size] using hindex

/-- Every position from the front and before the end holds a token. -/
theorem exists_token?_of_lt_size {position : Int} (hfront : 0 ≤ position)
    (hsize : position < source.size) : ∃ token, source.token? position = some token := by
  obtain ⟨index, rfl⟩ := Int.eq_ofNat_of_zero_le hfront
  have hindex : index < source.tokens.size := by simpa [size] using hsize
  exact ⟨source.tokens[index], by rw [token?_natCast]; exact Array.getElem?_eq_getElem hindex⟩

/-- So does every position that counts from the back and does not reach beyond the front. -/
theorem exists_token?_of_bounds {position : Int} (hback : -(source.size : Int) ≤ position)
    (hsize : position < source.size) : ∃ token, source.token? position = some token := by
  by_cases hfront : 0 ≤ position
  · exact exists_token?_of_lt_size hfront hsize
  · have hindex : (position + source.size).toNat < source.tokens.size := by
      rw [size] at hback ⊢
      omega
    rw [token?, resolve?, if_neg hfront, if_pos hback]
    exact ⟨_, Array.getElem?_eq_getElem hindex⟩

/-- No other position does. -/
theorem neg_size_le_of_token? {position : Int} {token : Token}
    (hat : source.token? position = some token) : -(source.size : Int) ≤ position := by
  by_contra hbeyond
  rw [token?, resolve?, if_neg (by omega), if_neg hbeyond] at hat
  cases hat

/-- The slots of a source are its tokens at their positions from the front. -/
theorem mem_slots_iff {slot : Slot} :
    slot ∈ source.slots ↔ 0 ≤ slot.position ∧ source.token? slot.position = some slot.token := by
  rcases slot with ⟨position, token⟩
  unfold slots
  rw [List.mem_mapIdx]
  refine ⟨?_, ?_⟩
  · rintro ⟨index, hindex, hslot⟩
    obtain ⟨rfl, rfl⟩ := Slot.mk.inj hslot
    refine ⟨Int.natCast_nonneg index, ?_⟩
    rw [token?_natCast, ← Array.getElem?_toList]
    exact List.getElem?_eq_getElem hindex
  · rintro ⟨hfront, hat⟩
    obtain ⟨index, rfl⟩ := Int.eq_ofNat_of_zero_le hfront
    rw [token?_natCast, ← Array.getElem?_toList] at hat
    obtain ⟨hindex, htoken⟩ := List.getElem?_eq_some_iff.mp hat
    exact ⟨index, hindex, by rw [htoken]⟩

/-- The token of a slot stands at its position. -/
theorem token?_of_mem_slots {slot : Slot} (hslot : slot ∈ source.slots) :
    source.token? slot.position = some slot.token :=
  (mem_slots_iff.mp hslot).2

/-- A token that is found counting from the back is also found counting from the front. -/
theorem exists_slot_of_token? {position : Int} {token : Token}
    (hat : source.token? position = some token) :
    ∃ slot ∈ source.slots, slot.token = token ∧ (slot.position = position ∨ position < 0) := by
  by_cases hfront : 0 ≤ position
  · exact ⟨⟨position, token⟩, mem_slots_iff.mpr ⟨hfront, hat⟩, rfl, Or.inl rfl⟩
  · unfold token? at hat
    obtain ⟨index, -, hindex⟩ := Option.bind_eq_some_iff.mp hat
    rw [← token?_natCast] at hindex
    exact ⟨⟨index, token⟩, mem_slots_iff.mpr ⟨Int.natCast_nonneg index, hindex⟩, rfl,
      Or.inr (by omega)⟩

/-- Two slots at one position are the same. -/
theorem eq_of_mem_slots {first second : Slot} (hfirst : first ∈ source.slots)
    (hsecond : second ∈ source.slots) (hposition : first.position = second.position) :
    first = second := by
  have htoken := token?_of_mem_slots hfirst
  rw [hposition, token?_of_mem_slots hsecond, Option.some.injEq] at htoken
  exact congrArg₂ Slot.mk hposition htoken.symm

/-- Slots stand at positions of the source. -/
theorem bounds_of_mem_slots {slot : Slot} (hslot : slot ∈ source.slots) :
    0 ≤ slot.position ∧ slot.position < source.size := by
  obtain ⟨hfront, hat⟩ := mem_slots_iff.mp hslot
  exact ⟨hfront, lt_size_of_token? hfront hat⟩

/-- The slot at a place is the slot of the source that stands there. -/
theorem slot?_eq_some_iff {index : Nat} {slot : Slot} :
    source.slot? index = some slot ↔ slot ∈ source.slots ∧ slot.position = index := by
  rcases slot with ⟨position, token⟩
  rw [mem_slots_iff]
  unfold slot?
  rw [Option.map_eq_some_iff]
  refine ⟨?_, ?_⟩
  · rintro ⟨found, hfound, hslot⟩
    obtain ⟨rfl, rfl⟩ := Slot.mk.inj hslot
    exact ⟨⟨Int.natCast_nonneg index, by rw [token?_natCast]; exact hfound⟩, rfl⟩
  · rintro ⟨⟨-, hat⟩, rfl⟩
    rw [token?_natCast] at hat
    exact ⟨token, hat, rfl⟩

/-- A place is of a wanted kind when the slot there is. -/
theorem matchesAt_eq_true_iff {wanted : Kind → Bool} {index : Nat} :
    source.matchesAt wanted index = true ↔
      ∃ slot ∈ source.slots, slot.position = index ∧ wanted slot.kind = true := by
  refine ⟨?_, ?_⟩
  · intro hmatch
    unfold matchesAt at hmatch
    cases hat : source.tokens[index]? with
    | none => simp [hat] at hmatch
    | some token =>
      rw [hat] at hmatch
      refine ⟨⟨index, token⟩, mem_slots_iff.mpr ⟨Int.natCast_nonneg index, ?_⟩, rfl, hmatch⟩
      rw [token?_natCast, hat]
  · rintro ⟨slot, hslot, hposition, hwanted⟩
    have hat := token?_of_mem_slots hslot
    rw [hposition, token?_natCast] at hat
    unfold matchesAt
    rw [hat]
    exact hwanted

/-- A place is not of a wanted kind when the slot there, if there is one, is not. -/
theorem matchesAt_eq_false_iff {wanted : Kind → Bool} {index : Nat} :
    source.matchesAt wanted index = false ↔
      ∀ slot ∈ source.slots, slot.position = index → wanted slot.kind = false := by
  rw [← Bool.not_eq_true, matchesAt_eq_true_iff]
  simp

/-! ## Slots between two positions -/

variable {low high : Int}

/-- The slots strictly between two positions. -/
def slotsInside (source : Source) (low high : Int) : List Slot :=
  source.slots.filter fun slot => low < slot.position ∧ slot.position < high

theorem mem_slotsInside_iff {slot : Slot} :
    slot ∈ source.slotsInside low high ↔
      slot ∈ source.slots ∧ low < slot.position ∧ slot.position < high := by
  rw [slotsInside, List.mem_filter, decide_eq_true_iff]

/-- The slots of a source stand in ascending order. -/
theorem pairwise_slots (source : Source) :
    source.slots.Pairwise fun slot other => slot.position < other.position := by
  rw [List.pairwise_iff_getElem]
  intro place later hplace hlater hbefore
  simp only [slots, List.getElem_mapIdx]
  exact_mod_cast hbefore

theorem pairwise_slotsInside (source : Source) (low high : Int) :
    (source.slotsInside low high).Pairwise fun slot other => slot.position < other.position :=
  source.pairwise_slots.filter _

/-- The slots inside that come before a position are those up to it. -/
theorem filter_slotsInside_before {middle : Int} (hmiddle : middle ≤ high) :
    (source.slotsInside low high).filter (fun slot => slot.position < middle) =
      source.slotsInside low middle := by
  rw [slotsInside, slotsInside, List.filter_filter]
  apply List.filter_congr
  intro slot _
  rw [← Bool.decide_and, decide_eq_decide]
  omega

/-- The slots inside that come after a position are those from it on. -/
theorem filter_slotsInside_after {middle : Int} (hmiddle : low ≤ middle) :
    (source.slotsInside low high).filter (fun slot => middle < slot.position) =
      source.slotsInside middle high := by
  rw [slotsInside, slotsInside, List.filter_filter]
  apply List.filter_congr
  intro slot _
  rw [← Bool.decide_and, decide_eq_decide]
  omega

/-- The slots inside that come after one of them are those from its position on. -/
theorem eq_slotsInside_of_append {before after : List Slot} {slot : Slot}
    (hsplit : source.slotsInside low high = before ++ slot :: after) :
    after = source.slotsInside slot.position high := by
  have hascending := source.pairwise_slotsInside low high
  rw [hsplit, List.pairwise_append, List.pairwise_cons] at hascending
  obtain ⟨-, ⟨hafter, -⟩, hbefore⟩ := hascending
  have hslot : low < slot.position := by
    have hmem : slot ∈ source.slotsInside low high :=
      hsplit ▸ List.mem_append_right _ List.mem_cons_self
    exact (mem_slotsInside_iff.mp hmem).2.1
  calc after
    _ = (before ++ slot :: after).filter fun other => slot.position < other.position := by
        have hnone : before.filter (fun other => slot.position < other.position) = [] := by
          apply List.filter_eq_nil_iff.mpr
          intro other hother
          have hless := hbefore other hother slot List.mem_cons_self
          rw [decide_eq_true_iff]
          omega
        have hall : after.filter (fun other => slot.position < other.position) = after :=
          List.filter_eq_self.mpr fun other hother => decide_eq_true (hafter other hother)
        rw [List.filter_append, hnone, List.nil_append, List.filter_cons_of_neg (by simp), hall]
    _ = (source.slotsInside low high).filter fun other => slot.position < other.position := by
        rw [hsplit]
    _ = source.slotsInside slot.position high :=
        filter_slotsInside_after (Int.le_of_lt hslot)

end Source

/-! ## Searching a run of places -/

/-- Searched backwards, a run of places gives the last one that satisfies the test. -/
private theorem find?_reverse_range'_eq_some_iff {test : Nat → Bool} {low count index : Nat} :
    (List.range' low count).reverse.find? test = some index ↔
      test index = true ∧ low ≤ index ∧ index < low + count ∧
        ∀ later, index < later → later < low + count → test later = false := by
  induction count with
  | zero =>
    simp only [List.range'_zero, List.reverse_nil, List.find?_nil, reduceCtorEq, false_iff]
    rintro ⟨-, hlow, hhigh, -⟩
    omega
  | succ count ih =>
    rw [List.range'_concat, List.reverse_append, List.reverse_singleton, List.singleton_append,
      List.find?_cons, Nat.one_mul]
    cases hlast : test (low + count) with
    | true =>
      simp only [Option.some.injEq]
      refine ⟨?_, ?_⟩
      · rintro rfl
        exact ⟨hlast, by omega, by omega, fun later hlater hbound => by omega⟩
      · rintro ⟨-, -, hhigh, hlater⟩
        by_contra hne
        have hskipped := hlater (low + count) (by omega) (by omega)
        rw [hlast] at hskipped
        cases hskipped
    | false =>
      simp only
      rw [ih]
      refine ⟨?_, ?_⟩
      · rintro ⟨htest, hlow, hhigh, hlater⟩
        refine ⟨htest, hlow, by omega, fun later hindex hbound => ?_⟩
        by_cases hend : later = low + count
        · rw [hend, hlast]
        · exact hlater later hindex (by omega)
      · rintro ⟨htest, hlow, hhigh, hlater⟩
        have hne : index ≠ low + count := by
          rintro rfl
          rw [hlast] at htest
          cases htest
        exact ⟨htest, hlow, by omega, fun later hindex hbound => hlater later hindex (by omega)⟩

namespace Source

variable {source : Source} {wanted : Kind → Bool} {start : Int} {stop? : Option Int}

/-- A search over places loses nothing by turning the place that it found into a slot. -/
private theorem bind_slot?_eq_none_iff {places : List Nat} :
    (places.find? (source.matchesAt wanted)).bind source.slot? = none ↔
      ∀ slot ∈ source.slots, slot.position.toNat ∈ places → wanted slot.kind = false := by
  cases hfind : places.find? (source.matchesAt wanted) with
  | none =>
    simp only [Option.bind_none, true_iff]
    intro slot hslot hplace
    have hfront := (bounds_of_mem_slots hslot).1
    have hmatch := List.find?_eq_none.mp hfind _ hplace
    exact matchesAt_eq_false_iff.mp (by simpa using hmatch) slot hslot (by omega)
  | some found =>
    obtain ⟨slot, hslot, hposition, hwanted⟩ := matchesAt_eq_true_iff.mp (List.find?_some hfind)
    rw [Option.bind_some, slot?_eq_some_iff.mpr ⟨hslot, hposition⟩]
    simp only [reduceCtorEq, false_iff]
    intro hall
    have hunwanted := hall slot hslot (by
      rw [hposition]
      exact List.mem_of_find?_eq_some hfind)
    rw [hwanted] at hunwanted
    cases hunwanted

/-! ## Forward -/

/-- **The forward search finds the first slot.** It is wanted, and no wanted slot stands between
the start and it. -/
theorem next?_eq_some_iff {slot : Slot} :
    source.next? wanted start stop? = some slot ↔
      slot ∈ source.slots ∧ start ≤ slot.position ∧ slot.position < stop?.getD source.size ∧
        wanted slot.kind = true ∧
        ∀ other ∈ source.slots, start ≤ other.position → other.position < slot.position →
          wanted other.kind = false := by
  unfold next? nextIndex?
  rw [Option.bind_eq_some_iff]
  refine ⟨?_, ?_⟩
  · rintro ⟨index, hfind, hfound⟩
    obtain ⟨hslot, hposition⟩ := slot?_eq_some_iff.mp hfound
    obtain ⟨hmatch, hplace, hbefore⟩ := List.find?_range'_eq_some.mp hfind
    rw [List.mem_range'_1] at hplace
    obtain ⟨slot', hslot', hposition', hwanted⟩ := matchesAt_eq_true_iff.mp hmatch
    obtain rfl := eq_of_mem_slots hslot hslot' (by omega)
    refine ⟨hslot, by omega, by omega, hwanted, fun other hother hlow hhigh => ?_⟩
    have hfront := (bounds_of_mem_slots hother).1
    have hskipped := hbefore other.position.toNat (by omega) (by omega)
    exact matchesAt_eq_false_iff.mp (by simpa using hskipped) other hother (by omega)
  · rintro ⟨hslot, hstart, hstop, hwanted, hbefore⟩
    obtain ⟨hfront, hsize⟩ := bounds_of_mem_slots hslot
    refine ⟨slot.position.toNat, List.find?_range'_eq_some.mpr ⟨?_, ?_, ?_⟩,
      slot?_eq_some_iff.mpr ⟨hslot, by omega⟩⟩
    · exact matchesAt_eq_true_iff.mpr ⟨slot, hslot, by omega, hwanted⟩
    · rw [List.mem_range'_1]
      omega
    · intro place hlow hhigh
      have hskipped : source.matchesAt wanted place = false :=
        matchesAt_eq_false_iff.mpr fun other hother hposition =>
          hbefore other hother (by omega) (by omega)
      simpa using hskipped

/-- The forward search finds nothing exactly when there is nothing to find within its bounds. -/
theorem next?_eq_none_iff :
    source.next? wanted start stop? = none ↔
      ∀ slot ∈ source.slots, start ≤ slot.position → slot.position < stop?.getD source.size →
        wanted slot.kind = false := by
  unfold next? nextIndex?
  rw [bind_slot?_eq_none_iff]
  refine ⟨?_, ?_⟩
  · intro hnone slot hslot hstart hstop
    have hbounds := bounds_of_mem_slots hslot
    exact hnone slot hslot (by rw [List.mem_range'_1]; omega)
  · intro hall slot hslot hplace
    have hbounds := bounds_of_mem_slots hslot
    rw [List.mem_range'_1] at hplace
    exact hall slot hslot (by omega) (by omega)

/-! ## Backward -/

/-- **The backward search finds the last slot.** It is wanted, and no wanted slot stands between it
and the start. -/
theorem prev?_eq_some_iff {slot : Slot} :
    source.prev? wanted start stop? = some slot ↔
      slot ∈ source.slots ∧ stop?.getD 0 ≤ slot.position ∧ slot.position ≤ start ∧
        wanted slot.kind = true ∧
        ∀ other ∈ source.slots, slot.position < other.position → other.position ≤ start →
          wanted other.kind = false := by
  unfold prev? prevIndex?
  rw [Option.bind_eq_some_iff]
  refine ⟨?_, ?_⟩
  · rintro ⟨index, hfind, hfound⟩
    obtain ⟨hslot, hposition⟩ := slot?_eq_some_iff.mp hfound
    obtain ⟨hmatch, hlow, hhigh, hlater⟩ := find?_reverse_range'_eq_some_iff.mp hfind
    obtain ⟨slot', hslot', hposition', hwanted⟩ := matchesAt_eq_true_iff.mp hmatch
    obtain rfl := eq_of_mem_slots hslot hslot' (by omega)
    refine ⟨hslot, by omega, by omega, hwanted, fun other hother hafter hstart => ?_⟩
    have hbounds := bounds_of_mem_slots hother
    have hskipped := hlater other.position.toNat (by omega) (by omega)
    exact matchesAt_eq_false_iff.mp hskipped other hother (by omega)
  · rintro ⟨hslot, hstop, hstart, hwanted, hlater⟩
    obtain ⟨hfront, hsize⟩ := bounds_of_mem_slots hslot
    refine ⟨slot.position.toNat, find?_reverse_range'_eq_some_iff.mpr ⟨?_, by omega, by omega, ?_⟩,
      slot?_eq_some_iff.mpr ⟨hslot, by omega⟩⟩
    · exact matchesAt_eq_true_iff.mpr ⟨slot, hslot, by omega, hwanted⟩
    · intro place hafter hbound
      exact matchesAt_eq_false_iff.mpr fun other hother hposition =>
        hlater other hother (by omega) (by omega)

/-- The backward search finds nothing exactly when there is nothing to find within its bounds. -/
theorem prev?_eq_none_iff :
    source.prev? wanted start stop? = none ↔
      ∀ slot ∈ source.slots, stop?.getD 0 ≤ slot.position → slot.position ≤ start →
        wanted slot.kind = false := by
  unfold prev? prevIndex?
  rw [bind_slot?_eq_none_iff]
  refine ⟨?_, ?_⟩
  · intro hnone slot hslot hstop hstart
    have hbounds := bounds_of_mem_slots hslot
    exact hnone slot hslot (by rw [List.mem_reverse, List.mem_range'_1]; omega)
  · intro hall slot hslot hplace
    have hbounds := bounds_of_mem_slots hslot
    rw [List.mem_reverse, List.mem_range'_1] at hplace
    exact hall slot hslot (by omega) (by omega)

/-! ## The nearest slot before a position -/

/-- The slot is the nearest one before a position whose kind passes a test. -/
structure NearestBefore (source : Source) (test : Kind → Bool) (position : Int) (slot : Slot) :
    Prop where
  /-- It is a slot of the source. -/
  mem : slot ∈ source.slots
  /-- It comes before the position. -/
  before : slot.position < position
  /-- Its kind passes the test. -/
  passes : test slot.kind = true
  /-- No slot between it and the position does. -/
  nearer : ∀ other ∈ source.slots, slot.position < other.position → other.position < position →
    test other.kind = false

/-- The unbounded backward search finds the nearest slot. -/
theorem prev?_eq_some_iff_nearestBefore {test : Kind → Bool} {position : Int} {slot : Slot} :
    source.prev? test (position - 1) none = some slot ↔
      source.NearestBefore test position slot := by
  rw [prev?_eq_some_iff]
  refine ⟨?_, ?_⟩
  · rintro ⟨hmem, -, hbefore, hpasses, hnearer⟩
    refine ⟨hmem, by omega, hpasses, fun other hother hlow hhigh => ?_⟩
    exact hnearer other hother hlow (by omega)
  · rintro ⟨hmem, hbefore, hpasses, hnearer⟩
    refine ⟨hmem, (bounds_of_mem_slots hmem).1, by omega, hpasses, ?_⟩
    intro other hother hlow hhigh
    exact hnearer other hother hlow (by omega)

/-- A position has one nearest slot at most. -/
theorem NearestBefore.unique {test : Kind → Bool} {position : Int} {first second : Slot}
    (hfirst : source.NearestBefore test position first)
    (hsecond : source.NearestBefore test position second) : first = second := by
  have hsearch := prev?_eq_some_iff_nearestBefore.mpr hfirst
  rw [prev?_eq_some_iff_nearestBefore.mpr hsecond] at hsearch
  exact (Option.some.inj hsearch).symm

/-- **The two directions meet.** Of two slots that pass a test, the forward search from the first
finds the second exactly when the first is nearest before the second. -/
theorem next?_eq_some_iff_nearestBefore {test : Kind → Bool} {first second : Slot}
    (hfirst : first ∈ source.slots) (hpasses : test first.kind = true)
    (hsecond : second ∈ source.slots) (hpasses' : test second.kind = true) :
    source.next? test (first.position + 1) none = some second ↔
      source.NearestBefore test second.position first := by
  rw [next?_eq_some_iff]
  refine ⟨?_, ?_⟩
  · rintro ⟨-, hstart, -, -, hbetween⟩
    refine ⟨hfirst, by omega, hpasses, fun other hother hlow hhigh => ?_⟩
    exact hbetween other hother (by omega) hhigh
  · rintro ⟨-, hbefore, -, hnearer⟩
    refine ⟨hsecond, by omega, (bounds_of_mem_slots hsecond).2, hpasses', ?_⟩
    intro other hother hlow hhigh
    exact hnearer other hother (by omega) hhigh

end Source

end DocLint

import DocLint.Proofs.Search
import Mathlib.Order.Bounds.Basic

/-!
# The two searches as mirror images

The forward search answers with the least place within its bounds and the backward search with the
greatest. Their bounds are not alike: the forward search ends before the place that it is given, the
backward search with it, and each cuts the other end to the source in its own way. This module says
which places the bounds leave, and that nothing else sets the two searches apart: on the reversed
source, with the bounds counted from the other end, the forward search finds what the backward
search found.

What a search looks for is a test of kinds. It comes from a list of kinds, which are either sought
or left out.
-/

namespace DocLint

/-- Whether a kind is sought: it is in the list, or it is not and the list says what to leave
out. -/
def Kind.isSought (kinds : List Kind) (exclude : Bool) (kind : Kind) : Bool :=
  kinds.contains kind != exclude

/-- A slot as it is seen from the other end of a source of the given size. -/
def Slot.mirrored (size : Nat) (slot : Slot) : Slot :=
  ⟨size - 1 - slot.position, slot.token⟩

namespace Source

variable {source : Source} {wanted : Kind → Bool} {start : Int} {stop? : Option Int} {place : Nat}

/-! ## Places -/

/-- A token of a wanted kind stands at a place. -/
def HoldsWanted (source : Source) (wanted : Kind → Bool) (place : Nat) : Prop :=
  ∃ token, source.tokens[place]? = some token ∧ wanted token.kind = true

/-- The places at which a forward search may stop. -/
def ahead (source : Source) (wanted : Kind → Bool) (start : Int) (stop? : Option Int) : Set Nat :=
  {place | max start 0 ≤ place ∧ place < min (stop?.getD source.size) source.size ∧
    source.HoldsWanted wanted place}

/-- The places at which a backward search may stop. -/
def behind (source : Source) (wanted : Kind → Bool) (start : Int) (stop? : Option Int) : Set Nat :=
  {place | max (stop?.getD 0) 0 ≤ place ∧ place ≤ min start (source.size - 1) ∧
    source.HoldsWanted wanted place}

theorem holdsWanted_iff :
    source.HoldsWanted wanted place ↔
      ∃ slot ∈ source.slots, slot.position = place ∧ wanted slot.kind = true := by
  refine ⟨?_, ?_⟩
  · rintro ⟨token, hat, hwanted⟩
    rw [← token?_natCast] at hat
    exact ⟨⟨place, token⟩, mem_slots_iff.mpr ⟨Int.natCast_nonneg place, hat⟩, rfl, hwanted⟩
  · rintro ⟨slot, hslot, hposition, hwanted⟩
    have hat := token?_of_mem_slots hslot
    rw [hposition, token?_natCast] at hat
    exact ⟨slot.token, hat, hwanted⟩

/-- A forward search may stop at the wanted slots within its bounds, which need no cutting. -/
theorem mem_ahead_iff :
    place ∈ source.ahead wanted start stop? ↔
      ∃ slot ∈ source.slots, slot.position = place ∧ start ≤ slot.position ∧
        slot.position < stop?.getD source.size ∧ wanted slot.kind = true := by
  rw [ahead, Set.mem_ofPred_eq, holdsWanted_iff]
  refine ⟨?_, ?_⟩
  · rintro ⟨hlow, hhigh, slot, hslot, hposition, hwanted⟩
    exact ⟨slot, hslot, hposition, by omega, by omega, hwanted⟩
  · rintro ⟨slot, hslot, hposition, hlow, hhigh, hwanted⟩
    have hbounds := bounds_of_mem_slots hslot
    exact ⟨by omega, by omega, slot, hslot, hposition, hwanted⟩

theorem mem_behind_iff :
    place ∈ source.behind wanted start stop? ↔
      ∃ slot ∈ source.slots, slot.position = place ∧ stop?.getD 0 ≤ slot.position ∧
        slot.position ≤ start ∧ wanted slot.kind = true := by
  rw [behind, Set.mem_ofPred_eq, holdsWanted_iff]
  refine ⟨?_, ?_⟩
  · rintro ⟨hlow, hhigh, slot, hslot, hposition, hwanted⟩
    exact ⟨slot, hslot, hposition, by omega, by omega, hwanted⟩
  · rintro ⟨slot, hslot, hposition, hlow, hhigh, hwanted⟩
    have hbounds := bounds_of_mem_slots hslot
    exact ⟨by omega, by omega, slot, hslot, hposition, hwanted⟩

/-! ## The place that is found -/

/-- The place that a search finds is the place of the slot that it finds. -/
private theorem find?_eq_map_slot (places : List Nat) :
    places.find? (source.matchesAt wanted) =
      ((places.find? (source.matchesAt wanted)).bind source.slot?).map fun slot =>
        slot.position.toNat := by
  cases hfind : places.find? (source.matchesAt wanted) with
  | none => rfl
  | some found =>
    obtain ⟨slot, hslot, hposition, -⟩ := matchesAt_eq_true_iff.mp (List.find?_some hfind)
    rw [Option.bind_some, slot?_eq_some_iff.mpr ⟨hslot, hposition⟩, Option.map_some, hposition,
      Int.toNat_natCast]

theorem nextIndex?_eq_map (source : Source) (wanted : Kind → Bool) (start : Int)
    (stop? : Option Int) :
    source.nextIndex? wanted start stop? =
      (source.next? wanted start stop?).map fun slot => slot.position.toNat :=
  find?_eq_map_slot _

theorem prevIndex?_eq_map (source : Source) (wanted : Kind → Bool) (start : Int)
    (stop? : Option Int) :
    source.prevIndex? wanted start stop? =
      (source.prev? wanted start stop?).map fun slot => slot.position.toNat :=
  find?_eq_map_slot _

/-- **The forward search finds the least place.** -/
theorem nextIndex?_eq_some_iff_isLeast :
    source.nextIndex? wanted start stop? = some place ↔
      IsLeast (source.ahead wanted start stop?) place := by
  rw [nextIndex?_eq_map, Option.map_eq_some_iff]
  refine ⟨?_, ?_⟩
  · rintro ⟨slot, hsearch, hplace⟩
    obtain ⟨hslot, hlow, hhigh, hwanted, hbefore⟩ := next?_eq_some_iff.mp hsearch
    have hfront := (bounds_of_mem_slots hslot).1
    refine ⟨mem_ahead_iff.mpr ⟨slot, hslot, by omega, hlow, hhigh, hwanted⟩, ?_⟩
    intro other hother
    obtain ⟨earlier, hearlier, hposition, hlow', -, hwanted'⟩ := mem_ahead_iff.mp hother
    by_contra hless
    rw [hbefore earlier hearlier hlow' (by omega)] at hwanted'
    cases hwanted'
  · rintro ⟨hmem, hleast⟩
    obtain ⟨slot, hslot, hposition, hlow, hhigh, hwanted⟩ := mem_ahead_iff.mp hmem
    refine ⟨slot, next?_eq_some_iff.mpr ⟨hslot, hlow, hhigh, hwanted, ?_⟩, by omega⟩
    intro other hother hlow' hbefore
    have hfront := (bounds_of_mem_slots hother).1
    by_contra hwanted'
    have hatMost : place ≤ other.position.toNat := hleast (mem_ahead_iff.mpr
      ⟨other, hother, by omega, hlow', by omega, eq_true_of_ne_false hwanted'⟩)
    omega

/-- **The backward search finds the greatest place.** -/
theorem prevIndex?_eq_some_iff_isGreatest :
    source.prevIndex? wanted start stop? = some place ↔
      IsGreatest (source.behind wanted start stop?) place := by
  rw [prevIndex?_eq_map, Option.map_eq_some_iff]
  refine ⟨?_, ?_⟩
  · rintro ⟨slot, hsearch, hplace⟩
    obtain ⟨hslot, hlow, hhigh, hwanted, hafter⟩ := prev?_eq_some_iff.mp hsearch
    have hfront := (bounds_of_mem_slots hslot).1
    refine ⟨mem_behind_iff.mpr ⟨slot, hslot, by omega, hlow, hhigh, hwanted⟩, ?_⟩
    intro other hother
    obtain ⟨later, hlater, hposition, -, hhigh', hwanted'⟩ := mem_behind_iff.mp hother
    by_contra hless
    rw [hafter later hlater (by omega) hhigh'] at hwanted'
    cases hwanted'
  · rintro ⟨hmem, hgreatest⟩
    obtain ⟨slot, hslot, hposition, hlow, hhigh, hwanted⟩ := mem_behind_iff.mp hmem
    refine ⟨slot, prev?_eq_some_iff.mpr ⟨hslot, hlow, hhigh, hwanted, ?_⟩, by omega⟩
    intro other hother hafter hhigh'
    by_contra hwanted'
    have hatMost : other.position.toNat ≤ place := hgreatest (mem_behind_iff.mpr
      ⟨other, hother, by omega, by omega, hhigh', eq_true_of_ne_false hwanted'⟩)
    omega

/-- The forward search finds nothing exactly when it may stop nowhere. -/
theorem nextIndex?_eq_none_iff :
    source.nextIndex? wanted start stop? = none ↔ source.ahead wanted start stop? = ∅ := by
  rw [nextIndex?_eq_map, Option.map_eq_none_iff, next?_eq_none_iff, Set.eq_empty_iff_forall_notMem]
  refine ⟨?_, ?_⟩
  · intro hnone place hmem
    obtain ⟨slot, hslot, -, hlow, hhigh, hwanted⟩ := mem_ahead_iff.mp hmem
    rw [hnone slot hslot hlow hhigh] at hwanted
    cases hwanted
  · intro hempty slot hslot hlow hhigh
    have hfront := (bounds_of_mem_slots hslot).1
    by_contra hwanted
    exact hempty slot.position.toNat (mem_ahead_iff.mpr
      ⟨slot, hslot, by omega, hlow, hhigh, eq_true_of_ne_false hwanted⟩)

/-- The backward search finds nothing exactly when it may stop nowhere. -/
theorem prevIndex?_eq_none_iff :
    source.prevIndex? wanted start stop? = none ↔ source.behind wanted start stop? = ∅ := by
  rw [prevIndex?_eq_map, Option.map_eq_none_iff, prev?_eq_none_iff, Set.eq_empty_iff_forall_notMem]
  refine ⟨?_, ?_⟩
  · intro hnone place hmem
    obtain ⟨slot, hslot, -, hlow, hhigh, hwanted⟩ := mem_behind_iff.mp hmem
    rw [hnone slot hslot hlow hhigh] at hwanted
    cases hwanted
  · intro hempty slot hslot hlow hhigh
    have hfront := (bounds_of_mem_slots hslot).1
    by_contra hwanted
    exact hempty slot.position.toNat (mem_behind_iff.mpr
      ⟨slot, hslot, by omega, hlow, hhigh, eq_true_of_ne_false hwanted⟩)

/-! ## The reversed source -/

/-- The tokens in the opposite order. -/
def reversed (source : Source) : Source :=
  ⟨source.tokens.reverse⟩

@[simp]
theorem size_reversed (source : Source) : source.reversed.size = source.size :=
  Array.size_reverse

/-- The slots of the reversed source are the mirrored ones. -/
theorem mirrored_mem_slots {slot : Slot} (hslot : slot ∈ source.slots) :
    slot.mirrored source.size ∈ source.reversed.slots := by
  obtain ⟨hfront, hsize⟩ := bounds_of_mem_slots hslot
  obtain ⟨place, hplace⟩ := Int.eq_ofNat_of_zero_le hfront
  have hat := token?_of_mem_slots hslot
  rw [hplace, token?_natCast] at hat
  have himage : (source.size : Int) - 1 - slot.position = (source.size - 1 - place : Nat) := by
    omega
  refine mem_slots_iff.mpr ⟨?_, ?_⟩
  · rw [Slot.mirrored, himage]
    exact Int.natCast_nonneg _
  · rw [Slot.mirrored, himage, token?_natCast, reversed,
      Array.getElem?_reverse (by rw [← size]; omega)]
    have hback : source.tokens.size - 1 - (source.size - 1 - place) = place := by
      rw [size] at hsize ⊢
      omega
    rw [hback, hat]

theorem reversed_reversed (source : Source) : source.reversed.reversed = source := by
  rw [reversed, reversed, Array.reverse_reverse]

/-- Every slot of the reversed source is one seen from the other end. -/
theorem mirrored_mem_slots_of_reversed {slot : Slot} (hslot : slot ∈ source.reversed.slots) :
    slot.mirrored source.size ∈ source.slots := by
  have hmem := mirrored_mem_slots hslot
  rwa [size_reversed, reversed_reversed] at hmem

/-- **The forward search on the reversed source finds the mirrored slot.** -/
theorem next?_reversed (source : Source) (wanted : Kind → Bool) (start : Int)
    (stop? : Option Int) :
    source.reversed.next? wanted (source.size - 1 - start) (stop?.map (source.size - ·)) =
      (source.prev? wanted start stop?).map (Slot.mirrored source.size) := by
  have hstop : (stop?.map ((source.size : Int) - ·)).getD source.reversed.size =
      source.size - stop?.getD 0 := by
    cases stop? with
    | none => simp
    | some stop => rfl
  cases hsearch : source.prev? wanted start stop? with
  | none =>
    rw [Option.map_none, next?_eq_none_iff, hstop]
    intro slot hslot hlow hhigh
    have hunwanted := prev?_eq_none_iff.mp hsearch _ (mirrored_mem_slots_of_reversed hslot)
    rw [Slot.mirrored] at hunwanted
    exact hunwanted (by dsimp only; omega) (by dsimp only; omega)
  | some slot =>
    obtain ⟨hslot, hlow, hhigh, hwanted, hafter⟩ := prev?_eq_some_iff.mp hsearch
    rw [Option.map_some, next?_eq_some_iff, hstop]
    refine ⟨mirrored_mem_slots hslot, ?_, ?_, hwanted, ?_⟩
    · rw [Slot.mirrored]
      dsimp only
      omega
    · rw [Slot.mirrored]
      dsimp only
      omega
    · intro other hother hlow' hbefore
      have hunwanted := hafter _ (mirrored_mem_slots_of_reversed hother)
      rw [Slot.mirrored] at hunwanted hbefore
      exact hunwanted (by dsimp only at hbefore ⊢; omega) (by dsimp only; omega)

/-- The place found on the reversed source and the place found on the source are equally far from
the two ends. -/
theorem nextIndex?_reversed_eq_some (hfound : source.prevIndex? wanted start stop? = some place) :
    ∃ image, source.reversed.nextIndex? wanted (source.size - 1 - start)
      (stop?.map (source.size - ·)) = some image ∧ place + image + 1 = source.size := by
  rw [prevIndex?_eq_map, Option.map_eq_some_iff] at hfound
  obtain ⟨slot, hsearch, hplace⟩ := hfound
  have hbounds := bounds_of_mem_slots (prev?_eq_some_iff.mp hsearch).1
  refine ⟨_, by rw [nextIndex?_eq_map, next?_reversed, hsearch]; rfl, ?_⟩
  show place + (source.size - 1 - slot.position).toNat + 1 = source.size
  omega

/-- **The searches are exact, and mirror images of each other.** The forward search gives the least
of the places at which it may stop and the backward search the greatest, each nothing only if there
is no such place. What the backward search finds, the forward search finds on the reversed source,
as far from the end as the other is from the beginning. -/
theorem searches_are_exact_mirrors (source : Source) (kinds : List Kind) (exclude : Bool)
    (start : Int) (stop? : Option Int) :
    (∀ place, source.nextIndex? (Kind.isSought kinds exclude) start stop? = some place ↔
        IsLeast (source.ahead (Kind.isSought kinds exclude) start stop?) place) ∧
      (source.nextIndex? (Kind.isSought kinds exclude) start stop? = none ↔
        source.ahead (Kind.isSought kinds exclude) start stop? = ∅) ∧
      (∀ place, source.prevIndex? (Kind.isSought kinds exclude) start stop? = some place ↔
        IsGreatest (source.behind (Kind.isSought kinds exclude) start stop?) place) ∧
      (source.prevIndex? (Kind.isSought kinds exclude) start stop? = none ↔
        source.behind (Kind.isSought kinds exclude) start stop? = ∅) ∧
      (source.prevIndex? (Kind.isSought kinds exclude) start stop? = none ∧
          source.reversed.nextIndex? (Kind.isSought kinds exclude) (source.size - 1 - start)
            (stop?.map (source.size - ·)) = none ∨
        ∃ place image,
          source.prevIndex? (Kind.isSought kinds exclude) start stop? = some place ∧
            source.reversed.nextIndex? (Kind.isSought kinds exclude) (source.size - 1 - start)
              (stop?.map (source.size - ·)) = some image ∧
            place + image + 1 = source.size) := by
  refine ⟨fun _ => nextIndex?_eq_some_iff_isLeast, nextIndex?_eq_none_iff,
    fun _ => prevIndex?_eq_some_iff_isGreatest, prevIndex?_eq_none_iff, ?_⟩
  cases hfound : source.prevIndex? (Kind.isSought kinds exclude) start stop? with
  | none =>
    rw [prevIndex?_eq_map, Option.map_eq_none_iff] at hfound
    exact Or.inl ⟨rfl, by rw [nextIndex?_eq_map, next?_reversed, hfound]; rfl⟩
  | some place =>
    obtain ⟨image, himage, hsum⟩ := nextIndex?_reversed_eq_some hfound
    exact Or.inr ⟨place, image, rfl, himage, hsum⟩

end Source

end DocLint

import DocLint.Proofs.BlockReading

/-!
# Sketches

A sketch is a piece of a source that can stand anywhere: a list of tokens whose references are
counted from the token that holds them. Where it is placed, the references become positions.

Sketches are put together by appending them, and where a source shows the whole it shows the parts.
The main facts of this module say what the searches and stretches of a source find there, in terms
of the tokens that were put together and without any mention of what stands around them.
-/

namespace DocLint

/-- The token with its references moved by a distance. -/
def Token.moved (distance : Int) (token : Token) : Token :=
  { token with
    opener? := token.opener?.map (· + distance)
    closer? := token.closer?.map (· + distance)
    tagPositions := token.tagPositions.map (· + distance) }

/-- A token without references. -/
def Token.plain (kind : Kind) (content : String) (line : Int) : Token :=
  ⟨kind, content, line, none, none, []⟩

/-- Tokens whose references are counted from the token that holds them. -/
abbrev Sketch := List Token

namespace Sketch

/-- The slots of a sketch that is placed at a position. -/
def slots : (position : Int) → Sketch → List Slot
  | _, [] => []
  | position, token :: rest => ⟨position, token.moved position⟩ :: slots (position + 1) rest

/-- The tokens of a sketch that is placed at a position. -/
def placed (position : Int) (sketch : Sketch) : List Token :=
  (slots position sketch).map Slot.token

variable {position : Int} {sketch : Sketch}

theorem slots_append (position : Int) (first second : Sketch) :
    slots position (first ++ second) =
      slots position first ++ slots (position + first.length) second := by
  induction first generalizing position with
  | nil => simp [slots]
  | cons token rest ih =>
    have hnext : position + (rest.length + 1 : Nat) = position + 1 + rest.length := by omega
    rw [List.cons_append, slots, slots, ih, List.length_cons, hnext, List.cons_append]

/-- The slots of a sketch stand one after the other. -/
theorem getElem?_slots (position : Int) (sketch : Sketch) (index : Nat) :
    (slots position sketch)[index]? =
      sketch[index]?.map fun token => ⟨position + index, token.moved (position + index)⟩ := by
  induction sketch generalizing position index with
  | nil => rfl
  | cons token rest ih =>
    cases index with
    | zero => simp [slots]
    | succ index =>
      have hnext : position + 1 + index = position + (index + 1 : Nat) := by omega
      rw [slots, List.getElem?_cons_succ, List.getElem?_cons_succ, ih, hnext]

/-- Placing a sketch changes no texts. -/
theorem map_content_placed (position : Int) (sketch : Sketch) :
    (placed position sketch).map Token.content = sketch.map Token.content := by
  rw [placed]
  induction sketch generalizing position with
  | nil => rfl
  | cons token rest ih =>
    rw [slots, List.map_cons, List.map_cons, List.map_cons, ih]
    rfl

/-- Every slot of a sketch holds one of its tokens. -/
theorem exists_token_of_mem_slots {slot : Slot} (hslot : slot ∈ slots position sketch) :
    ∃ token ∈ sketch, slot.token = token.moved slot.position := by
  obtain ⟨index, hindex⟩ := List.mem_iff_getElem?.mp hslot
  rw [getElem?_slots] at hindex
  obtain ⟨token, htoken, rfl⟩ := Option.map_eq_some_iff.mp hindex
  exact ⟨token, List.mem_of_getElem? htoken, rfl⟩

/-- A sketch has a slot at every position up to its end. -/
theorem exists_slot {other : Int} (hlow : position ≤ other)
    (hhigh : other < position + sketch.length) :
    ∃ slot ∈ slots position sketch, slot.position = other := by
  obtain ⟨index, rfl⟩ : ∃ index : Nat, other = position + index :=
    ⟨(other - position).toNat, by omega⟩
  have hindex : index < sketch.length := by omega
  have hslot := getElem?_slots position sketch index
  rw [List.getElem?_eq_getElem hindex, Option.map_some] at hslot
  exact ⟨_, List.mem_of_getElem? hslot, rfl⟩

end Sketch

namespace Source

variable {source : Source} {position : Int} {sketch first second skipped : Sketch} {token : Token}

/-- The sketch stands in the source at a position. -/
def Shows (source : Source) (position : Int) (sketch : Sketch) : Prop :=
  ∀ slot ∈ sketch.slots position, source.token? slot.position = some slot.token

/-- The source in which a sketch stands between the given tokens. -/
def around (before after : List Token) (sketch : Sketch) : Source :=
  ⟨(before ++ sketch.placed before.length ++ after).toArray⟩

/-- A sketch stands where it was placed. -/
theorem shows_around (before after : List Token) (sketch : Sketch) :
    (around before after sketch).Shows before.length sketch := by
  intro slot hslot
  obtain ⟨index, hindex⟩ := List.mem_iff_getElem?.mp hslot
  have hplaced : (sketch.placed before.length)[index]? = some slot.token := by
    rw [Sketch.placed, List.getElem?_map, hindex]
    rfl
  rw [Sketch.getElem?_slots] at hindex
  obtain ⟨token, -, rfl⟩ := Option.map_eq_some_iff.mp hindex
  have hlength := (List.getElem?_eq_some_iff.mp hplaced).1
  have hat := token?_natCast (around before after sketch) (before.length + index)
  rw [Int.natCast_add] at hat
  rw [hat, around, List.getElem?_toArray, List.append_assoc,
    List.getElem?_append_right (Nat.le_add_right ..), Nat.add_sub_cancel_left,
    List.getElem?_append_left hlength, hplaced]

/-! ## Parts -/

theorem Shows.left (hshows : source.Shows position (first ++ second)) :
    source.Shows position first := by
  rw [Shows, Sketch.slots_append] at hshows
  exact fun slot hslot => hshows slot (List.mem_append_left _ hslot)

theorem Shows.right (hshows : source.Shows position (first ++ second)) :
    source.Shows (position + first.length) second := by
  rw [Shows, Sketch.slots_append] at hshows
  exact fun slot hslot => hshows slot (List.mem_append_right _ hslot)

theorem Shows.append (hfirst : source.Shows position first)
    (hsecond : source.Shows (position + first.length) second) :
    source.Shows position (first ++ second) := by
  intro slot hslot
  rw [Sketch.slots_append] at hslot
  rcases List.mem_append.mp hslot with hleft | hright
  · exact hfirst slot hleft
  · exact hsecond slot hright

theorem Shows.head (hshows : source.Shows position (token :: sketch)) :
    source.token? position = some (token.moved position) :=
  hshows ⟨position, token.moved position⟩ List.mem_cons_self

theorem Shows.tail (hshows : source.Shows position (token :: sketch)) :
    source.Shows (position + 1) sketch :=
  fun slot hslot => hshows slot (List.mem_cons_of_mem _ hslot)

/-- Within the bounds of a sketch the source has the slots of the sketch and no others. -/
theorem Shows.mem_slots (hshows : source.Shows position sketch) {slot : Slot}
    (hslot : slot ∈ source.slots) (hlow : position ≤ slot.position)
    (hhigh : slot.position < position + sketch.length) : slot ∈ sketch.slots position := by
  obtain ⟨other, hother, hposition⟩ := Sketch.exists_slot hlow hhigh
  have hat := hshows other hother
  rw [hposition, token?_of_mem_slots hslot, Option.some.injEq] at hat
  obtain rfl : slot = other := congrArg₂ Slot.mk hposition.symm hat
  exact hother

/-- A kind that no token of a sketch has is not met within its bounds. -/
theorem Shows.kind_eq_false {wanted : Kind → Bool} (hshows : source.Shows position sketch)
    (hskipped : ∀ token ∈ sketch, wanted token.kind = false) {slot : Slot}
    (hslot : slot ∈ source.slots) (hlow : position ≤ slot.position)
    (hhigh : slot.position < position + sketch.length) : wanted slot.kind = false := by
  obtain ⟨token, htoken, hmoved⟩ :=
    Sketch.exists_token_of_mem_slots (hshows.mem_slots hslot hlow hhigh)
  rw [Slot.kind, hmoved]
  exact hskipped token htoken

/-! ## Searches and stretches -/

/-- A source reaches at least as far as a sketch in it. -/
theorem Shows.lt_size (hshows : source.Shows position (token :: sketch)) (hfront : 0 ≤ position) :
    position < source.size :=
  lt_size_of_token? hfront hshows.head

/-- **Searching forward through a sketch.** The search passes over the tokens that are not wanted
and ends with the first one that is. -/
theorem Shows.next?_eq_some {wanted : Kind → Bool} {stop? : Option Int}
    (hshows : source.Shows position (skipped ++ token :: sketch)) (hfront : 0 ≤ position)
    (hskipped : ∀ token ∈ skipped, wanted token.kind = false)
    (hwanted : wanted token.kind = true)
    (hstop : ∀ stop ∈ stop?, position + skipped.length < stop) :
    source.next? wanted position stop? =
      some ⟨position + skipped.length, token.moved (position + skipped.length)⟩ := by
  have hfound := hshows.right
  have hplace : 0 ≤ position + skipped.length := by omega
  apply next?_eq_some_iff.mpr
  refine ⟨mem_slots_iff.mpr ⟨hplace, hfound.head⟩, ?_, ?_, hwanted, ?_⟩
  · exact Int.le_add_of_nonneg_right (Int.natCast_nonneg _)
  · cases stop? with
    | none => exact hfound.lt_size hplace
    | some stop => exact hstop stop rfl
  · intro other hother hlow hhigh
    exact hshows.left.kind_eq_false hskipped hother hlow hhigh

/-- **Searching backward through a sketch.** -/
theorem Shows.prev?_eq_some {wanted : Kind → Bool} {start : Int} {stop? : Option Int}
    (hshows : source.Shows position (token :: skipped)) (hfront : 0 ≤ position)
    (hstart : start = position + skipped.length) (hwanted : wanted token.kind = true)
    (hskipped : ∀ token ∈ skipped, wanted token.kind = false)
    (hstop : ∀ stop ∈ stop?, stop ≤ position) :
    source.prev? wanted start stop? = some ⟨position, token.moved position⟩ := by
  apply prev?_eq_some_iff.mpr
  refine ⟨mem_slots_iff.mpr ⟨hfront, hshows.head⟩, ?_, ?_, hwanted, ?_⟩
  · cases stop? with
    | none => exact hfront
    | some stop => exact hstop stop rfl
  · show position ≤ start
    omega
  · intro other hother hlow hhigh
    have hafter : position + 1 ≤ other.position := hlow
    exact hshows.tail.kind_eq_false hskipped hother hafter (by omega)

/-- **A stretch over a sketch** has the slots of the sketch and misses nothing. -/
theorem Shows.stretch_eq {stop : Int} (hshows : source.Shows position sketch)
    (hstop : stop = position + sketch.length) :
    source.stretch position stop = ⟨sketch.slots position, none⟩ := by
  have hfrom : source.stretchFrom sketch.length position = ⟨sketch.slots position, none⟩ := by
    clear hstop
    induction sketch generalizing position with
    | nil => rfl
    | cons token rest ih =>
      rw [List.length_cons, stretchFrom, hshows.head]
      simp only [ih hshows.tail]
      rfl
  rw [stretch, show (stop - position).toNat = sketch.length by omega, hfrom]

/-- The tokens between the bounds of a sketch are those of the sketch. -/
theorem Shows.tokens_eq {place : Nat} (hshows : source.Shows place sketch) :
    (source.tokens.toList.take (source.bound (place + sketch.length))).drop (source.bound place) =
      sketch.placed place := by
  have hlow : source.bound place = min place source.size := by
    rw [bound, if_neg (by omega), Int.toNat_natCast]
  have hhigh : source.bound (place + sketch.length) = min (place + sketch.length) source.size := by
    rw [bound, if_neg (by omega), ← Int.natCast_add, Int.toNat_natCast]
  apply List.ext_getElem?
  intro index
  rw [List.getElem?_drop, List.getElem?_take, Sketch.placed, List.getElem?_map,
    Sketch.getElem?_slots]
  cases htoken : sketch[index]? with
  | none =>
    have hindex := List.getElem?_eq_none_iff.mp htoken
    exact if_neg (by omega)
  | some token =>
    have hindex := (List.getElem?_eq_some_iff.mp htoken).1
    have hat : source.token? (place + index) = some (token.moved (place + index)) := by
      apply hshows ⟨place + index, token.moved (place + index)⟩
      apply List.mem_of_getElem? (i := index)
      rw [Sketch.getElem?_slots, htoken]
      rfl
    have hsize := lt_size_of_token? (by omega) hat
    rw [← Int.natCast_add, token?_natCast, ← Array.getElem?_toList] at hat
    rw [if_pos (by omega), hlow, Nat.min_eq_left (by omega), hat]
    rfl

/-- **The text of a sketch** is that of its tokens, wherever it stands. -/
theorem Shows.text_eq {stop : Int} (hshows : source.Shows position sketch) (hfront : 0 ≤ position)
    (hstop : stop = position + sketch.length) : source.text position stop = textOf sketch := by
  obtain ⟨place, rfl⟩ := Int.eq_ofNat_of_zero_le hfront
  rw [hstop, text, hshows.tokens_eq, textOf, textOf, Sketch.map_content_placed]

end Source

end DocLint

import DocLint.Proofs.OwnComment
import DocLint.Proofs.References
import DocLint.Proofs.Sketch

/-!
# Sources that are moved as a whole

White space at the front of a file moves all that follows: every position grows by the number of
tokens that were put before, every line by some number, and references follow the tokens that they
name. A `Shift` says by how much, and `Source.Moves` that one source is another one, moved.

In a source that was moved everything is found where it was, counted from the front: the searches,
the stretches of tokens, the comment of every declaration and what every function declares. A search
that runs up to the front of the file does not stop at the new white space, because none of these
searches looks for white space.
-/

namespace DocLint

/-- The end of a doc comment is found when its beginning refers to one. -/
theorem Slot.docCloser_eq_ok_iff {slot : Slot} {closer : Int} :
    slot.docCloser = .ok closer ↔ slot.token.closer? = some closer := by
  rw [Slot.docCloser]
  cases slot.token.closer? <;> simp

/-- How far tokens are moved. -/
structure Shift where
  /-- By how many positions. -/
  positions : Nat
  /-- By how many lines. -/
  lines : Int

namespace Shift

variable (shift : Shift)

/-- The token with its line and its references moved. -/
def token (token : Token) : Token :=
  { token.moved shift.positions with line := token.line + shift.lines }

/-- The slot with its position and its token moved. -/
def slot (slot : Slot) : Slot :=
  ⟨slot.position + shift.positions, shift.token slot.token⟩

/-- The stretch with its slots moved. -/
def stretch (stretch : Source.Stretch) : Source.Stretch :=
  ⟨stretch.slots.map shift.slot, stretch.missing?.map (· + shift.positions)⟩

/-- The placement with its ends moved. -/
def placement : Placement → Placement
  | .absent => .absent
  | .ordinaryBelow start => .ordinaryBelow (start + shift.positions)
  | .ordinaryAbove stop => .ordinaryAbove (stop + shift.positions)
  | .ordinaryOfFile => .ordinaryOfFile
  | .doc subject opener closer =>
    .doc subject (opener + shift.positions) (closer + shift.positions)

/-- The walk through a parameter list with its position moved. -/
def walk (walk : ParameterWalk) : ParameterWalk :=
  { walk with position := walk.position + shift.positions }

section Slots

variable (slot : Slot)

@[simp]
theorem position_slot : (shift.slot slot).position = slot.position + shift.positions := rfl

@[simp]
theorem kind_slot : (shift.slot slot).kind = slot.kind := rfl

@[simp]
theorem line_slot : (shift.slot slot).line = slot.line + shift.lines := rfl

end Slots

/-- After a token the walk is where it was. -/
theorem advance_walk (walk : ParameterWalk) (token : Token) :
    (shift.walk walk).advance (shift.token token) = shift.walk (walk.advance token) := by
  have hnext : walk.position + shift.positions + 1 = walk.position + 1 + shift.positions := by omega
  have hkind : (shift.token token).kind = token.kind := rfl
  have hread : (shift.walk walk).read (shift.token token) = shift.walk (walk.read token) := by
    simp only [ParameterWalk.read, Shift.walk, hkind, hnext]
    split
    · rfl
    · rfl
    · split <;> rfl
    · rfl
  have hcloser : (shift.token token).closer? =
      token.closer?.map (· + (shift.positions : Int)) := rfl
  rw [ParameterWalk.advance.eq_def, ParameterWalk.advance.eq_def, hkind, hcloser]
  cases token.kind.isBracketOpener with
  | false => exact hread
  | true =>
    cases token.closer? with
    | none => exact hread
    | some closer =>
      simp only [Option.map_some, Shift.walk]
      congr 1
      omega

/-- A comment that ends in a slot begins where it did. -/
theorem docOpener_slot {slot : Slot} {opener : Int} (hopener : slot.docOpener = .ok opener) :
    (shift.slot slot).docOpener = .ok (opener + shift.positions) := by
  rw [Slot.docOpener_eq_ok_iff] at hopener ⊢
  show slot.token.opener?.map _ = _
  rw [hopener]
  rfl

/-- A comment that begins in a slot ends where it did. -/
theorem docCloser_slot {slot : Slot} {closer : Int} (hcloser : slot.docCloser = .ok closer) :
    (shift.slot slot).docCloser = .ok (closer + shift.positions) := by
  rw [Slot.docCloser_eq_ok_iff] at hcloser ⊢
  show slot.token.closer?.map _ = _
  rw [hcloser]
  rfl

end Shift

/-- All references name tokens of the source, counted from the front. -/
structure Source.RefersInside (source : Source) : Prop where
  /-- References to opening delimiters do. -/
  opener : ∀ slot ∈ source.slots, ∀ position ∈ slot.token.opener?,
    0 ≤ position ∧ position < source.size
  /-- References to closing delimiters do. -/
  closer : ∀ slot ∈ source.slots, ∀ position ∈ slot.token.closer?,
    0 ≤ position ∧ position < source.size
  /-- Lists of tags do. -/
  tags : ∀ slot ∈ source.slots, ∀ position ∈ slot.token.tagPositions,
    0 ≤ position ∧ position < source.size

/-- A walk through a parameter list ends at once or goes on by a step. -/
theorem ParameterWalk.run?_eq_some_iff {source : Source} {closer : Int} {steps : Nat}
    {walk : ParameterWalk} {names : List String} :
    run? source closer steps walk = some (.ok names) ↔
      closer ≤ walk.position ∧ walk.found = names ∨
        walk.position < closer ∧ ∃ fewer next, steps = fewer + 1 ∧ walk.step source = .ok next ∧
          run? source closer fewer next = some (.ok names) := by
  by_cases hend : closer ≤ walk.position
  · cases steps <;> simp [run?, hend, Int.not_lt.mpr hend]
  · have hbefore : walk.position < closer := Int.not_le.mp hend
    cases steps with
    | zero => simp [run?, hend]
    | succ steps =>
      rw [run?, if_neg hend]
      cases hstep : walk.step source <;> simp [hend, hbefore]

/-- The second source is the first one, moved, with white space before it. -/
structure Source.Moves (shift : Shift) (blanks : List Token) (source source' : Source) : Prop where
  /-- The tokens follow what was put before them. -/
  tokens : source'.tokens.toList = blanks ++ source.tokens.toList.map shift.token
  /-- They are moved by as many positions. -/
  length : blanks.length = shift.positions
  /-- White space was put before them. -/
  blank : ∀ token ∈ blanks, token.kind = .whitespace

/-- Nothing stands before the front. -/
theorem Source.followsFirstOpenTag_neg_one (source : Source) :
    source.followsFirstOpenTag (-1) = false := by
  have hnone : source.prev? (fun kind => kind != .whitespace) (-1) none = none := by
    apply prev?_eq_none_iff.mpr
    intro slot hslot _ hbefore
    have hfront := (bounds_of_mem_slots hslot).1
    omega
  rw [followsFirstOpenTag, hnone]

namespace Source.Moves

variable {shift : Shift} {blanks : List Token} {source source' : Source}
variable (hmoves : source.Moves shift blanks source')

include hmoves

theorem size_eq : source'.size = source.size + shift.positions := by
  have hlength := congrArg List.length hmoves.tokens
  rw [List.length_append, List.length_map, hmoves.length, Array.length_toList,
    Array.length_toList] at hlength
  rw [size, size, hlength, Nat.add_comm]

/-! ## Slots -/

/-- A token is found where it was, counted from the front. -/
theorem token?_eq {position : Int} (hfront : 0 ≤ position) :
    source'.token? (position + shift.positions) = (source.token? position).map shift.token := by
  obtain ⟨index, rfl⟩ := Int.eq_ofNat_of_zero_le hfront
  rw [show (index : Int) + shift.positions = (index + shift.positions : Nat) from rfl,
    token?_natCast, token?_natCast, ← Array.getElem?_toList, ← Array.getElem?_toList, hmoves.tokens,
    List.getElem?_append_right (by rw [hmoves.length]; omega), hmoves.length, Nat.add_sub_cancel,
    List.getElem?_map]

theorem mem_slots {slot : Slot} (hslot : slot ∈ source.slots) :
    shift.slot slot ∈ source'.slots := by
  obtain ⟨hfront, hat⟩ := mem_slots_iff.mp hslot
  refine mem_slots_iff.mpr ⟨?_, ?_⟩
  · show 0 ≤ slot.position + shift.positions
    omega
  · show source'.token? (slot.position + shift.positions) = _
    rw [hmoves.token?_eq hfront, hat]
    rfl

/-- Behind the white space stand the slots that were moved. -/
theorem exists_slot {slot' : Slot} (hslot : slot' ∈ source'.slots)
    (hafter : shift.positions ≤ slot'.position) :
    ∃ slot ∈ source.slots, slot' = shift.slot slot := by
  rcases slot' with ⟨position, token⟩
  obtain ⟨-, hat⟩ := mem_slots_iff.mp hslot
  have hfront : 0 ≤ position - shift.positions := by
    have hle : (shift.positions : Int) ≤ position := hafter
    omega
  have hmoved := hmoves.token?_eq hfront
  rw [Int.sub_add_cancel, show source'.token? position = some token from hat] at hmoved
  obtain ⟨found, hfound, htoken⟩ := Option.map_eq_some_iff.mp hmoved.symm
  refine ⟨⟨position - shift.positions, found⟩, mem_slots_iff.mpr ⟨hfront, hfound⟩, ?_⟩
  rw [Shift.slot, htoken, Int.sub_add_cancel]

/-- Before them stands white space. -/
theorem kind_of_lt {slot' : Slot} (hslot : slot' ∈ source'.slots)
    (hbefore : slot'.position < shift.positions) : slot'.kind = .whitespace := by
  obtain ⟨hfront, hat⟩ := mem_slots_iff.mp hslot
  obtain ⟨index, hindex⟩ := Int.eq_ofNat_of_zero_le hfront
  rw [hindex, token?_natCast, ← Array.getElem?_toList, hmoves.tokens,
    List.getElem?_append_left (by rw [hmoves.length]; omega)] at hat
  exact hmoves.blank _ (List.mem_of_getElem? hat)

/-! ## Searches -/

section Searches

variable {wanted : Kind → Bool} {start : Int}

theorem getD_size_eq (stop? : Option Int) :
    ((stop?.map (· + (shift.positions : Int))).getD source'.size : Int) =
      stop?.getD source.size + shift.positions := by
  cases stop? with
  | none =>
    have hsize := hmoves.size_eq
    show (source'.size : Int) = source.size + shift.positions
    omega
  | some stop => rfl

/-- The forward search finds the same slot. -/
theorem next?_eq (hstart : 0 ≤ start) (stop? : Option Int) :
    source'.next? wanted (start + shift.positions) (stop?.map (· + (shift.positions : Int))) =
      (source.next? wanted start stop?).map shift.slot := by
  have hstop := hmoves.getD_size_eq stop?
  cases hfound : source.next? wanted start stop? with
  | none =>
    apply next?_eq_none_iff.mpr
    intro slot' hslot' hlow hhigh
    obtain ⟨slot, hslot, rfl⟩ := hmoves.exists_slot hslot' (by omega)
    rw [hstop, Shift.position_slot] at hhigh
    rw [Shift.position_slot] at hlow
    exact next?_eq_none_iff.mp hfound slot hslot (by omega) (by omega)
  | some slot =>
    obtain ⟨hslot, hlow, hhigh, hwanted, hbefore⟩ := next?_eq_some_iff.mp hfound
    rw [Option.map_some]
    apply next?_eq_some_iff.mpr
    rw [hstop, Shift.position_slot]
    refine ⟨hmoves.mem_slots hslot, by omega, by omega, hwanted, ?_⟩
    intro other' hother' hafter hearlier
    obtain ⟨other, hother, rfl⟩ := hmoves.exists_slot hother' (by omega)
    rw [Shift.position_slot] at hafter hearlier
    exact hbefore other hother (by omega) (by omega)

theorem next?_eq_of_none (hstart : 0 ≤ start) :
    source'.next? wanted (start + shift.positions) none =
      (source.next? wanted start none).map shift.slot :=
  hmoves.next?_eq hstart none

/-- So does the backward search up to a position. -/
theorem prev?_eq_of_stop {stop : Int} (hstop : 0 ≤ stop) :
    source'.prev? wanted (start + shift.positions) (some (stop + shift.positions)) =
      (source.prev? wanted start (some stop)).map shift.slot := by
  cases hfound : source.prev? wanted start (some stop) with
  | none =>
    apply prev?_eq_none_iff.mpr
    intro slot' hslot' hlow hhigh
    have hlow : stop + shift.positions ≤ slot'.position := hlow
    obtain ⟨slot, hslot, rfl⟩ := hmoves.exists_slot hslot' (by omega)
    rw [Shift.position_slot] at hlow hhigh
    have hafter : (some stop).getD 0 ≤ slot.position := by
      show stop ≤ slot.position
      omega
    exact prev?_eq_none_iff.mp hfound slot hslot hafter (by omega)
  | some slot =>
    obtain ⟨hslot, hlow, hhigh, hwanted, hlater⟩ := prev?_eq_some_iff.mp hfound
    have hlow : stop ≤ slot.position := hlow
    apply prev?_eq_some_iff.mpr
    rw [Shift.position_slot]
    refine ⟨hmoves.mem_slots hslot, ?_, by omega, hwanted, ?_⟩
    · show stop + shift.positions ≤ slot.position + shift.positions
      omega
    · intro other' hother' hafter hearlier
      obtain ⟨other, hother, rfl⟩ := hmoves.exists_slot hother' (by omega)
      rw [Shift.position_slot] at hafter hearlier
      exact hlater other hother (by omega) (by omega)

/-- So does the backward search up to the front, unless it looks for white space. -/
theorem prev?_eq (hblank : wanted .whitespace = false) :
    source'.prev? wanted (start + shift.positions) none =
      (source.prev? wanted start none).map shift.slot := by
  cases hfound : source.prev? wanted start none with
  | none =>
    apply prev?_eq_none_iff.mpr
    intro slot' hslot' hlow hhigh
    -- the search now goes on over the new white space, and finds nothing there
    by_cases hbefore : slot'.position < shift.positions
    · rw [hmoves.kind_of_lt hslot' hbefore, hblank]
    · obtain ⟨slot, hslot, rfl⟩ := hmoves.exists_slot hslot' (by omega)
      rw [Shift.position_slot] at hhigh
      exact prev?_eq_none_iff.mp hfound slot hslot (bounds_of_mem_slots hslot).1 (by omega)
  | some slot =>
    obtain ⟨hslot, -, hhigh, hwanted, hlater⟩ := prev?_eq_some_iff.mp hfound
    have hslot' := hmoves.mem_slots hslot
    have hfront := (bounds_of_mem_slots hslot).1
    apply prev?_eq_some_iff.mpr
    refine ⟨hslot', (bounds_of_mem_slots hslot').1, ?_, hwanted, ?_⟩
    · rw [Shift.position_slot]
      omega
    · intro other' hother' hafter hearlier
      rw [Shift.position_slot] at hafter
      obtain ⟨other, hother, rfl⟩ := hmoves.exists_slot hother' (by omega)
      rw [Shift.position_slot] at hafter hearlier
      exact hlater other hother (by omega) (by omega)

end Searches

/-! ## Stretches and texts -/

theorem stretchFrom_eq {position : Int} (hfront : 0 ≤ position) (count : Nat) :
    source'.stretchFrom count (position + shift.positions) =
      shift.stretch (source.stretchFrom count position) := by
  induction count generalizing position with
  | zero => rfl
  | succ count ih =>
    have hnext : position + shift.positions + 1 = position + 1 + shift.positions := by omega
    rw [stretchFrom, stretchFrom, hmoves.token?_eq hfront, hnext, ih (by omega)]
    cases source.token? position <;> rfl

/-- A stretch has the same tokens. -/
theorem stretch_eq {start stop : Int} (hstart : 0 ≤ start) :
    source'.stretch (start + shift.positions) (stop + shift.positions) =
      shift.stretch (source.stretch start stop) := by
  rw [stretch, stretch, ← hmoves.stretchFrom_eq hstart]
  congr 1
  omega

theorem bound_eq {position : Int} (hfront : 0 ≤ position) :
    source'.bound (position + shift.positions) = source.bound position + shift.positions := by
  have hsize := hmoves.size_eq
  rw [bound, bound, if_neg (by omega), if_neg (by omega)]
  omega

/-- The text between two positions is the same. -/
theorem text_eq {start stop : Int} (hstart : 0 ≤ start) (hstop : 0 ≤ stop) :
    source'.text (start + shift.positions) (stop + shift.positions) = source.text start stop := by
  have htake : ∀ count : Nat, source'.tokens.toList.take (count + shift.positions) =
      blanks ++ (source.tokens.toList.take count).map shift.token := by
    intro count
    rw [hmoves.tokens, ← hmoves.length, Nat.add_comm, List.take_length_add_append, List.map_take]
  rw [text, text, hmoves.bound_eq hstart, hmoves.bound_eq hstop, htake, ← hmoves.length,
    Nat.add_comm, List.drop_length_add_append, ← List.map_drop, textOf, textOf, List.map_map]
  rfl

/-! ## Comments of declarations -/

theorem beforeLeadIn?_eq (position : Int) :
    source'.beforeLeadIn? (position + shift.positions) =
      (source.beforeLeadIn? position).map shift.slot := by
  rw [beforeLeadIn?, show position + shift.positions - 1 = position - 1 + shift.positions by omega]
  exact hmoves.prev?_eq rfl

theorem functionCommentEnd?_eq (anchor : Int) :
    source'.functionCommentEnd? (anchor + shift.positions) =
      (source.functionCommentEnd? anchor).map shift.slot := by
  rw [functionCommentEnd?, functionCommentEnd?, hmoves.beforeLeadIn?_eq]
  cases source.beforeLeadIn? anchor with
  | none => rfl
  | some last =>
    simp only [Option.map_some, Shift.kind_slot, Shift.position_slot, hmoves.beforeLeadIn?_eq]
    split
    · cases source.beforeLeadIn? last.position with
      | none => rfl
      | some before =>
        simp only [Option.map_some, Shift.line_slot, Int.add_left_inj]
        split <;> rfl
    · rfl

theorem followsFirstOpenTag_eq (position : Int) :
    source'.followsFirstOpenTag (position + shift.positions) =
      source.followsFirstOpenTag position := by
  rw [followsFirstOpenTag, followsFirstOpenTag, hmoves.prev?_eq rfl]
  cases source.prev? (fun kind => kind != .whitespace) position none with
  | none => rfl
  | some before =>
    simp only [Option.map_some, Shift.kind_slot, Shift.position_slot]
    rewrite [show before.position + shift.positions - 1 = before.position - 1 + shift.positions
      by omega, hmoves.prev?_eq rfl, Option.isNone_map]
    rfl

/-- A run of ordinary comments and white space that reaches the front does so after the move, too,
and then the first open tag does not stand before it. -/
theorem followsFirstOpenTag_beforeOrdinary_eq (position : Int) :
    source'.followsFirstOpenTag (source'.beforeOrdinary (position + shift.positions)) =
      source.followsFirstOpenTag (source.beforeOrdinary position) := by
  rw [beforeOrdinary, beforeOrdinary,
    show position + shift.positions - 1 = position - 1 + shift.positions by omega,
    hmoves.prev?_eq rfl]
  cases source.prev? (fun kind => kind != .comment && kind != .whitespace) (position - 1) none with
  | none =>
    exact source'.followsFirstOpenTag_neg_one.trans source.followsFirstOpenTag_neg_one.symm
  | some slot => exact hmoves.followsFirstOpenTag_eq slot.position

/-- The comment of a function is found where it was. -/
theorem locateFunction_eq {anchor : Int} {placement : Placement}
    (hlocate : source.locateFunction anchor = .ok placement) :
    source'.locateFunction (anchor + shift.positions) = .ok (shift.placement placement) := by
  rw [locateFunction] at hlocate ⊢
  rw [hmoves.functionCommentEnd?_eq]
  cases hend : source.functionCommentEnd? anchor with
  | none =>
    rw [hend] at hlocate
    obtain rfl := Except.ok.inj hlocate
    rfl
  | some last =>
    rw [hend] at hlocate
    simp only [Option.map_some, Shift.kind_slot] at hlocate ⊢
    split at hlocate
    · obtain rfl := Except.ok.inj hlocate
      rfl
    · obtain ⟨opener, hopener, hdoc⟩ := except_bind_eq_ok_iff.mp hlocate
      obtain rfl := Except.ok.inj hdoc
      rewrite [shift.docOpener_slot hopener]
      rfl
    · obtain rfl := Except.ok.inj hlocate
      rfl

/-- So is the comment of a class or interface. -/
theorem locateClass_eq {anchor : Int} {placement : Placement}
    (hlocate : source.locateClass anchor = .ok placement) :
    source'.locateClass (anchor + shift.positions) = .ok (shift.placement placement) := by
  rw [locateClass] at hlocate ⊢
  rw [hmoves.beforeLeadIn?_eq]
  cases hend : source.beforeLeadIn? anchor with
  | none =>
    rw [hend] at hlocate
    obtain rfl := Except.ok.inj hlocate
    rfl
  | some last =>
    rw [hend] at hlocate
    simp only [Option.map_some, Shift.kind_slot] at hlocate ⊢
    split at hlocate
    · obtain ⟨opener, hopener, hdoc⟩ := except_bind_eq_ok_iff.mp hlocate
      have hfollows := hmoves.followsFirstOpenTag_eq (opener - 1)
      rw [show opener - 1 + shift.positions = opener + shift.positions - 1 by omega] at hfollows
      rewrite [shift.docOpener_slot hopener]
      show (if _ then _ else _) = _
      rw [hfollows]
      by_cases hfile : source.followsFirstOpenTag (opener - 1) = true
      · rw [if_pos hfile] at hdoc ⊢
        obtain rfl := Except.ok.inj hdoc
        rfl
      · rw [if_neg hfile] at hdoc ⊢
        obtain rfl := Except.ok.inj hdoc
        rfl
    · rw [Shift.position_slot, hmoves.followsFirstOpenTag_beforeOrdinary_eq]
      by_cases hfile : source.followsFirstOpenTag (source.beforeOrdinary last.position) = true
      · rw [if_pos hfile] at hlocate ⊢
        obtain rfl := Except.ok.inj hlocate
        rfl
      · rw [if_neg hfile] at hlocate ⊢
        obtain rfl := Except.ok.inj hlocate
        rfl
    · obtain rfl := Except.ok.inj hlocate
      rfl

/-- So is the comment of a file. -/
theorem locateFile_eq {anchor : Int} (hfront : 0 ≤ anchor) {placement? : Option Placement}
    (hlocate : source.locateFile anchor = .ok placement?) :
    source'.locateFile (anchor + shift.positions) = .ok (placement?.map shift.placement) := by
  rw [locateFile] at hlocate ⊢
  rw [show anchor + shift.positions - 1 = anchor - 1 + shift.positions by omega,
    show anchor + shift.positions + 1 = anchor + 1 + shift.positions by omega,
    hmoves.prev?_eq rfl, Option.isSome_map, hmoves.next?_eq_of_none (by omega)]
  by_cases hlater : (source.prev? (fun kind => kind == .openTag) (anchor - 1) none).isSome = true
  · rw [if_pos hlater] at hlocate ⊢
    obtain rfl := Except.ok.inj hlocate
    rfl
  · rw [if_neg hlater] at hlocate ⊢
    cases hnext : source.next? (fun kind => kind != .whitespace) (anchor + 1) none with
    | none =>
      rw [hnext] at hlocate
      obtain rfl := Except.ok.inj hlocate
      rfl
    | some first =>
      rw [hnext] at hlocate
      simp only [Option.map_some, Shift.kind_slot] at hlocate ⊢
      split at hlocate
      · obtain rfl := Except.ok.inj hlocate
        rfl
      · obtain rfl := Except.ok.inj hlocate
        rfl
      · obtain ⟨closer, hcloser, hdoc⟩ := except_bind_eq_ok_iff.mp hlocate
        obtain rfl := Except.ok.inj hdoc
        rewrite [shift.docCloser_slot hcloser]
        rfl
      · obtain rfl := Except.ok.inj hlocate
        rfl

/-- **The comment of a declaration is found where it was.** -/
theorem locate_eq {anchor : Slot} (hanchor : anchor ∈ source.slots) {placement? : Option Placement}
    (hlocate : source.locate anchor.position = .ok placement?) :
    source'.locate (anchor.position + shift.positions) = .ok (placement?.map shift.placement) := by
  have hfront := (bounds_of_mem_slots hanchor).1
  have hget' : source'.get (anchor.position + shift.positions) = .ok (shift.token anchor.token) :=
    get_eq_ok_iff.mpr (token?_of_mem_slots (hmoves.mem_slots hanchor))
  have hget := get_eq_ok_iff.mpr (token?_of_mem_slots hanchor)
  have hkind : (shift.token anchor.token).kind = anchor.kind := rfl
  rw [locate, hget] at hlocate
  rw [locate, hget']
  simp only [bind, Except.bind, hkind] at hlocate ⊢
  cases hsubject : Subject.ofKind? anchor.kind with
  | none =>
    rw [hsubject] at hlocate
    cases hlocate
  | some subject =>
    rw [hsubject] at hlocate
    cases subject with
    | file => exact hmoves.locateFile_eq hfront hlocate
    | classLike =>
      obtain ⟨placement, hclass, hsome⟩ := except_bind_eq_ok_iff.mp hlocate
      obtain rfl := Except.ok.inj hsome
      exact congrArg (some <$> ·) (hmoves.locateClass_eq hclass)
    | function =>
      obtain ⟨placement, hfunction, hsome⟩ := except_bind_eq_ok_iff.mp hlocate
      obtain rfl := Except.ok.inj hsome
      exact congrArg (some <$> ·) (hmoves.locateFunction_eq hfunction)

/-! ## Signatures -/

theorem find_eq {anchor : Int} (hfront : 0 ≤ anchor) {list : ParameterList}
    (hfind : ParameterList.find source anchor = .ok list) :
    ParameterList.find source' (anchor + shift.positions) =
      .ok ⟨list.opener + shift.positions, list.closer + shift.positions⟩ := by
  rw [ParameterList.find] at hfind ⊢
  rw [show anchor + shift.positions + 1 = anchor + 1 + shift.positions by omega,
    hmoves.next?_eq_of_none (by omega)]
  cases hnext : source.next? (fun kind => kind == .openParenthesis) (anchor + 1) none with
  | none =>
    rw [hnext] at hfind
    cases hfind
  | some slot =>
    rw [hnext] at hfind
    cases hcloser : slot.token.closer? with
    | none => simp [hcloser] at hfind
    | some closer =>
      have hcloser' : (shift.slot slot).token.closer? = some (closer + shift.positions) := by
        show slot.token.closer?.map _ = _
        rw [hcloser]
        rfl
      simp only [hcloser, Except.ok.injEq] at hfind
      simp only [Option.map_some, hcloser', ← hfind, Shift.position_slot]

/-- The name of a function is the same. -/
theorem nameFromTokens_eq {anchor : Int} (hfront : 0 ≤ anchor) {name? : Option String}
    (hname : SignatureReader.nameFromTokens source anchor = .ok name?) :
    SignatureReader.nameFromTokens source' (anchor + shift.positions) = .ok name? := by
  obtain ⟨list, hfind, hname⟩ := except_bind_eq_ok_iff.mp hname
  obtain rfl := Except.ok.inj hname
  have hnext : source'.next? (fun kind => kind == .identifier) (anchor + shift.positions + 1)
      (some (list.opener + shift.positions)) =
        (source.next? (fun kind => kind == .identifier) (anchor + 1)
          (some list.opener)).map shift.slot := by
    rw [show anchor + shift.positions + 1 = anchor + 1 + shift.positions by omega]
    exact hmoves.next?_eq (by omega) (some list.opener)
  rw [SignatureReader.nameFromTokens, hmoves.find_eq hfront hfind]
  show Except.ok ((source'.next? (fun kind => kind == .identifier) (anchor + shift.positions + 1)
    (some (list.opener + shift.positions))).map Slot.content) = _
  rw [hnext, Option.map_map]
  rfl

/-- A step through a parameter list leads to the same place, and it stays behind the front where
references do. -/
theorem step_eq (hinside : source.RefersInside) {walk next : ParameterWalk}
    (hfront : 0 ≤ walk.position) (hstep : walk.step source = .ok next) :
    (shift.walk walk).step source' = .ok (shift.walk next) ∧ 0 ≤ next.position := by
  rw [ParameterWalk.step, get] at hstep
  cases hat : source.token? walk.position with
  | none =>
    rw [hat] at hstep
    cases hstep
  | some token =>
    rw [hat] at hstep
    obtain rfl := Except.ok.inj hstep
    have hat' : source'.token? (shift.walk walk).position = some (shift.token token) := by
      show source'.token? (walk.position + shift.positions) = _
      rw [hmoves.token?_eq hfront, hat]
      rfl
    refine ⟨?_, ?_⟩
    · rw [ParameterWalk.step_eq_ok hat', shift.advance_walk]
    · rw [ParameterWalk.advance]
      split
      · rename_i closer _ hcloser
        have hslot : ⟨walk.position, token⟩ ∈ source.slots := mem_slots_iff.mpr ⟨hfront, hat⟩
        have hcloser := (hinside.closer _ hslot closer hcloser).1
        show 0 ≤ closer + 1
        omega
      · rw [ParameterWalk.position_read]
        omega

/-- A walk through a parameter list that ends finds the same parameters, with steps to spare. -/
theorem run?_eq (hinside : source.RefersInside) {closer : Int} {steps steps' : Nat}
    (hsteps : steps ≤ steps') {walk : ParameterWalk} (hfront : 0 ≤ walk.position)
    {names : List String} (hrun : ParameterWalk.run? source closer steps walk = some (.ok names)) :
    ParameterWalk.run? source' (closer + shift.positions) steps' (shift.walk walk) =
      some (.ok names) := by
  induction steps generalizing walk steps' with
  | zero =>
    rcases ParameterWalk.run?_eq_some_iff.mp hrun with ⟨hend, rfl⟩ | ⟨_, _, _, hzero, -⟩
    · exact ParameterWalk.run?_eq_some_iff.mpr (Or.inl ⟨Int.add_le_add_right hend _, rfl⟩)
    · cases hzero
  | succ steps ih =>
    apply ParameterWalk.run?_eq_some_iff.mpr
    rcases ParameterWalk.run?_eq_some_iff.mp hrun with
      ⟨hend, rfl⟩ | ⟨hbefore, fewer, next, hfewer, hstep, hrest⟩
    · exact Or.inl ⟨Int.add_le_add_right hend _, rfl⟩
    · obtain rfl := Nat.succ.inj hfewer
      obtain ⟨hstep', hnext⟩ := hmoves.step_eq hinside hfront hstep
      obtain ⟨more, rfl⟩ := Nat.exists_eq_add_of_le' (Nat.le_trans (Nat.le_add_left 1 steps) hsteps)
      exact Or.inr ⟨Int.add_lt_add_right hbefore _, more, _, rfl, hstep',
        ih (by omega) hnext hrest⟩

/-- **The parameters of a function are the same.** -/
theorem parametersFromTokens_eq (hinside : source.RefersInside) {anchor : Int} (hfront : 0 ≤ anchor)
    {names : List String}
    (hnames : SignatureReader.parametersFromTokens source anchor = .ok names) :
    SignatureReader.parametersFromTokens source' (anchor + shift.positions) = .ok names := by
  obtain ⟨list, hfind, hnames⟩ := except_bind_eq_ok_iff.mp hnames
  have hbehind : 0 ≤ (ParameterWalk.start list).position := by
    obtain ⟨slot, hslot, hopener, -⟩ := ParameterList.find_eq_ok hfind
    have hslot := (bounds_of_mem_slots hslot).1
    show 0 ≤ list.opener + 1
    omega
  have hsteps : SignatureReader.stepBound source ≤ SignatureReader.stepBound source' := by
    have hsize := hmoves.size_eq
    rw [SignatureReader.stepBound, SignatureReader.stepBound]
    omega
  have hstart : ParameterWalk.start ⟨list.opener + shift.positions, list.closer + shift.positions⟩ =
      shift.walk (ParameterWalk.start list) := by
    simp only [ParameterWalk.start, Shift.walk]
    congr 1
    omega
  cases hrun : ParameterWalk.run? source list.closer (SignatureReader.stepBound source)
      (ParameterWalk.start list) with
  | none =>
    rw [hrun] at hnames
    cases hnames
  | some outcome =>
    rw [hrun] at hnames
    obtain rfl : outcome = .ok names := hnames
    have hrun' := hmoves.run?_eq hinside hsteps hbehind hrun
    rw [SignatureReader.parametersFromTokens, hmoves.find_eq hfront hfind]
    simp only [bind, Except.bind, hstart, hrun']

end Source.Moves

end DocLint

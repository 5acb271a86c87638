import DocLint.Proofs.Correspondence

/-!
# Rewriting the texts of comments

Edits give text tokens of doc comments new texts and touch nothing else. `Source.Rewrites` says that
one source arises from another in this way, with a relation that tells which new texts are allowed.

Two such sources correspond token by token, so everything that is found by kinds, lines and
references is found alike. Since the tokens of a signature are no text tokens, every function
declares the same in both.
-/

namespace DocLint

/-- Corresponding lists correspond in what remains after a test that corresponding items pass
alike. -/
theorem forall₂_dropWhile {α : Type} {rel : α → α → Prop} {test : α → Bool}
    (htest : ∀ item item', rel item item' → test item' = test item) {items items' : List α}
    (hitems : List.Forall₂ rel items items') :
    List.Forall₂ rel (items.dropWhile test) (items'.dropWhile test) := by
  induction hitems with
  | nil => exact .nil
  | @cons item item' rest rest' hitem hrest ih =>
    rw [List.dropWhile_cons, List.dropWhile_cons, htest item item' hitem]
    split
    · exact ih
    · exact .cons hitem hrest

/-- Equally many of the first items pass such a test. -/
theorem length_takeWhile_of_forall₂ {α : Type} {rel : α → α → Prop} {test : α → Bool}
    (htest : ∀ item item', rel item item' → test item' = test item) {items items' : List α}
    (hitems : List.Forall₂ rel items items') :
    (items'.takeWhile test).length = (items.takeWhile test).length := by
  induction hitems with
  | nil => rfl
  | @cons item item' rest rest' hitem _ ih =>
    rw [List.takeWhile_cons, List.takeWhile_cons, htest item item' hitem]
    split
    · rw [List.length_cons, List.length_cons, ih]
    · rfl

/-! ## Slots -/

/-- What may become of a slot: it stays, or it is a text token and gets a text that is allowed. -/
def Slot.Rewrites (allowed : Slot → String → Prop) (slot slot' : Slot) : Prop :=
  slot' = slot ∨
    slot.kind = .docString ∧ ∃ content, allowed slot content ∧ slot' = slot.withText content

namespace Slot.Rewrites

variable {allowed : Slot → String → Prop} {slot slot' : Slot}
variable (hslot : Slot.Rewrites allowed slot slot')

include hslot

/-- Nothing but the text changes. -/
theorem alike : slot.Alike slot' := by
  rcases hslot with rfl | ⟨-, content, -, rfl⟩ <;> rfl

theorem position_eq : slot'.position = slot.position := hslot.alike.position_eq

theorem kind_eq : slot'.kind = slot.kind := hslot.alike.kind_eq

theorem line_eq : slot'.line = slot.line := hslot.alike.line_eq

/-- Only text tokens change. -/
theorem eq_of_kind_ne (hkind : slot.kind ≠ .docString) : slot' = slot := by
  rcases hslot with rfl | ⟨hstring, -⟩
  · rfl
  · exact absurd hstring hkind

end Slot.Rewrites

namespace Source

/-- The second source is the first one with some texts rewritten. -/
structure Rewrites (allowed : Slot → String → Prop) (source source' : Source) : Prop where
  /-- No token is added or removed. -/
  size_eq : source'.size = source.size
  /-- Every token stays or gets a text that is allowed, also when it is counted from the back. -/
  token? : ∀ position token, source.token? position = some token →
    ∃ token', source'.token? position = some token' ∧
      Slot.Rewrites allowed ⟨position, token⟩ ⟨position, token'⟩

namespace Rewrites

variable {allowed : Slot → String → Prop} {source source' : Source}
variable (hrewrites : Rewrites allowed source source')

include hrewrites

theorem mono {allowed' : Slot → String → Prop}
    (hallowed : ∀ slot content, allowed slot content → allowed' slot content) :
    Rewrites allowed' source source' := by
  refine ⟨hrewrites.size_eq, ?_⟩
  intro position token hat
  obtain ⟨token', hat', hslot⟩ := hrewrites.token? position token hat
  refine ⟨token', hat', hslot.imp_right ?_⟩
  rintro ⟨hkind, content, hcontent, hnew⟩
  exact ⟨hkind, content, hallowed _ content hcontent, hnew⟩

/-- Token by token, texts are rewritten and nothing else. -/
theorem corresponds : source.Corresponds (Slot.Rewrites allowed) source' :=
  ⟨hrewrites.size_eq, hrewrites.token?⟩

theorem alike : source.Alike source' :=
  hrewrites.corresponds.mono fun _ _ => Slot.Rewrites.alike

/-- Tokens that are no text tokens are the same in both sources. -/
theorem token?_eq_of_kind_ne {position : Int} {token : Token}
    (hat : source.token? position = some token) (hkind : token.kind ≠ .docString) :
    source'.token? position = some token := by
  obtain ⟨token', hat', hslot⟩ := hrewrites.token? position token hat
  rw [hat', (Slot.mk.inj (hslot.eq_of_kind_ne hkind)).2]

/-- The slots of the two sources correspond one by one. -/
theorem slots_rel : List.Forall₂ (Slot.Rewrites allowed) source.slots source'.slots :=
  hrewrites.corresponds.slots_rel

/-- Slots that are no texts are the same in both sources. -/
theorem mem_slots_iff_of_kind_ne {slot : Slot} (hkind : slot.kind ≠ .docString) :
    slot ∈ source'.slots ↔ slot ∈ source.slots := by
  refine ⟨?_, ?_⟩
  · intro hslot'
    obtain ⟨old, hold, hrel⟩ := exists_partner_of_forall₂ hrewrites.slots_rel hslot'
    rw [hrel.kind_eq] at hkind
    rwa [hrel.eq_of_kind_ne hkind]
  · intro hslot
    obtain ⟨hfront, hat⟩ := mem_slots_iff.mp hslot
    exact mem_slots_iff.mpr ⟨hfront, hrewrites.token?_eq_of_kind_ne hat hkind⟩

/-- Names are no texts of comments, so they stay. -/
theorem namesAlike : source.Corresponds Slot.NamesAlike source' := by
  apply hrewrites.corresponds.mono
  intro slot slot' hslot
  refine ⟨hslot.alike, ?_⟩
  rintro (hkind | hkind) <;> exact hslot.eq_of_kind_ne (by rw [hkind]; decide)

end Rewrites

end Source

end DocLint

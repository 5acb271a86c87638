import DocLint.Placement
import DocLint.Proofs.BlockReading
import DocLint.Signature

/-!
# Sources with corresponding tokens

Two sources correspond if they have equally many tokens and the two tokens at each position stand in
a given relation. Whatever the relation, slots and stretches then stand in it one by one.

The weakest relation of interest is that tokens differ in their texts only. It is enough for all
that is found by kinds, lines and references: the searches and the comment of every declaration.
What a function declares is also read off texts, namely those of identifiers and variables; it is
the same where these stay.
-/

namespace DocLint

/-! ## Slots -/

/-- The slot with a new text. -/
def Slot.withText (slot : Slot) (content : String) : Slot :=
  ⟨slot.position, { slot.token with content }⟩

/-- The slots differ in their texts only. -/
def Slot.Alike (slot slot' : Slot) : Prop :=
  slot' = slot.withText slot'.content

namespace Slot.Alike

variable {slot slot' : Slot}

theorem refl (slot : Slot) : slot.Alike slot := rfl

theorem trans {slot'' : Slot} (hfirst : slot.Alike slot') (hsecond : slot'.Alike slot'') :
    slot.Alike slot'' := by
  rw [Alike, withText] at hfirst hsecond ⊢
  rw [hsecond, hfirst]

variable (halike : slot.Alike slot')

include halike

theorem position_eq : slot'.position = slot.position :=
  congrArg (fun slot => slot.position) halike

theorem kind_eq : slot'.kind = slot.kind :=
  congrArg (fun slot => slot.kind) halike

theorem line_eq : slot'.line = slot.line :=
  congrArg (fun slot => slot.line) halike

theorem opener?_eq : slot'.token.opener? = slot.token.opener? :=
  congrArg (fun slot => slot.token.opener?) halike

theorem closer?_eq : slot'.token.closer? = slot.token.closer? :=
  congrArg (fun slot => slot.token.closer?) halike

theorem tagPositions_eq : slot'.token.tagPositions = slot.token.tagPositions :=
  congrArg (fun slot => slot.token.tagPositions) halike

end Slot.Alike

/-- The slots differ in their texts only, and not even in these if they hold a name. -/
def Slot.NamesAlike (slot slot' : Slot) : Prop :=
  slot.Alike slot' ∧ (slot.kind = .identifier ∨ slot.kind = .variableName → slot' = slot)

/-- A walk through a parameter list looks at no texts but those of variables. -/
theorem ParameterWalk.advance_eq {position : Int} {token token' : Token}
    (hslot : Slot.NamesAlike ⟨position, token⟩ ⟨position, token'⟩) (walk : ParameterWalk) :
    walk.advance token' = walk.advance token := by
  obtain ⟨halike, hname⟩ := hslot
  by_cases hvariable : token.kind = .variableName
  · rw [(Slot.mk.inj (hname (Or.inr hvariable))).2]
  · rw [(Slot.mk.inj halike).2]
    unfold advance read
    dsimp only
    split
    · rfl
    · split
      · rfl
      · rfl
      · rename_i hkind
        exact absurd hkind hvariable
      · rfl

/-- A reader of signatures that does not look at the tokens. -/
def SignatureReader.IgnoresTokens (reader : SignatureReader) : Prop :=
  ∀ source source' anchor, reader.name? source' anchor = reader.name? source anchor ∧
    reader.parameters source' anchor = reader.parameters source anchor

namespace Source

/-- Whether a position holds a token depends on the number of tokens only. -/
theorem token?_eq_none_iff {source : Source} {position : Int} :
    source.token? position = none ↔ resolve? source.size position = none := by
  unfold token?
  cases hindex : resolve? source.size position with
  | none => simp
  | some index =>
    have hlt : index < source.tokens.size := by
      unfold resolve? at hindex
      unfold size at hindex
      split at hindex
      · split at hindex
        · obtain rfl := Option.some.inj hindex
          omega
        · cases hindex
      · split at hindex
        · obtain rfl := Option.some.inj hindex
          omega
        · cases hindex
    simp [hlt]

/-! ## Correspondence -/

/-- The tokens of the two sources correspond, position by position. -/
structure Corresponds (rel : Slot → Slot → Prop) (source source' : Source) : Prop where
  /-- There are equally many of them. -/
  size_eq : source'.size = source.size
  /-- The tokens at a position stand in the relation, also when it is counted from the back. -/
  token? : ∀ position token, source.token? position = some token →
    ∃ token', source'.token? position = some token' ∧ rel ⟨position, token⟩ ⟨position, token'⟩

/-- The two sources differ in texts only. -/
abbrev Alike (source source' : Source) : Prop :=
  source.Corresponds Slot.Alike source'

namespace Corresponds

variable {rel : Slot → Slot → Prop} {source source' : Source}
variable (hcorresponds : source.Corresponds rel source')

include hcorresponds

theorem mono {rel' : Slot → Slot → Prop}
    (hweaker : ∀ slot slot', rel slot slot' → rel' slot slot') :
    source.Corresponds rel' source' := by
  refine ⟨hcorresponds.size_eq, ?_⟩
  intro position token hat
  obtain ⟨token', hat', hslot⟩ := hcorresponds.token? position token hat
  exact ⟨token', hat', hweaker _ _ hslot⟩

/-- The tokens at a position correspond, if there are any. -/
theorem token?_rel (position : Int) :
    Option.Rel (fun token token' => rel ⟨position, token⟩ ⟨position, token'⟩)
      (source.token? position) (source'.token? position) := by
  cases hat : source.token? position with
  | none =>
    have hat' : source'.token? position = none := by
      rw [token?_eq_none_iff, hcorresponds.size_eq, ← token?_eq_none_iff]
      exact hat
    rw [hat']
    exact .none
  | some token =>
    obtain ⟨token', hat', hslot⟩ := hcorresponds.token? position token hat
    rw [hat']
    exact .some hslot

theorem slot?_rel (index : Nat) :
    Option.Rel rel (source.slot? index) (source'.slot? index) := by
  have hrel := hcorresponds.token?_rel index
  rw [token?_natCast, token?_natCast] at hrel
  unfold slot?
  generalize source.tokens[index]? = token?, source'.tokens[index]? = token?' at hrel ⊢
  cases hrel with
  | none => exact .none
  | some hslot => exact .some hslot

/-- The slots of the two sources correspond one by one. -/
theorem slots_rel : List.Forall₂ rel source.slots source'.slots := by
  have hlength : source.slots.length = source'.slots.length := by
    simpa [slots, size] using hcorresponds.size_eq.symm
  refine List.forall₂_of_length_eq_of_get hlength fun index hindex hindex' => ?_
  have hsome : ∀ (other : Source) (h : index < other.slots.length),
      other.slot? index = some (other.slots.get ⟨index, h⟩) := by
    intro other h
    have hsize : index < other.tokens.size := by simpa [slots] using h
    simp [slot?, slots, hsize]
  have hrel := hcorresponds.slot?_rel index
  rw [hsome source hindex, hsome source' hindex'] at hrel
  cases hrel with
  | some hslot => exact hslot

theorem stretchFrom_rel (count : Nat) (position : Int) :
    List.Forall₂ rel (source.stretchFrom count position).slots
        (source'.stretchFrom count position).slots ∧
      (source'.stretchFrom count position).missing? =
        (source.stretchFrom count position).missing? := by
  induction count generalizing position with
  | zero => exact ⟨.nil, rfl⟩
  | succ count ih =>
    have hrel := hcorresponds.token?_rel position
    unfold stretchFrom
    generalize source.token? position = token?, source'.token? position = token?' at hrel ⊢
    cases hrel with
    | none => exact ⟨.nil, rfl⟩
    | some hslot => exact ⟨.cons hslot (ih (position + 1)).1, (ih (position + 1)).2⟩

/-- Stretches have corresponding slots and end alike. -/
theorem stretch_rel (start stop : Int) :
    List.Forall₂ rel (source.stretch start stop).slots (source'.stretch start stop).slots ∧
      (source'.stretch start stop).missing? = (source.stretch start stop).missing? :=
  hcorresponds.stretchFrom_rel _ _

end Corresponds

/-! ## Sources that differ in texts only -/

namespace Alike

theorem refl (source : Source) : source.Alike source :=
  ⟨rfl, fun _ token hat => ⟨token, hat, .refl _⟩⟩

theorem trans {source source' source'' : Source} (hfirst : source.Alike source')
    (hsecond : source'.Alike source'') : source.Alike source'' := by
  refine ⟨hsecond.size_eq.trans hfirst.size_eq, ?_⟩
  intro position token hat
  obtain ⟨token', hat', hslot⟩ := hfirst.token? position token hat
  obtain ⟨token'', hat'', hslot'⟩ := hsecond.token? position token' hat'
  exact ⟨token'', hat'', hslot.trans hslot'⟩

variable {source source' : Source} (halike : source.Alike source')

include halike

theorem line_eq (position : Int) : source'.line position = source.line position := by
  have hrel := halike.token?_rel position
  unfold line get
  generalize source.token? position = token?, source'.token? position = token?' at hrel ⊢
  cases hrel with
  | none => rfl
  | some hslot => exact congrArg Except.ok hslot.line_eq

theorem matchesAt_eq (wanted : Kind → Bool) :
    source'.matchesAt wanted = source.matchesAt wanted := by
  funext index
  have hrel := halike.token?_rel index
  rw [token?_natCast, token?_natCast] at hrel
  unfold matchesAt
  generalize source.tokens[index]? = token?, source'.tokens[index]? = token?' at hrel ⊢
  cases hrel with
  | none => rfl
  | some hslot => exact congrArg wanted hslot.kind_eq

end Alike

/-! ## Searching -/

section Searching

variable {rel : Slot → Slot → Prop} {source source' : Source}
variable (hcorresponds : source.Corresponds rel source') (halike : source.Alike source')

include hcorresponds halike

/-- The forward searches find corresponding slots. -/
theorem Corresponds.next?_rel (wanted : Kind → Bool) (start : Int) (stop? : Option Int) :
    Option.Rel rel (source.next? wanted start stop?) (source'.next? wanted start stop?) := by
  unfold next? nextIndex?
  rw [halike.matchesAt_eq, halike.size_eq]
  generalize List.find? _ _ = index?
  cases index? with
  | none => exact .none
  | some index => exact hcorresponds.slot?_rel index

/-- The backward searches find corresponding slots. -/
theorem Corresponds.prev?_rel (wanted : Kind → Bool) (start : Int) (stop? : Option Int) :
    Option.Rel rel (source.prev? wanted start stop?) (source'.prev? wanted start stop?) := by
  unfold prev? prevIndex?
  rw [halike.matchesAt_eq, halike.size_eq]
  generalize List.find? _ _ = index?
  cases index? with
  | none => exact .none
  | some index => exact hcorresponds.slot?_rel index

end Searching

namespace Alike

variable {source source' : Source} (halike : source.Alike source')

include halike

theorem next?_rel (wanted : Kind → Bool) (start : Int) (stop? : Option Int) :
    Option.Rel Slot.Alike (source.next? wanted start stop?) (source'.next? wanted start stop?) :=
  Corresponds.next?_rel halike halike wanted start stop?

theorem prev?_rel (wanted : Kind → Bool) (start : Int) (stop? : Option Int) :
    Option.Rel Slot.Alike (source.prev? wanted start stop?) (source'.prev? wanted start stop?) :=
  Corresponds.prev?_rel halike halike wanted start stop?

/-! ## Comments of declarations -/

theorem beforeLeadIn?_rel (position : Int) :
    Option.Rel Slot.Alike (source.beforeLeadIn? position) (source'.beforeLeadIn? position) :=
  halike.prev?_rel _ _ _

theorem functionCommentEnd?_rel (anchor : Int) :
    Option.Rel Slot.Alike (source.functionCommentEnd? anchor)
      (source'.functionCommentEnd? anchor) := by
  have hlast := halike.beforeLeadIn?_rel anchor
  unfold functionCommentEnd?
  generalize source.beforeLeadIn? anchor = last?, source'.beforeLeadIn? anchor = last?' at hlast ⊢
  cases hlast with
  | none => exact .none
  | @some last last' hlast =>
    dsimp only
    rw [hlast.kind_eq]
    split
    · have hbefore := halike.beforeLeadIn?_rel last.position
      rw [hlast.position_eq]
      generalize source.beforeLeadIn? last.position = before?,
        source'.beforeLeadIn? last.position = before?' at hbefore ⊢
      cases hbefore with
      | none => exact .some hlast
      | some hbefore =>
        dsimp only
        rw [hbefore.line_eq, hlast.line_eq]
        split
        · exact .some hbefore
        · exact .some hlast
    · exact .some hlast

theorem locateFunction_eq (anchor : Int) :
    source'.locateFunction anchor = source.locateFunction anchor := by
  have hend := halike.functionCommentEnd?_rel anchor
  unfold locateFunction
  generalize source.functionCommentEnd? anchor = last?, source'.functionCommentEnd? anchor = last?'
    at hend ⊢
  cases hend with
  | none => rfl
  | some hlast =>
    dsimp only
    rw [hlast.kind_eq, hlast.position_eq, Slot.docOpener, Slot.docOpener, hlast.opener?_eq,
      hlast.position_eq]

theorem isSome_prev?_eq (wanted : Kind → Bool) (start : Int) :
    (source'.prev? wanted start none).isSome = (source.prev? wanted start none).isSome := by
  have hrel := halike.prev?_rel wanted start none
  generalize source.prev? wanted start none = slot?, source'.prev? wanted start none = slot?'
    at hrel ⊢
  cases hrel <;> rfl

theorem followsFirstOpenTag_eq (position : Int) :
    source'.followsFirstOpenTag position = source.followsFirstOpenTag position := by
  have hrel := halike.prev?_rel (fun kind => kind != .whitespace) position none
  unfold followsFirstOpenTag
  generalize source.prev? (fun kind => kind != .whitespace) position none = before?,
    source'.prev? (fun kind => kind != .whitespace) position none = before?' at hrel ⊢
  cases hrel with
  | none => rfl
  | some hbefore =>
    dsimp only
    rw [hbefore.kind_eq, hbefore.position_eq, ← Option.not_isSome, ← Option.not_isSome,
      halike.isSome_prev?_eq]

theorem beforeOrdinary_eq (position : Int) :
    source'.beforeOrdinary position = source.beforeOrdinary position := by
  have hrel := halike.prev?_rel (fun kind => kind != .comment && kind != .whitespace)
    (position - 1) none
  unfold beforeOrdinary
  generalize source.prev? _ (position - 1) none = slot?,
    source'.prev? _ (position - 1) none = slot?' at hrel ⊢
  cases hrel with
  | none => rfl
  | some hslot => exact hslot.position_eq

theorem locateClass_eq (anchor : Int) : source'.locateClass anchor = source.locateClass anchor := by
  have hlast := halike.beforeLeadIn?_rel anchor
  unfold locateClass
  generalize source.beforeLeadIn? anchor = last?, source'.beforeLeadIn? anchor = last?' at hlast ⊢
  cases hlast with
  | none => rfl
  | some hlast =>
    dsimp only
    simp only [hlast.kind_eq, hlast.position_eq, Slot.docOpener, hlast.opener?_eq,
      halike.followsFirstOpenTag_eq, halike.beforeOrdinary_eq]

theorem locateFile_eq (anchor : Int) : source'.locateFile anchor = source.locateFile anchor := by
  have hrel := halike.next?_rel (fun kind => kind != .whitespace) (anchor + 1) none
  unfold locateFile
  rw [halike.isSome_prev?_eq]
  generalize source.next? (fun kind => kind != .whitespace) (anchor + 1) none = first?,
    source'.next? (fun kind => kind != .whitespace) (anchor + 1) none = first?' at hrel ⊢
  cases hrel with
  | none => rfl
  | some hfirst =>
    dsimp only
    simp only [hfirst.kind_eq, hfirst.position_eq, Slot.docCloser, hfirst.closer?_eq]

/-- **Comments are found alike.** Every declaration has the same comment in both sources. -/
theorem locate_eq (anchor : Int) : source'.locate anchor = source.locate anchor := by
  have hrel := halike.token?_rel anchor
  unfold locate get
  generalize source.token? anchor = token?, source'.token? anchor = token?' at hrel ⊢
  cases hrel with
  | none => rfl
  | @some token token' hslot =>
    have hkind : token'.kind = token.kind := hslot.kind_eq
    simp only [bind, Except.bind, hkind, halike.locateFile_eq, halike.locateClass_eq,
      halike.locateFunction_eq]

/-- So is the parameter list of every function. -/
theorem find_eq (anchor : Int) :
    ParameterList.find source' anchor = ParameterList.find source anchor := by
  have hrel := halike.next?_rel (fun kind => kind == .openParenthesis) (anchor + 1) none
  unfold ParameterList.find
  generalize source.next? _ (anchor + 1) none = slot?, source'.next? _ (anchor + 1) none = slot?'
    at hrel ⊢
  cases hrel with
  | none => rfl
  | some hslot =>
    dsimp only
    rw [hslot.closer?_eq, hslot.position_eq]

end Alike

/-! ## Signatures -/

section Signatures

variable {source source' : Source} (hnames : source.Corresponds Slot.NamesAlike source')

include hnames

theorem alike_of_namesAlike : source.Alike source' :=
  hnames.mono fun _ _ hslot => hslot.1

theorem nameFromTokens_eq (anchor : Int) :
    SignatureReader.nameFromTokens source' anchor =
      SignatureReader.nameFromTokens source anchor := by
  have halike := alike_of_namesAlike hnames
  have hnext : ∀ stop? : Option Int,
      source'.next? (fun kind => kind == .identifier) (anchor + 1) stop? =
        source.next? (fun kind => kind == .identifier) (anchor + 1) stop? := by
    intro stop?
    have hrel := hnames.next?_rel halike (fun kind => kind == .identifier) (anchor + 1) stop?
    cases hfound : source.next? (fun kind => kind == .identifier) (anchor + 1) stop? with
    | none =>
      rw [hfound] at hrel
      generalize source'.next? _ (anchor + 1) stop? = slot?' at hrel ⊢
      cases hrel
      rfl
    | some slot =>
      obtain ⟨-, -, -, hkind, -⟩ := next?_eq_some_iff.mp hfound
      rw [hfound] at hrel
      generalize source'.next? _ (anchor + 1) stop? = slot?' at hrel ⊢
      cases hrel with
      | some hslot => rw [hslot.2 (Or.inl (by simpa using hkind))]
  unfold SignatureReader.nameFromTokens
  simp only [halike.find_eq, hnext]

theorem step_eq (walk : ParameterWalk) : walk.step source' = walk.step source := by
  have hrel := hnames.token?_rel walk.position
  unfold ParameterWalk.step get
  generalize source.token? walk.position = token?, source'.token? walk.position = token?' at hrel ⊢
  cases hrel with
  | none => rfl
  | some hslot => exact congrArg Except.ok (ParameterWalk.advance_eq hslot walk)

theorem run?_eq (closer : Int) (steps : Nat) (walk : ParameterWalk) :
    ParameterWalk.run? source' closer steps walk = ParameterWalk.run? source closer steps walk := by
  induction steps generalizing walk with
  | zero => rfl
  | succ steps ih =>
    unfold ParameterWalk.run?
    rw [step_eq hnames]
    simp only [ih]

theorem parametersFromTokens_eq (anchor : Int) :
    SignatureReader.parametersFromTokens source' anchor =
      SignatureReader.parametersFromTokens source anchor := by
  unfold SignatureReader.parametersFromTokens SignatureReader.stepBound
  simp only [(alike_of_namesAlike hnames).find_eq, run?_eq hnames, hnames.size_eq]

/-- **Signatures are read alike** where names stay. -/
theorem signature_eq {reader : SignatureReader}
    (hreader : reader = .ofTokens ∨ reader.IgnoresTokens) (anchor : Int) :
    reader.name? source' anchor = reader.name? source anchor ∧
      reader.parameters source' anchor = reader.parameters source anchor := by
  rcases hreader with rfl | hignores
  · exact ⟨nameFromTokens_eq hnames anchor, parametersFromTokens_eq hnames anchor⟩
  · exact hignores source source' anchor

end Signatures

end Source

end DocLint

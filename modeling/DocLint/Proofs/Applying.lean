import DocLint.Fixing
import DocLint.Proofs.InheritMarker
import DocLint.Proofs.Rewriting

/-!
# Applying edits

Edits can be applied when each is aimed at a token and no two disagree about one. This module proves
that this is all: the fault search, which stops at the first edit that offends, finds none exactly
then. After edits have been applied, every one of them is in force.

The edits that checks ask for respace the text of a parameter tag. A set of such edits rewrites the
source in the sense of `Source.Rewrites`, with respaced texts only.
-/

namespace DocLint

/-! ## Edits that agree -/

/-- No two edits disagree about a token. -/
def Edit.Agree (edits : List Edit) : Prop :=
  ∀ edit ∈ edits, ∀ other ∈ edits, edit.position = other.position → edit.content = other.content

/-- Every edit is aimed at one of `size` tokens. -/
def Edit.Inside (size : Nat) (edits : List Edit) : Prop :=
  ∀ edit ∈ edits, 0 ≤ edit.position ∧ edit.position < size

/-- Every edit is in force in a source: the token that it is aimed at has its text. -/
def Edit.InForce (source : Source) (edits : List Edit) : Prop :=
  ∀ edit ∈ edits, ∃ token, source.token? edit.position = some token ∧ token.content = edit.content

namespace Edit

variable {size : Nat} {earlier edits : List Edit} {edit : Edit}

theorem Agree.mono (hagree : Agree edits) (hsubset : earlier ⊆ edits) : Agree earlier :=
  fun edit hedit other hother => hagree edit (hsubset hedit) other (hsubset hother)

/-- An edit is faultless when it is aimed at a token and agrees with the first edit of it. -/
theorem fault?_eq_none_iff :
    edit.fault? size earlier = none ↔
      (0 ≤ edit.position ∧ edit.position < size) ∧
        ∀ other, (earlier.find? fun other => other.position == edit.position) = some other →
          other.content = edit.content := by
  unfold fault?
  by_cases hinside : 0 ≤ edit.position ∧ edit.position < size
  · rw [if_pos hinside]
    cases earlier.find? fun other => other.position == edit.position with
    | none => simp [hinside]
    | some other => by_cases hcontent : other.content = edit.content <;> simp [hinside, hcontent]
  · simp [hinside]

/-- An edit that agrees with the first edit of its token agrees with all, if they agree. -/
theorem agree_concat (hagree : Agree earlier)
    (hfirst : ∀ other, (earlier.find? fun other => other.position == edit.position) = some other →
      other.content = edit.content) : Agree (earlier ++ [edit]) := by
  have hnew : ∀ other ∈ earlier, other.position = edit.position → other.content = edit.content := by
    intro other hother hposition
    cases hfind : earlier.find? fun other => other.position == edit.position with
    | none =>
      have hnone := List.find?_eq_none.mp hfind other hother
      simp [hposition] at hnone
    | some first =>
      have hposition' : first.position = edit.position := by simpa using List.find?_some hfind
      rw [hagree other hother first (List.mem_of_find?_eq_some hfind)
        (hposition.trans hposition'.symm), hfirst first hfind]
  intro one hone two htwo hposition
  rw [List.mem_append, List.mem_singleton] at hone htwo
  rcases hone with hone | rfl <;> rcases htwo with htwo | rfl
  · exact hagree one hone two htwo hposition
  · exact hnew one hone hposition
  · exact (hnew two htwo hposition.symm).symm
  · rfl

/-- The search for a fault, with the edits that have been passed. -/
theorem firstFault?_eq_none_iff_of_agree (size : Nat) (edits : List Edit)
    (hearlier : Agree earlier) :
    firstFault? size earlier edits = none ↔ Inside size edits ∧ Agree (earlier ++ edits) := by
  induction edits generalizing earlier with
  | nil =>
    rw [List.append_nil]
    exact iff_of_true rfl ⟨fun _ hmem => absurd hmem List.not_mem_nil, hearlier⟩
  | cons edit rest ih =>
    have happend : earlier ++ edit :: rest = (earlier ++ [edit]) ++ rest := by simp
    unfold firstFault?
    refine ⟨fun hnone => ?_, fun ⟨hinside, hagree⟩ => ?_⟩
    · cases hfault : edit.fault? size earlier with
      | some fault =>
        rw [hfault] at hnone
        cases hnone
      | none =>
        rw [hfault] at hnone
        obtain ⟨hedit, hfirst⟩ := fault?_eq_none_iff.mp hfault
        obtain ⟨hrest, hagree⟩ := (ih (agree_concat hearlier hfirst)).mp hnone
        refine ⟨?_, happend ▸ hagree⟩
        intro other hother
        rcases List.mem_cons.mp hother with rfl | hother
        · exact hedit
        · exact hrest other hother
    · have hfault : edit.fault? size earlier = none := by
        refine fault?_eq_none_iff.mpr ⟨hinside edit List.mem_cons_self, fun other hfind => ?_⟩
        refine hagree other ?_ edit ?_ (by simpa using List.find?_some hfind)
        · exact List.mem_append_left _ (List.mem_of_find?_eq_some hfind)
        · exact List.mem_append_right _ List.mem_cons_self
      rw [hfault]
      rw [happend] at hagree
      refine (ih (hagree.mono (List.subset_append_left _ _))).mpr ⟨?_, hagree⟩
      exact fun other hother => hinside other (List.mem_cons_of_mem edit hother)

end Edit

namespace Source

variable {source fixed : Source} {edits : List Edit}

/-- **When edits can be applied.** Each is aimed at a token and no two disagree. -/
theorem apply_eq_ok_iff :
    source.apply edits = .ok fixed ↔
      (Edit.Inside source.size edits ∧ Edit.Agree edits) ∧ fixed = source.edited edits := by
  have hnil : Edit.Agree [] := fun _ hmem => absurd hmem List.not_mem_nil
  have hfault := Edit.firstFault?_eq_none_iff_of_agree source.size edits hnil
  rw [List.nil_append] at hfault
  unfold apply
  rw [← hfault]
  cases Edit.firstFault? source.size [] edits with
  | some fault => simp
  | none => simp [eq_comm]

/-! ## After edits -/

theorem size_edited (source : Source) (edits : List Edit) :
    (source.edited edits).size = source.size := by
  simp [size, edited]

/-- No edits change nothing. -/
theorem edited_nil (source : Source) : source.edited [] = source := by
  unfold edited
  exact congrArg Source.mk (Array.ext (by simp) fun index _ _ => by simp [Token.edited])

/-- The token at a place after edits. -/
theorem getElem?_edited (index : Nat) :
    (source.edited edits).tokens[index]? =
      source.tokens[index]?.map (Token.edited edits index) := by
  simp [edited]

/-- The token at a position after edits, also when the position is counted from the back. -/
theorem exists_token?_edited {position : Int} {token : Token}
    (hat : source.token? position = some token) (edits : List Edit) :
    ∃ index, resolve? source.size position = some index ∧ source.tokens[index]? = some token ∧
      (source.edited edits).token? position = some (Token.edited edits index token) := by
  unfold token? at hat ⊢
  obtain ⟨index, hindex, hat⟩ := Option.bind_eq_some_iff.mp hat
  refine ⟨index, hindex, hat, ?_⟩
  rw [size_edited, hindex, Option.bind_some, getElem?_edited, hat, Option.map_some]

/-- **Edits write new texts and nothing else.** -/
theorem alike_edited (source : Source) (edits : List Edit) :
    source.Alike (source.edited edits) := by
  refine ⟨size_edited source edits, ?_⟩
  intro position token hat
  obtain ⟨index, -, -, hat'⟩ := exists_token?_edited hat edits
  refine ⟨_, hat', ?_⟩
  unfold Token.edited
  split
  · rfl
  · rfl

/-- **Applied edits are in force.** -/
theorem inForce_edited (hinside : Edit.Inside source.size edits) (hagree : Edit.Agree edits) :
    Edit.InForce (source.edited edits) edits := by
  intro edit hedit
  obtain ⟨hfront, hsize⟩ := hinside edit hedit
  obtain ⟨token, hat⟩ := exists_token?_of_lt_size hfront hsize
  obtain ⟨index, hindex⟩ := Int.eq_ofNat_of_zero_le hfront
  refine ⟨{ token with content := edit.content }, ?_, rfl⟩
  rw [hindex, token?_natCast] at hat ⊢
  rw [getElem?_edited, hat, Option.map_some]
  unfold Token.edited
  cases hfind : edits.find? fun other => other.position == (index : Int) with
  | none =>
    have hnone := List.find?_eq_none.mp hfind edit hedit
    simp [hindex] at hnone
  | some other =>
    have hposition : other.position = edit.position := by
      rw [hindex]
      simpa using List.find?_some hfind
    have hcontent := hagree other (List.mem_of_find?_eq_some hfind) edit hedit hposition
    simp only [hcontent]

end Source

/-! ## Respacing -/

/-- The content respaces the text of a slot, which names a variable. -/
def Respaced (slot : Slot) (content : String) : Prop :=
  (ParamText.parse slot.content).variableName ≠ "" ∧
    content = (ParamText.parse slot.content).canonical

/-- The edit respaces a text token of the source. -/
def Edit.Respaces (source : Source) (edit : Edit) : Prop :=
  ∃ token, source.token? edit.position = some token ∧ token.kind = .docString ∧
    Respaced ⟨edit.position, token⟩ edit.content

/-- Respacing keeps the inherit marker. -/
theorem keepsMarker_of_respaced {slot : Slot} {content : String}
    (hrespaced : Respaced slot content) :
    Block.KeepsMarker slot.content.toList content.toList := by
  obtain ⟨hvariable, rfl⟩ := hrespaced
  obtain ⟨reading, htext, -, hcanonical⟩ := ParamText.exists_reading_parse hvariable
  rw [← htext, hcanonical, String.toList_ofList]
  exact Block.keepsMarker_canonical reading

/-- Edits that respace the same text agree. -/
theorem Edit.agree_of_respaces {source : Source} {edits : List Edit}
    (hedits : ∀ edit ∈ edits, edit.Respaces source) : Edit.Agree edits := by
  intro edit hedit other hother hposition
  obtain ⟨token, hat, -, -, hcontent⟩ := hedits edit hedit
  obtain ⟨token', hat', -, -, hcontent'⟩ := hedits other hother
  rw [← hposition, hat, Option.some.injEq] at hat'
  subst hat'
  rw [hcontent, hcontent']

/-- The content respaces the text of a slot, and it comes from one of the edits. Edits are aimed at
positions from the front. -/
def Edit.Writes (edits : List Edit) (slot : Slot) (content : String) : Prop :=
  Respaced slot content ∧ (0 ≤ slot.position → ⟨slot.position, content⟩ ∈ edits)

namespace Source

variable {source : Source} {edits : List Edit}

/-- **Respacing rewrites texts only**, and only those that edits are aimed at. -/
theorem rewrites_edited (hedits : ∀ edit ∈ edits, edit.Respaces source) :
    source.Rewrites (Edit.Writes edits) (source.edited edits) := by
  refine ⟨size_edited source edits, ?_⟩
  intro position token hat
  obtain ⟨index, hindex, hat, hedited⟩ := exists_token?_edited hat edits
  refine ⟨_, hedited, ?_⟩
  unfold Token.edited
  cases hfind : edits.find? fun edit => edit.position == (index : Int) with
  | none => exact Or.inl rfl
  | some edit =>
    have hposition : edit.position = index := by simpa using List.find?_some hfind
    obtain ⟨token', hat', hkind, hrespaced⟩ := hedits edit (List.mem_of_find?_eq_some hfind)
    rw [hposition, token?_natCast, hat, Option.some.injEq] at hat'
    subst hat'
    refine Or.inr ⟨hkind, edit.content, ⟨hrespaced, ?_⟩, rfl⟩
    intro hfront
    obtain ⟨place, rfl⟩ := Int.eq_ofNat_of_zero_le (show 0 ≤ position from hfront)
    have hplace : place = index := resolve?_natCast hindex
    rw [show (⟨(place : Int), edit.content⟩ : Edit) = edit by rw [hplace, ← hposition]]
    exact List.mem_of_find?_eq_some hfind

end Source

end DocLint

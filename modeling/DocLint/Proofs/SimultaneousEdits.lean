import DocLint.Proofs.Applying

/-!
# Edits are made at once

Edits come as a list, but the list is only a way to write down which token gets which text. This
module says so. `Source.EditedBy` relates a source to what it becomes, token by token, and looks at
the edits as a set; at most one source is related to another in this way. Whatever gives the same
relation gives the same source: edits in another order, edits that are repeated, edits made in two
goes, edits made again.

The order matters only where edits cannot be made. Then the fault is that of the first edit that
offends. An edit offends if it is aimed at no token, or if the first edit of its token has another
text, where it makes no difference whether that one is looked for before the edit or in the whole
list.
-/

namespace DocLint

/-! ## Offending edits -/

namespace Edit

variable {size : Nat} {edits before after : List Edit} {edit : Edit} {fault : Fault}

/-- What is wrong with an edit among others. -/
inductive Offends (size : Nat) (edits : List Edit) (edit : Edit) : Fault → Prop where
  /-- It is aimed at no token. -/
  | outside (houtside : ¬ (0 ≤ edit.position ∧ edit.position < size)) :
      Offends size edits edit (.editOutside edit.position)
  /-- The first edit of its token has another text. -/
  | conflict {first : Edit} (hinside : 0 ≤ edit.position ∧ edit.position < size)
      (hfirst : (edits.find? fun other => other.position == edit.position) = some first)
      (hother : first.content ≠ edit.content) :
      Offends size edits edit (.editConflict edit.position first.content edit.content)

/-- The fault names the position of the edit. -/
theorem Offends.position?_eq (hoffends : edit.Offends size edits fault) :
    fault.position? = some edit.position := by
  cases hoffends <;> rfl

/-- The search for a fault compares an edit with those before it. -/
theorem fault?_eq_some_iff :
    edit.fault? size before = some fault ↔ edit.Offends size before fault := by
  rw [fault?]
  constructor
  · intro hfault
    split at hfault
    · rename_i hinside
      split at hfault
      · cases hfault
      · rename_i first hfirst
        split at hfault
        · cases hfault
        · rename_i hother
          obtain rfl := Option.some.inj hfault
          exact .conflict hinside hfirst hother
    · rename_i houtside
      obtain rfl := Option.some.inj hfault
      exact .outside houtside
  · rintro (houtside | ⟨hinside, hfirst, hother⟩)
    · rw [if_neg houtside]
    · rw [if_pos hinside, hfirst]
      exact if_neg hother

/-- It might as well be compared with the whole list: the edit itself and those after it do not
change which one comes first, or it is the first one and agrees with itself. -/
theorem offends_append_cons_iff :
    edit.Offends size (before ++ edit :: after) fault ↔ edit.Offends size before fault := by
  have hself : ((edit :: after).find? fun other => other.position == edit.position) = some edit :=
    List.find?_cons_of_pos (beq_self_eq_true _)
  constructor
  · rintro (houtside | ⟨hinside, hfirst, hother⟩)
    · exact .outside houtside
    · rw [List.find?_append, hself] at hfirst
      cases hbefore : before.find? fun other => other.position == edit.position with
      | none =>
        rw [hbefore] at hfirst
        obtain rfl := Option.some.inj hfirst
        exact absurd rfl hother
      | some first =>
        rw [hbefore] at hfirst
        obtain rfl := Option.some.inj hfirst
        exact .conflict hinside hbefore hother
  · rintro (houtside | ⟨hinside, hfirst, hother⟩)
    · exact .outside houtside
    · refine .conflict hinside ?_ hother
      rw [List.find?_append, hfirst]
      rfl

/-- **Where the search for a fault ends.** It passes some edits, and the next one has the fault. -/
theorem firstFault?_eq_some_iff (size : Nat) (earlier edits : List Edit) :
    firstFault? size earlier edits = some fault ↔
      ∃ before edit after, edits = before ++ edit :: after ∧
        firstFault? size earlier before = none ∧
        edit.fault? size (earlier ++ before) = some fault := by
  induction edits generalizing earlier with
  | nil => simp [firstFault?]
  | cons first rest ih =>
    rw [firstFault?]
    cases hfirst : first.fault? size earlier with
    | some found =>
      constructor
      · rintro hfound
        obtain rfl := Option.some.inj hfound
        exact ⟨[], first, rest, rfl, rfl, by rwa [List.append_nil]⟩
      · rintro ⟨_ | ⟨other, before⟩, edit, after, hsplit, hpassed, hfault⟩
        · obtain ⟨rfl, rfl⟩ := List.cons.inj hsplit
          rw [List.append_nil, hfirst] at hfault
          exact hfault
        · obtain ⟨rfl, rfl⟩ := List.cons.inj hsplit
          rw [firstFault?, hfirst] at hpassed
          cases hpassed
    | none =>
      dsimp only
      rw [ih]
      constructor
      · rintro ⟨before, edit, after, rfl, hpassed, hfault⟩
        refine ⟨first :: before, edit, after, rfl, ?_, ?_⟩
        · rw [firstFault?, hfirst]
          exact hpassed
        · rwa [List.append_assoc] at hfault
      · rintro ⟨_ | ⟨other, before⟩, edit, after, hsplit, hpassed, hfault⟩
        · obtain ⟨rfl, rfl⟩ := List.cons.inj hsplit
          rw [List.append_nil, hfirst] at hfault
          cases hfault
        · obtain ⟨rfl, rfl⟩ := List.cons.inj hsplit
          rw [firstFault?, hfirst] at hpassed
          refine ⟨before, edit, after, rfl, hpassed, ?_⟩
          rwa [List.append_assoc]

/-- The edits at the front of a list are passed exactly if none of them offends in the list. -/
theorem firstFault?_eq_none_iff_not_offends (after : List Edit) :
    firstFault? size [] before = none ↔
      ∀ edit ∈ before, ∀ fault, ¬ edit.Offends size (before ++ after) fault := by
  have hnil : Agree [] := fun _ hmem => absurd hmem List.not_mem_nil
  rw [firstFault?_eq_none_iff_of_agree size before hnil, List.nil_append]
  have hfind : ∀ edit ∈ before, ∃ first ∈ before, first.position = edit.position ∧
      ((before ++ after).find? fun other => other.position == edit.position) = some first := by
    intro edit hedit
    cases hfirst : before.find? fun other => other.position == edit.position with
    | none =>
      have hnone := List.find?_eq_none.mp hfirst edit hedit
      simp at hnone
    | some first =>
      refine ⟨first, List.mem_of_find?_eq_some hfirst, by simpa using List.find?_some hfirst, ?_⟩
      rw [List.find?_append, hfirst]
      rfl
  constructor
  · rintro ⟨hinside, hagree⟩ edit hedit fault (houtside | ⟨-, hfirst, hother⟩)
    · exact houtside (hinside edit hedit)
    · obtain ⟨first, hmem, hposition, hfirst'⟩ := hfind edit hedit
      obtain rfl := Option.some.inj (hfirst.symm.trans hfirst')
      exact hother (hagree _ hmem edit hedit hposition)
  · intro hnone
    have hinside : Inside size before := fun edit hedit => by
      by_contra houtside
      exact hnone edit hedit _ (.outside houtside)
    refine ⟨hinside, fun edit hedit other hother hposition => ?_⟩
    obtain ⟨first, -, -, hfirst⟩ := hfind edit hedit
    have hfirst' := hfirst
    rw [hposition] at hfirst'
    have hcontent : first.content = edit.content := by
      by_contra hdiffers
      exact hnone edit hedit _ (.conflict (hinside edit hedit) hfirst hdiffers)
    have hcontent' : first.content = other.content := by
      by_contra hdiffers
      exact hnone other hother _ (.conflict (hinside other hother) hfirst' hdiffers)
    exact hcontent.symm.trans hcontent'

end Edit

/-! ## Edited sources -/

namespace Source

variable {source middle fixed : Source} {edits others first second : List Edit}

/-- A source after edits, whatever their order and number: the tokens are the same but for the texts
that edits are aimed at, and these are the texts of the edits. -/
structure EditedBy (source : Source) (edits : List Edit) (fixed : Source) : Prop where
  /-- No token is added or removed. -/
  size : fixed.size = source.size
  /-- A token has the text of every edit that is aimed at it, or its own one if there is none, and
  everything else is kept. -/
  token : ∀ (index : Nat) (token : Token), source.tokens[index]? = some token →
    ∃ content, fixed.tokens[index]? = some { token with content } ∧
      (∀ edit ∈ edits, edit.position = index → content = edit.content) ∧
      ((∀ edit ∈ edits, edit.position ≠ index) → content = token.content)

/-- The edits decide what becomes of a source. -/
theorem EditedBy.unique {fixed' : Source} (hfixed : source.EditedBy edits fixed)
    (hfixed' : source.EditedBy edits fixed') : fixed = fixed' := by
  have htokens : fixed.tokens = fixed'.tokens := by
    apply Array.ext_getElem?
    intro index
    cases hat : source.tokens[index]? with
    | none =>
      have hsize : source.size ≤ index := Array.getElem?_eq_none_iff.mp hat
      rw [Array.getElem?_eq_none_iff.mpr (hfixed.size.trans_le hsize),
        Array.getElem?_eq_none_iff.mpr (hfixed'.size.trans_le hsize)]
    | some token =>
      obtain ⟨content, hat, htext, hkept⟩ := hfixed.token index token hat
      obtain ⟨content', hat', htext', hkept'⟩ := hfixed'.token index token ‹_›
      have hcontent : content = content' := by
        by_cases haimed : ∃ edit ∈ edits, edit.position = index
        · obtain ⟨edit, hedit, hposition⟩ := haimed
          rw [htext edit hedit hposition, htext' edit hedit hposition]
        · have hnone : ∀ edit ∈ edits, edit.position ≠ index :=
            fun edit hedit hposition => haimed ⟨edit, hedit, hposition⟩
          rw [hkept hnone, hkept' hnone]
      rw [hat, hat', hcontent]
  cases fixed
  cases fixed'
  exact congrArg Source.mk htokens

/-- Only the set of edits counts. -/
theorem EditedBy.of_mem_iff (hfixed : source.EditedBy edits fixed)
    (hsame : ∀ edit, edit ∈ others ↔ edit ∈ edits) : source.EditedBy others fixed := by
  refine ⟨hfixed.size, fun index token hat => ?_⟩
  obtain ⟨content, hat', htext, hkept⟩ := hfixed.token index token hat
  refine ⟨content, hat', fun edit hedit => htext edit ((hsame edit).mp hedit), fun hnone => ?_⟩
  exact hkept fun edit hedit => hnone edit ((hsame edit).mpr hedit)

/-- Edits that have been made change nothing any more. -/
theorem EditedBy.again (hfixed : source.EditedBy edits fixed) : fixed.EditedBy edits fixed := by
  refine ⟨rfl, fun index token hat => ?_⟩
  have hindex : index < source.tokens.size :=
    (Array.getElem?_eq_some_iff.mp hat).1.trans_eq hfixed.size
  obtain ⟨content, hat', htext, -⟩ := hfixed.token index _ (Array.getElem?_eq_getElem hindex)
  rw [hat, Option.some.injEq] at hat'
  subst hat'
  exact ⟨content, hat, htext, fun _ => rfl⟩

/-- Edits may be made in two goes. A token that is edited in both gets the text of the second, so
the two have to agree. -/
theorem EditedBy.trans (hmiddle : source.EditedBy first middle)
    (hagree : Edit.Agree (first ++ second)) (hfixed : middle.EditedBy second fixed) :
    source.EditedBy (first ++ second) fixed := by
  refine ⟨hfixed.size.trans hmiddle.size, fun index token hat => ?_⟩
  obtain ⟨content, hat, htext, hkept⟩ := hmiddle.token index token hat
  obtain ⟨content', hat', htext', hkept'⟩ := hfixed.token index _ hat
  refine ⟨content', hat', fun edit hedit hposition => ?_, fun hnone => ?_⟩
  · by_cases haimed : ∃ other ∈ second, other.position = index
    · obtain ⟨other, hother, hplace⟩ := haimed
      rw [htext' other hother hplace]
      exact hagree other (List.mem_append_right first hother) edit hedit
        (hplace.trans hposition.symm)
    · have hnone : ∀ other ∈ second, other.position ≠ index :=
        fun other hother hplace => haimed ⟨other, hother, hplace⟩
      rw [hkept' hnone]
      have hfirst := (List.mem_append.mp hedit).resolve_right fun hlater =>
        hnone edit hlater hposition
      exact htext edit hfirst hposition
  · rw [hkept' fun edit hedit => hnone edit (List.mem_append_right first hedit)]
    exact hkept fun edit hedit => hnone edit (List.mem_append_left second hedit)

/-- Edits that agree make an edited source. -/
theorem editedBy_edited (source : Source) (hagree : Edit.Agree edits) :
    source.EditedBy edits (source.edited edits) := by
  refine ⟨size_edited source edits, fun index token hat => ?_⟩
  rw [getElem?_edited, hat, Option.map_some, Token.edited]
  cases hfind : edits.find? fun edit => edit.position == (index : Int) with
  | none =>
    have hnone : ∀ edit ∈ edits, edit.position ≠ index := by
      simpa using List.find?_eq_none.mp hfind
    exact ⟨token.content, rfl, fun edit hedit hposition => absurd hposition (hnone edit hedit),
      fun _ => rfl⟩
  | some found =>
    have hplace : found.position = index := by simpa using List.find?_some hfind
    have hmem := List.mem_of_find?_eq_some hfind
    refine ⟨found.content, rfl, fun edit hedit hposition => ?_, fun hnone => ?_⟩
    · exact hagree found hmem edit hedit (hplace.trans hposition.symm)
    · exact absurd hplace (hnone found hmem)

/-- **What applying does.** It makes the edits if each is aimed at a token and no two disagree. -/
theorem apply_eq_ok_iff_editedBy :
    source.apply edits = .ok fixed ↔
      Edit.Inside source.size edits ∧ Edit.Agree edits ∧ source.EditedBy edits fixed := by
  rw [apply_eq_ok_iff, and_assoc]
  refine and_congr_right fun _ => and_congr_right fun hagree => ?_
  have hedited := source.editedBy_edited hagree
  constructor
  · rintro rfl
    exact hedited
  · exact fun hfixed => hfixed.unique hedited

/-- A list of edits may be made in two goes. -/
theorem apply_append (hfixed : source.apply (first ++ second) = .ok fixed) :
    (source.apply first >>= fun middle => middle.apply second) = .ok fixed := by
  obtain ⟨hinside, hagree, hedited⟩ := apply_eq_ok_iff_editedBy.mp hfixed
  have hmiddle := source.editedBy_edited (hagree.mono (List.subset_append_left first second))
  have hlast := (source.edited first).editedBy_edited
    (hagree.mono (List.subset_append_right first second))
  have hfirst : source.apply first = .ok (source.edited first) :=
    apply_eq_ok_iff_editedBy.mpr
      ⟨fun edit hedit => hinside edit (List.mem_append_left second hedit),
        hagree.mono (List.subset_append_left first second), hmiddle⟩
  rw [hfirst]
  refine apply_eq_ok_iff_editedBy.mpr
    ⟨fun edit hedit => ?_, hagree.mono (List.subset_append_right first second), ?_⟩
  · rw [size_edited]
    exact hinside edit (List.mem_append_right first hedit)
  · rwa [hedited.unique (hmiddle.trans hagree hlast)]

/-- **Why edits cannot be made.** The first edit that offends decides the fault. -/
theorem apply_eq_error_iff {fault : Fault} :
    source.apply edits = .error fault ↔
      ∃ before edit after, edits = before ++ edit :: after ∧
        (∀ earlier ∈ before, ∀ fault, ¬ earlier.Offends source.size edits fault) ∧
        edit.Offends source.size edits fault := by
  have happly : source.apply edits = .error fault ↔
      Edit.firstFault? source.size [] edits = some fault := by
    rw [apply]
    cases Edit.firstFault? source.size [] edits <;> simp
  rw [happly, Edit.firstFault?_eq_some_iff]
  refine exists₃_congr fun before edit after => and_congr_right fun hsplit => ?_
  rw [Edit.firstFault?_eq_none_iff_not_offends (edit :: after), List.nil_append,
    Edit.fault?_eq_some_iff, hsplit, Edit.offends_append_cons_iff]

/-- **Edits are made at once.** They can be made exactly if each is aimed at a token and no two
disagree; otherwise the first edit that offends decides the fault, which names its position. The
edited source has the texts of the edits where there are any and is the same elsewhere. It does not
change with the order of the edits or their number, the edits change nothing when they are made
again, and the list may be made in two goes, wherever it is cut. -/
theorem edits_are_made_at_once (source : Source) (edits : List Edit) :
    ((∃ fixed, source.apply edits = .ok fixed) ↔
        (∀ edit ∈ edits, 0 ≤ edit.position ∧ edit.position < source.size) ∧
          ∀ edit ∈ edits, ∀ other ∈ edits, edit.position = other.position →
            edit.content = other.content) ∧
      (∀ fault, source.apply edits = .error fault ↔
        ∃ before edit after, edits = before ++ edit :: after ∧
          (∀ earlier ∈ before, ∀ fault, ¬ earlier.Offends source.size edits fault) ∧
          edit.Offends source.size edits fault ∧ fault.position? = some edit.position) ∧
      ∀ fixed, source.apply edits = .ok fixed →
        source.EditedBy edits fixed ∧
        (∀ others, (∀ edit, edit ∈ others ↔ edit ∈ edits) → source.apply others = .ok fixed) ∧
        fixed.apply edits = .ok fixed ∧
        ∀ first second, edits = first ++ second →
          (source.apply first >>= fun middle => middle.apply second) = .ok fixed := by
  refine ⟨⟨?_, ?_⟩, ?_, ?_⟩
  · rintro ⟨fixed, hfixed⟩
    obtain ⟨hinside, hagree, -⟩ := apply_eq_ok_iff_editedBy.mp hfixed
    exact ⟨hinside, hagree⟩
  · rintro ⟨hinside, hagree⟩
    exact ⟨_, apply_eq_ok_iff_editedBy.mpr ⟨hinside, hagree, source.editedBy_edited hagree⟩⟩
  · intro fault
    rw [apply_eq_error_iff]
    refine exists₃_congr fun before edit after =>
      and_congr_right fun _ => and_congr_right fun _ => ?_
    exact ⟨fun hoffends => ⟨hoffends, hoffends.position?_eq⟩, And.left⟩
  · intro fixed hfixed
    obtain ⟨hinside, hagree, hedited⟩ := apply_eq_ok_iff_editedBy.mp hfixed
    refine ⟨hedited, fun others hsame => ?_, ?_, ?_⟩
    · refine apply_eq_ok_iff_editedBy.mpr ⟨?_, ?_, hedited.of_mem_iff hsame⟩
      · exact fun edit hedit => hinside edit ((hsame edit).mp hedit)
      · exact hagree.mono fun edit hedit => (hsame edit).mp hedit
    · exact apply_eq_ok_iff_editedBy.mpr ⟨hedited.size ▸ hinside, hagree, hedited.again⟩
    · rintro first second rfl
      exact apply_append hfixed

/-- Three tokens with the texts `a`, `b` and `c`. -/
def threeLetters : Source :=
  ⟨#[⟨.identifier, "a", 1, none, none, []⟩, ⟨.identifier, "b", 1, none, none, []⟩,
    ⟨.identifier, "c", 2, none, none, []⟩]⟩

/-- An edit that is repeated counts once and in any order. Of two lists that cannot be made, one is
stopped by an edit beyond the end and the other one by an edit that disagrees with the first of its
token, although edits that are worse come later. -/
theorem threeLetters_edited_at_once :
    (∃ fixed, threeLetters.apply [⟨2, "z"⟩, ⟨0, "x"⟩, ⟨2, "z"⟩] = .ok fixed ∧
        fixed.render = "xbz" ∧ threeLetters.apply [⟨0, "x"⟩, ⟨2, "z"⟩] = .ok fixed ∧
        fixed.apply [⟨2, "z"⟩, ⟨0, "x"⟩, ⟨2, "z"⟩] = .ok fixed) ∧
      threeLetters.apply [⟨0, "x"⟩, ⟨3, "y"⟩, ⟨0, "z"⟩] = .error (.editOutside 3) ∧
      threeLetters.apply [⟨1, "x"⟩, ⟨1, "x"⟩, ⟨1, "y"⟩, ⟨-1, "z"⟩] =
        .error (.editConflict 1 "x" "y") := by
  have hfixed : threeLetters.apply [⟨2, "z"⟩, ⟨0, "x"⟩, ⟨2, "z"⟩] = .ok _ := rfl
  obtain ⟨-, -, hlaws⟩ := edits_are_made_at_once threeLetters [⟨2, "z"⟩, ⟨0, "x"⟩, ⟨2, "z"⟩]
  obtain ⟨-, hsame, hagain, -⟩ := hlaws _ hfixed
  obtain ⟨-, houtside, -⟩ := edits_are_made_at_once threeLetters [⟨0, "x"⟩, ⟨3, "y"⟩, ⟨0, "z"⟩]
  refine ⟨⟨_, hfixed, by decide, hsame _ fun edit => ?_, hagain⟩, ?_, rfl⟩
  · simp only [List.mem_cons, List.not_mem_nil, or_false]
    exact ⟨Or.inr, fun hedit => hedit.elim Or.inr id⟩
  · refine (houtside _).mpr ⟨[_], _, [_], rfl, ?_, .outside (by decide), rfl⟩
    intro earlier hearlier fault hoffends
    obtain rfl := List.mem_singleton.mp hearlier
    cases hoffends with
    | outside hbeyond => exact hbeyond (by decide)
    | conflict _ hfirst hother =>
      obtain rfl := Option.some.inj hfirst
      exact hother rfl

end Source

end DocLint

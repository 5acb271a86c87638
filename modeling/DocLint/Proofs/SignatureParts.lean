import DocLint.Proofs.DeclaredParameters

/-!
# A parameter list in parts

The reader of signatures walks through a parameter list with a flag that says whether a variable met
now is a parameter. It leaps over bracketed groups, and commas and equal signs turn the flag. What
it finds can be said without a walk: delete the bracketed groups, cut what is left at the commas,
and take from each part its first variable, unless an equal sign comes before it.

The list may hold anything between its parentheses, and groups may stand inside groups. Only the
references of the brackets in it have to lead forward and stay inside the list.
-/

namespace DocLint

/-! ## Names in parts -/

/-- Where the bracketed group ends that a slot begins, if it does. -/
def Slot.groupEnd? (slot : Slot) : Option Int :=
  if slot.kind.isBracketOpener then slot.token.closer? else none

namespace Signature

/-- What is left of some slots when the bracketed groups are deleted from left to right, each from
its opening bracket to its end. -/
def withoutGroups : List Slot → List Slot
  | [] => []
  | slot :: rest =>
    match slot.groupEnd? with
    | some last => withoutGroups (rest.dropWhile fun other => other.position ≤ last)
    | none => slot :: withoutGroups rest
termination_by slots => slots.length
decreasing_by
  · exact Nat.lt_succ_of_le (List.dropWhile_sublist _).length_le
  · exact Nat.lt_succ_self _

/-- The parts of some slots between the commas. -/
def parts (slots : List Slot) : List (List Slot) :=
  slots.splitOnP fun slot => slot.kind == .comma

/-- The name that a part declares: the first variable in it, unless an equal sign comes before. -/
def nameOfPart? (part : List Slot) : Option String :=
  ((part.takeWhile fun slot => slot.kind != .equal).find? fun slot =>
    slot.kind == .variableName).map Slot.content

/-- The names that are declared between the ends of a parameter list. -/
def names (inside : List Slot) : List String :=
  (parts (withoutGroups inside)).filterMap nameOfPart?

/-- The names in parts of which the first one may have been entered before. A variable counts in it
only if one is still expected. -/
def namesFrom (expecting : Bool) (slots : List Slot) : List String :=
  if expecting then (parts slots).filterMap nameOfPart?
  else (parts slots).tail.filterMap nameOfPart?

variable {slot : Slot} {rest part : List Slot} {others : List (List Slot)} {expecting : Bool}

/-- Only what the first part declares depends on what is expected. -/
theorem namesFrom_of_parts {slots : List Slot} (hparts : parts slots = part :: others) :
    namesFrom expecting slots =
      (if expecting then nameOfPart? part else none).toList ++ others.filterMap nameOfPart? := by
  rw [namesFrom, hparts, List.tail_cons, List.filterMap_cons]
  cases expecting <;> cases nameOfPart? part <;> rfl

/-- A comma ends a part. -/
theorem namesFrom_cons_comma (hkind : slot.kind = .comma) :
    namesFrom expecting (slot :: rest) = namesFrom true rest := by
  have hparts : parts (slot :: rest) = [] :: parts rest := by
    rw [parts, List.splitOnP_cons_eq_if_modifyHead, hkind]
    rfl
  rw [namesFrom_of_parts hparts, namesFrom]
  cases expecting <;> rfl

/-- Anything else belongs to the first part, and the names in the other parts stay as they are. -/
theorem exists_part_of_cons (hkind : slot.kind ≠ .comma) (rest : List Slot) :
    ∃ part, ∀ expecting : Bool,
      namesFrom expecting (slot :: rest) =
          (if expecting then nameOfPart? (slot :: part) else none).toList ++ namesFrom false rest ∧
        namesFrom expecting rest =
          (if expecting then nameOfPart? part else none).toList ++ namesFrom false rest := by
  obtain ⟨part, others, hparts⟩ := List.exists_cons_of_ne_nil
    (List.splitOnP_ne_nil (fun slot : Slot => slot.kind == .comma) rest)
  have hcons : parts (slot :: rest) = (slot :: part) :: others := by
    rw [parts, List.splitOnP_cons_eq_if_modifyHead, if_neg (by simpa using hkind), hparts,
      List.modifyHead_cons]
  refine ⟨part, fun expecting => ?_⟩
  rw [namesFrom_of_parts hcons, namesFrom_of_parts hparts, namesFrom_of_parts hparts]
  exact ⟨rfl, rfl⟩

theorem nameOfPart?_cons_equal (hkind : slot.kind = .equal) :
    nameOfPart? (slot :: part) = none := by
  rw [nameOfPart?, List.takeWhile_cons_of_neg (by simp [hkind])]
  rfl

theorem nameOfPart?_cons_variable (hkind : slot.kind = .variableName) :
    nameOfPart? (slot :: part) = some slot.content := by
  rw [nameOfPart?, List.takeWhile_cons_of_pos (by simp [hkind]),
    List.find?_cons_of_pos (by simp [hkind])]
  rfl

theorem nameOfPart?_cons_other (hequal : slot.kind ≠ .equal)
    (hvariable : slot.kind ≠ .variableName) :
    nameOfPart? (slot :: part) = nameOfPart? part := by
  rw [nameOfPart?, List.takeWhile_cons_of_pos (by simpa using hequal),
    List.find?_cons_of_neg (by simpa using hvariable), nameOfPart?]

end Signature

namespace ParameterWalk

open Signature

variable {source : Source} {closer low : Int} {expecting : Bool} {found : List String}

/-! ## Steps -/

/-- The walk leaps over a group. -/
theorem advance_of_groupEnd? {walk : ParameterWalk} {slot : Slot} {last : Int}
    (hgroup : slot.groupEnd? = some last) :
    walk.advance slot.token = { walk with position := last + 1 } := by
  rw [Slot.groupEnd?] at hgroup
  split at hgroup
  · rename_i hbracket
    exact advance_of_bracket hbracket hgroup
  · cases hgroup

/-- It reads every other token, also a bracket that does not know where its group ends. -/
theorem advance_of_groupEnd?_none {walk : ParameterWalk} {slot : Slot}
    (hgroup : slot.groupEnd? = none) : walk.advance slot.token = walk.read slot.token := by
  rw [Slot.groupEnd?] at hgroup
  rw [advance]
  split at hgroup
  · rw [hgroup]
    cases slot.token.kind.isBracketOpener <;> rfl
  · rename_i hbracket
    rw [eq_false_of_ne_true hbracket]

/-- **One token.** The names found and those that follow are the same before and after it. -/
theorem found_read_append (walk : ParameterWalk) (slot : Slot) (rest : List Slot) :
    (walk.read slot.token).found ++ namesFrom (walk.read slot.token).expecting rest =
      walk.found ++ namesFrom walk.expecting (slot :: rest) := by
  rw [read]
  split
  · rename_i hkind
    rw [namesFrom_cons_comma hkind]
  · rename_i hkind
    have hcomma : slot.kind ≠ .comma := by simp [hkind]
    obtain ⟨part, hpart⟩ := exists_part_of_cons hcomma rest
    rw [(hpart walk.expecting).1, nameOfPart?_cons_equal hkind, ite_self]
    rfl
  · rename_i hkind
    have hcomma : slot.kind ≠ .comma := by simp [hkind]
    obtain ⟨part, hpart⟩ := exists_part_of_cons hcomma rest
    rw [(hpart walk.expecting).1, nameOfPart?_cons_variable hkind]
    cases walk.expecting <;> simp
  · rename_i hcomma hequal hvariable
    obtain ⟨part, hpart⟩ := exists_part_of_cons hcomma rest
    rw [(hpart walk.expecting).1, (hpart walk.expecting).2,
      nameOfPart?_cons_other hequal hvariable]

/-! ## Walks -/

/-- As long as the walk has not come to the end, a slot stands where it is. -/
theorem exists_slotsInside_eq_cons (hlow : -1 ≤ low) (hcloser : closer ≤ source.size)
    (hbefore : low + 1 < closer) :
    ∃ token, source.token? (low + 1) = some token ∧
      source.slotsInside low closer = ⟨low + 1, token⟩ :: source.slotsInside (low + 1) closer := by
  have hfront : 0 ≤ low + 1 := by omega
  obtain ⟨token, hat⟩ := Source.exists_token?_of_lt_size hfront (Int.lt_of_lt_of_le hbefore hcloser)
  have hslot : (⟨low + 1, token⟩ : Slot) ∈ source.slotsInside low closer :=
    Source.mem_slotsInside_iff.mpr
      ⟨Source.mem_slots_iff.mpr ⟨hfront, hat⟩, Int.lt_succ low, hbefore⟩
  obtain ⟨before, after, hsplit⟩ := List.append_of_mem hslot
  have hnone : before = [] := by
    apply List.eq_nil_iff_forall_not_mem.mpr
    intro other hother
    have hascending := source.pairwise_slotsInside low closer
    have hmem : other ∈ source.slotsInside low closer := by
      rw [hsplit]
      exact List.mem_append_left _ hother
    rw [hsplit, List.pairwise_append] at hascending
    have hless : other.position < low + 1 := hascending.2.2 other hother _ List.mem_cons_self
    have hmore := (Source.mem_slotsInside_iff.mp hmem).2.1
    omega
  refine ⟨token, hat, ?_⟩
  rw [hsplit, hnone, List.nil_append, Source.eq_slotsInside_of_append hsplit]

/-- The first slot that is left stands where the walk is. -/
theorem of_slotsInside_eq_cons {slot : Slot} {rest : List Slot} (hlow : -1 ≤ low)
    (hcloser : closer ≤ source.size) (hslots : source.slotsInside low closer = slot :: rest) :
    slot.position = low + 1 ∧ low + 1 < closer ∧ source.token? (low + 1) = some slot.token ∧
      source.slotsInside (low + 1) closer = rest := by
  have hslot : slot ∈ source.slotsInside low closer := by
    rw [hslots]
    exact List.mem_cons_self
  obtain ⟨-, hafter, hbefore⟩ := Source.mem_slotsInside_iff.mp hslot
  obtain ⟨token, hat, hcons⟩ := exists_slotsInside_eq_cons hlow hcloser (by omega)
  rw [hslots] at hcons
  obtain ⟨rfl, rfl⟩ := List.cons.inj hcons
  exact ⟨rfl, hbefore, hat, rfl⟩

/-- The slots after a group are those from its end on. -/
theorem dropWhile_slotsInside {last : Int} (hlast : low ≤ last) :
    ((source.slotsInside low closer).dropWhile fun other => other.position ≤ last) =
      source.slotsInside last closer := by
  rw [← Source.filter_slotsInside_after hlast]
  generalize hslots : source.slotsInside low closer = slots
  have hascending := source.pairwise_slotsInside low closer
  rw [hslots] at hascending
  clear hslots
  induction slots with
  | nil => rfl
  | cons slot rest ih =>
    obtain ⟨hfirst, hrest⟩ := List.pairwise_cons.mp hascending
    by_cases hslot : slot.position ≤ last
    · rw [List.dropWhile_cons_of_pos (by simpa using hslot),
        List.filter_cons_of_neg (by simpa using hslot), ih hrest]
    · rw [List.dropWhile_cons_of_neg (by simpa using hslot), eq_comm, List.filter_eq_self]
      intro other hother
      rw [decide_eq_true_iff]
      rcases List.mem_cons.mp hother with rfl | hlater
      · omega
      · have hless := hfirst other hlater
        omega

/-- **A whole list.** The walk yields the names that are found and those in the slots up to the
end, with the groups deleted. -/
theorem yields_namesFrom (hlow : -1 ≤ low) (hcloser : closer ≤ source.size)
    (hgroups : ∀ slot ∈ source.slotsInside low closer, ∀ last, slot.groupEnd? = some last →
      slot.position < last ∧ last < closer) :
    Yields source closer ⟨low + 1, expecting, found⟩
      (found ++ namesFrom expecting (withoutGroups (source.slotsInside low closer))) := by
  generalize hslots : source.slotsInside low closer = slots at hgroups ⊢
  induction slots using withoutGroups.induct generalizing low expecting found with
  | case1 =>
    have hend : closer ≤ low + 1 := by
      by_contra hbefore
      obtain ⟨token, -, hcons⟩ := exists_slotsInside_eq_cons hlow hcloser (by omega)
      rw [hslots] at hcons
      cases hcons
    have hnames : namesFrom expecting (withoutGroups []) = [] := by
      rw [withoutGroups]
      cases expecting <;> rfl
    rw [hnames, List.append_nil]
    exact yields_found hend
  | case2 slot rest last hgroup ih =>
    obtain ⟨hposition, hbefore, hat, rfl⟩ := of_slotsInside_eq_cons hlow hcloser hslots
    obtain ⟨hafter, hlast⟩ := hgroups slot List.mem_cons_self last hgroup
    have hrest : _ = source.slotsInside last closer :=
      dropWhile_slotsInside (show low + 1 ≤ last by omega)
    rw [withoutGroups, hgroup]
    dsimp only
    apply Yields.of_advance hat hbefore
    · rw [advance_of_groupEnd? hgroup]
      show low + 1 < last + 1
      omega
    · rw [advance_of_groupEnd? hgroup]
      refine ih (by omega) hrest.symm fun other hother => ?_
      exact hgroups other (List.mem_cons_of_mem slot ((List.dropWhile_sublist _).subset hother))
  | case3 slot rest hgroup ih =>
    obtain ⟨hposition, hbefore, hat, rfl⟩ := of_slotsInside_eq_cons hlow hcloser hslots
    rw [withoutGroups, hgroup]
    dsimp only
    apply Yields.of_advance hat hbefore
    · rw [advance_of_groupEnd?_none hgroup, position_read]
      exact Int.lt_succ _
    · rw [advance_of_groupEnd?_none hgroup, ← found_read_append ⟨low + 1, expecting, found⟩]
      have hnext := position_read ⟨low + 1, expecting, found⟩ slot.token
      generalize (⟨low + 1, expecting, found⟩ : ParameterWalk).read slot.token = next at hnext ⊢
      obtain ⟨position, expecting', found'⟩ := next
      obtain rfl : position = low + 1 + 1 := hnext
      exact ih (by omega) rfl fun other hother =>
        hgroups other (List.mem_cons_of_mem slot hother)

end ParameterWalk

/-! ## Declared names -/

/-- The parameter list of the declaration at `anchor` begins with the slot `opening` and ends at
`closer`. The brackets in it that know where their groups end lead forward and stay inside. -/
structure Source.ListsParameters (source : Source) (anchor : Int) (opening : Slot) (closer : Int) :
    Prop where
  /-- The list begins with the first parenthesis after the declaration. -/
  mem : opening ∈ source.slots
  after : anchor < opening.position
  kind : opening.kind = .openParenthesis
  first : ∀ other ∈ source.slots, anchor < other.position → other.position < opening.position →
    other.kind ≠ .openParenthesis
  closer?_eq : opening.token.closer? = some closer
  /-- It does not reach beyond the source. -/
  inside : closer ≤ source.size
  groups : ∀ slot ∈ source.slots, opening.position < slot.position → slot.position < closer →
    slot.kind.isBracketOpener = true →
      ∀ last ∈ slot.token.closer?, slot.position < last ∧ last < closer

namespace Source.ListsParameters

variable {source : Source} {anchor closer : Int} {opening : Slot}
variable (hlists : source.ListsParameters anchor opening closer)

include hlists

theorem find_eq_ok : ParameterList.find source anchor = .ok ⟨opening.position, closer⟩ := by
  have hsearch : source.next? (fun kind => kind == .openParenthesis) (anchor + 1) none =
      some opening := by
    refine Source.next?_eq_some_iff.mpr ⟨hlists.mem, hlists.after, ?_, ?_, ?_⟩
    · exact (Source.bounds_of_mem_slots hlists.mem).2
    · rw [hlists.kind]
      rfl
    · intro other hother hlow hhigh
      simpa using hlists.first other hother (by omega) hhigh
  rw [ParameterList.find, hsearch]
  dsimp only
  rw [hlists.closer?_eq]

/-- The groups in the list end after they begin and before the list does. -/
theorem forward : ∀ slot ∈ source.slotsInside opening.position closer, ∀ last,
    slot.groupEnd? = some last → slot.position < last ∧ last < closer := by
  intro slot hslot last hgroup
  obtain ⟨hmem, hafter, hbefore⟩ := Source.mem_slotsInside_iff.mp hslot
  rw [Slot.groupEnd?] at hgroup
  split at hgroup
  · rename_i hbracket
    exact hlists.groups slot hmem hafter hbefore hbracket last hgroup
  · cases hgroup

end Source.ListsParameters

/-- **The declared names are read.** The reader returns, in order, the names in the parts of the
parameter list: its slots without the bracketed groups, cut at the commas. -/
theorem SignatureReader.reads_names_in_parts {source : Source} {anchor closer : Int}
    {opening : Slot} (hlists : source.ListsParameters anchor opening closer) :
    SignatureReader.ofTokens.parameters source anchor =
      .ok (Signature.names (source.slotsInside opening.position closer)) := by
  have hfront := (Source.bounds_of_mem_slots hlists.mem).1
  have hyields : ParameterWalk.Yields source closer ⟨opening.position + 1, true, []⟩
      (Signature.names (source.slotsInside opening.position closer)) :=
    ParameterWalk.yields_namesFrom (by omega) hlists.inside hlists.forward
  have hrun := hyields (stepBound source) (by
    have hinside := hlists.inside
    rw [stepBound]
    show closer ≤ opening.position + 1 + _
    omega)
  show parametersFromTokens source anchor = _
  rw [parametersFromTokens, hlists.find_eq_ok]
  simp only [bind, Except.bind, ParameterWalk.start, hrun]

/-- A function with a parameter list that may mislead a reader. It has an attribute, a default value
with brackets in brackets, a variable after the default value, a part in which an equal sign comes
first, and a bracket that does not know its end. -/
def crowdedList : Source :=
  ⟨#[⟨.function, "function", 1, none, none, []⟩, ⟨.openParenthesis, "(", 1, none, some 20, []⟩,
    ⟨.openSquare, "[", 1, none, some 4, []⟩, ⟨.variableName, "$attribute", 1, none, none, []⟩,
    ⟨.closeSquare, "]", 1, some 2, none, []⟩, ⟨.variableName, "$first", 1, none, none, []⟩,
    ⟨.equal, "=", 1, none, none, []⟩, ⟨.openParenthesis, "(", 1, none, some 12, []⟩,
    ⟨.openParenthesis, "(", 1, none, some 10, []⟩, ⟨.variableName, "$inner", 1, none, none, []⟩,
    ⟨.closeParenthesis, ")", 1, some 8, none, []⟩, ⟨.comma, ",", 1, none, none, []⟩,
    ⟨.closeParenthesis, ")", 1, some 7, none, []⟩, ⟨.variableName, "$value", 1, none, none, []⟩,
    ⟨.comma, ",", 1, none, none, []⟩, ⟨.equal, "=", 1, none, none, []⟩,
    ⟨.variableName, "$lost", 1, none, none, []⟩, ⟨.comma, ",", 1, none, none, []⟩,
    ⟨.openSquare, "[", 1, none, none, []⟩, ⟨.variableName, "$second", 1, none, none, []⟩,
    ⟨.closeParenthesis, ")", 1, some 1, none, []⟩]⟩

/-- Two of the six variables are parameters. -/
theorem crowdedList_read :
    (∃ opening, crowdedList.ListsParameters 0 opening 20) ∧
      SignatureReader.ofTokens.parameters crowdedList 0 = .ok ["$first", "$second"] := by
  have hlists : crowdedList.ListsParameters 0
      ⟨1, ⟨.openParenthesis, "(", 1, none, some 20, []⟩⟩ 20 :=
    ⟨by decide, by decide, rfl, by decide, rfl, by decide, by decide⟩
  refine ⟨⟨_, hlists⟩, (SignatureReader.reads_names_in_parts hlists).trans (congrArg Except.ok ?_)⟩
  decide +kernel

end DocLint

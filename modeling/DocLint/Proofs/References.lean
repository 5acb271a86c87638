import DocLint.Proofs.Rewriting

/-!
# References that are right

The references of a source come with its tokens and may be wrong. This module looks at sources whose
references are right as far as they are present, and still allows any of them to be missing. There a
reader breaks off for one reason only: a reference that it needs is missing. `Source.Misses` says of
a fault that it names such a reference; no other fault satisfies it.

This is shown for the three readers that follow references: the search for the comment of a
declaration, the reading of a comment, and the reading of a signature. The walk through a parameter
list ends because a bracket's reference leads forward, so every step makes progress.
-/

namespace DocLint

/-- The first parenthesis after a position exists and knows its end. -/
def Source.HasParameterList (source : Source) (position : Int) : Prop :=
  ∃ slot ∈ source.slots, position < slot.position ∧ slot.kind = .openParenthesis ∧
    slot.token.closer?.isSome = true ∧
    ∀ other ∈ source.slots, position < other.position → other.position < slot.position →
      other.kind ≠ .openParenthesis

instance (source : Source) (position : Int) : Decidable (source.HasParameterList position) :=
  inferInstanceAs (Decidable (∃ slot ∈ source.slots, _))

/-- The references that are present are right. -/
structure Source.RefersRightly (source : Source) : Prop where
  /-- A doc comment ends after it begins, inside the source. -/
  closer : ∀ slot ∈ source.slots, slot.kind = .docOpen → ∀ closer ∈ slot.token.closer?,
    slot.position < closer ∧ closer < source.size
  /-- The end of a doc comment points back at the beginning of one. -/
  opener : ∀ slot ∈ source.slots, slot.kind = .docClose → ∀ position ∈ slot.token.opener?,
    ∃ opener ∈ source.slots, opener.position = position ∧ opener.kind = .docOpen
  /-- The tags of a doc comment stand between its ends. -/
  tags : ∀ slot ∈ source.slots, slot.kind = .docOpen → ∀ closer ∈ slot.token.closer?,
    ∀ position ∈ slot.token.tagPositions, slot.position < position ∧ position < closer
  /-- A bracket ends after it begins, inside the source. -/
  brackets : ∀ slot ∈ source.slots, slot.kind.isBracketOpener = true →
    ∀ closer ∈ slot.token.closer?, slot.position < closer ∧ closer < source.size

/-- No reference is missing that a check may need. -/
structure Source.RefersFully (source : Source) : Prop where
  /-- Every doc comment knows its end. -/
  closer : ∀ slot ∈ source.slots, slot.kind = .docOpen → slot.token.closer?.isSome = true
  /-- Every end of a doc comment knows the beginning. -/
  opener : ∀ slot ∈ source.slots, slot.kind = .docClose → slot.token.opener?.isSome = true
  /-- Every function has a parameter list. -/
  parameters : ∀ slot ∈ source.slots, slot.kind = .function → source.HasParameterList slot.position

/-- The fault says that a reference is missing at a position, and there it is missing. -/
def Source.Misses (source : Source) : Fault → Prop
  | .closerWithoutOpener position =>
    ∃ slot ∈ source.slots, slot.position = position ∧ slot.kind = .docClose ∧
      slot.token.opener? = none
  | .openerWithoutCloser position | .noDocComment position =>
    ∃ slot ∈ source.slots, slot.position = position ∧ slot.kind = .docOpen ∧
      slot.token.closer? = none
  | .noParameterList position =>
    (∃ slot ∈ source.slots, slot.position = position ∧ slot.kind = .function) ∧
      ¬ source.HasParameterList position
  | _ => False

namespace Source

variable {source source' : Source}

/-- Nothing is missing where all references are there. -/
theorem RefersFully.not_misses (hfull : source.RefersFully) (fault : Fault) :
    ¬ source.Misses fault := by
  intro hmisses
  cases fault with
  | closerWithoutOpener position =>
    obtain ⟨slot, hslot, -, hkind, hnone⟩ := hmisses
    simpa [hnone] using hfull.opener slot hslot hkind
  | openerWithoutCloser position =>
    obtain ⟨slot, hslot, -, hkind, hnone⟩ := hmisses
    simpa [hnone] using hfull.closer slot hslot hkind
  | noDocComment position =>
    obtain ⟨slot, hslot, -, hkind, hnone⟩ := hmisses
    simpa [hnone] using hfull.closer slot hslot hkind
  | noParameterList position =>
    obtain ⟨⟨slot, hslot, rfl, hkind⟩, hmissing⟩ := hmisses
    exact hmissing (hfull.parameters slot hslot hkind)
  | _ => exact hmisses

/-! ## Sources that differ in texts only -/

section Rewriting

variable {allowed : Slot → String → Prop} (hrewrites : source.Rewrites allowed source')

include hrewrites

/-- References are not affected by new texts. -/
theorem RefersRightly.of_rewrites (hrefers : source.RefersRightly) : source'.RefersRightly := by
  have hsame : ∀ {slot : Slot} {kind : Kind}, slot.kind = kind → kind ≠ .docString →
      (slot ∈ source'.slots ↔ slot ∈ source.slots) := by
    intro slot kind hkind hne
    exact hrewrites.mem_slots_iff_of_kind_ne (hkind ▸ hne)
  refine ⟨?_, ?_, ?_, ?_⟩
  · intro slot hslot hkind closer hcloser
    rw [hrewrites.size_eq]
    exact hrefers.closer slot ((hsame hkind (by decide)).mp hslot) hkind closer hcloser
  · intro slot hslot hkind position hposition
    obtain ⟨opener, hopener, hat, hopens⟩ :=
      hrefers.opener slot ((hsame hkind (by decide)).mp hslot) hkind position hposition
    exact ⟨opener, (hsame hopens (by decide)).mpr hopener, hat, hopens⟩
  · intro slot hslot hkind
    exact hrefers.tags slot ((hsame hkind (by decide)).mp hslot) hkind
  · intro slot hslot hkind closer hcloser
    have hne : slot.kind ≠ .docString := by
      intro hstring
      rw [hstring] at hkind
      cases hkind
    rw [hrewrites.size_eq]
    exact hrefers.brackets slot ((hrewrites.mem_slots_iff_of_kind_ne hne).mp hslot) hkind closer
      hcloser

theorem hasParameterList_of_rewrites {position : Int} (hlist : source.HasParameterList position) :
    source'.HasParameterList position := by
  obtain ⟨slot, hslot, hafter, hkind, hcloser, hfirst⟩ := hlist
  have hne : slot.kind ≠ .docString := by
    rw [hkind]
    decide
  refine ⟨slot, (hrewrites.mem_slots_iff_of_kind_ne hne).mpr hslot, hafter, hkind, hcloser, ?_⟩
  intro other hother hlow hhigh hparenthesis
  have hne' : other.kind ≠ .docString := by
    rw [hparenthesis]
    decide
  exact hfirst other ((hrewrites.mem_slots_iff_of_kind_ne hne').mp hother) hlow hhigh hparenthesis

/-- What is missing after texts were rewritten was missing before. -/
theorem Misses.of_rewrites {fault : Fault} (hmisses : source'.Misses fault) :
    source.Misses fault := by
  have hslot : ∀ (position : Int) (kind : Kind) (rest : Slot → Prop), kind ≠ .docString →
      (∃ slot ∈ source'.slots, slot.position = position ∧ slot.kind = kind ∧ rest slot) →
        ∃ slot ∈ source.slots, slot.position = position ∧ slot.kind = kind ∧ rest slot := by
    rintro position kind rest hne ⟨slot, hslot, hat, rfl, hrest⟩
    exact ⟨slot, (hrewrites.mem_slots_iff_of_kind_ne hne).mp hslot, hat, rfl, hrest⟩
  cases fault with
  | closerWithoutOpener position => exact hslot position .docClose _ (by decide) hmisses
  | openerWithoutCloser position => exact hslot position .docOpen _ (by decide) hmisses
  | noDocComment position => exact hslot position .docOpen _ (by decide) hmisses
  | noParameterList position =>
    obtain ⟨⟨slot, hmem, hat, hkind⟩, hmissing⟩ := hmisses
    refine ⟨⟨slot, ?_, hat, hkind⟩, ?_⟩
    · apply (hrewrites.mem_slots_iff_of_kind_ne _).mp hmem
      rw [hkind]
      decide
    · intro hlist
      exact hmissing (hasParameterList_of_rewrites hrewrites hlist)
  | _ => exact hmisses

end Rewriting

/-! ## Finding a comment -/

/-- What a search for a comment may come to: it breaks off where a reference is missing, and a doc
comment that it finds begins where one begins. -/
structure Places (source : Source) (result : Except Fault (Option Placement)) : Prop where
  misses : ∀ fault, result = .error fault → source.Misses fault
  opens : ∀ subject opener closer, result = .ok (some (.doc subject opener closer)) →
    ∃ slot ∈ source.slots, slot.position = opener ∧ slot.kind = .docOpen

namespace Places

theorem of_misses {fault : Fault} (hmisses : source.Misses fault) : source.Places (.error fault) :=
  ⟨fun _ hfault => Except.error.inj hfault ▸ hmisses, fun _ _ _ hdoc => nomatch hdoc⟩

theorem of_none : source.Places (.ok none) :=
  ⟨fun _ hfault => (nomatch hfault), fun _ _ _ hdoc => nomatch hdoc⟩

theorem of_owner {placement : Placement}
    (howner : ∀ subject opener closer, placement ≠ .doc subject opener closer) :
    source.Places (.ok (some placement)) := by
  refine ⟨fun _ hfault => (nomatch hfault), ?_⟩
  intro subject opener closer hdoc
  exact absurd (Option.some.inj (Except.ok.inj hdoc)) (howner subject opener closer)

theorem of_doc {slot : Slot} (hslot : slot ∈ source.slots) (hkind : slot.kind = .docOpen)
    (subject : Subject) (closer : Int) :
    source.Places (.ok (some (.doc subject slot.position closer))) := by
  refine ⟨fun _ hfault => (nomatch hfault), ?_⟩
  intro subject' opener' closer' hdoc
  obtain ⟨-, hopener, -⟩ := Placement.doc.inj (Option.some.inj (Except.ok.inj hdoc))
  exact ⟨slot, hslot, hopener, hkind⟩

end Places

theorem mem_slots_of_beforeLeadIn? {position : Int} {slot : Slot}
    (hfound : source.beforeLeadIn? position = some slot) : slot ∈ source.slots :=
  (prev?_eq_some_iff.mp hfound).1

theorem mem_slots_of_functionCommentEnd? {anchor : Int} {last : Slot}
    (hlast : source.functionCommentEnd? anchor = some last) : last ∈ source.slots := by
  rw [functionCommentEnd?] at hlast
  split at hlast
  · cases hlast
  · rename_i found hfound
    have hmem := mem_slots_of_beforeLeadIn? hfound
    split at hlast
    · split at hlast
      · exact Option.some.inj hlast ▸ hmem
      · rename_i before hbefore
        split at hlast
        · exact Option.some.inj hlast ▸ mem_slots_of_beforeLeadIn? hbefore
        · exact Option.some.inj hlast ▸ hmem
    · exact Option.some.inj hlast ▸ hmem

theorem places_locateFile (anchor : Int) : source.Places (source.locateFile anchor) := by
  rw [locateFile]
  split
  · exact .of_none
  · split
    · exact .of_owner fun _ _ _ hdoc => nomatch hdoc
    · rename_i first hfirst
      split
      · exact .of_none
      · exact .of_owner fun _ _ _ hdoc => nomatch hdoc
      · rename_i hkind
        have hslot := (next?_eq_some_iff.mp hfirst).1
        rw [Slot.docCloser]
        cases hcloser : first.token.closer? with
        | none => exact .of_misses ⟨first, hslot, rfl, hkind, hcloser⟩
        | some closer => exact .of_doc hslot hkind .file closer
      · exact .of_owner fun _ _ _ hdoc => nomatch hdoc

section

variable (hrefers : source.RefersRightly)

include hrefers

/-- A closer leads to an opener, or the reference to it is missing. -/
theorem misses_or_docOpener {last : Slot} (hslot : last ∈ source.slots)
    (hkind : last.kind = .docClose) :
    (∃ fault, last.docOpener = .error fault ∧ source.Misses fault) ∨
      ∃ begins ∈ source.slots, last.docOpener = .ok begins.position ∧ begins.kind = .docOpen := by
  rw [Slot.docOpener]
  cases hopener : last.token.opener? with
  | none => exact Or.inl ⟨_, rfl, last, hslot, rfl, hkind, hopener⟩
  | some opener =>
    obtain ⟨begins, hbegins, rfl, hopens⟩ := hrefers.opener last hslot hkind opener hopener
    exact Or.inr ⟨begins, hbegins, rfl, hopens⟩

theorem places_locateFunction (anchor : Int) :
    source.Places (some <$> source.locateFunction anchor) := by
  rw [locateFunction]
  split
  · exact .of_owner fun _ _ _ hdoc => nomatch hdoc
  · rename_i last hlast
    split
    · exact .of_owner fun _ _ _ hdoc => nomatch hdoc
    · rename_i hkind
      rcases misses_or_docOpener hrefers (mem_slots_of_functionCommentEnd? hlast) hkind
        with ⟨fault, hopener, hmisses⟩ | ⟨begins, hbegins, hopener, hopens⟩ <;> rw [hopener]
      · exact .of_misses hmisses
      · exact .of_doc hbegins hopens _ _
    · exact .of_owner fun _ _ _ hdoc => nomatch hdoc

theorem places_locateClass (anchor : Int) : source.Places (some <$> source.locateClass anchor) := by
  rw [locateClass]
  split
  · exact .of_owner fun _ _ _ hdoc => nomatch hdoc
  · rename_i last hlast
    split
    · rename_i hkind
      rcases misses_or_docOpener hrefers (mem_slots_of_beforeLeadIn? hlast) hkind
        with ⟨fault, hopener, hmisses⟩ | ⟨begins, hbegins, hopener, hopens⟩ <;> rw [hopener]
      · exact .of_misses hmisses
      · simp only [bind, Except.bind]
        split <;> exact .of_doc hbegins hopens _ _
    · split <;> exact .of_owner fun _ _ _ hdoc => nomatch hdoc
    · exact .of_owner fun _ _ _ hdoc => nomatch hdoc

/-- **Finding the comment of a declaration.** -/
theorem places_locate {anchor : Int} {token : Token} {subject : Subject}
    (hat : source.token? anchor = some token)
    (hsubject : Subject.ofKind? token.kind = some subject) :
    source.Places (source.locate anchor) := by
  rw [locate, get_eq_ok_iff.mpr hat]
  simp only [bind, Except.bind, hsubject]
  cases subject with
  | file => exact places_locateFile anchor
  | classLike => exact places_locateClass hrefers anchor
  | function => exact places_locateFunction hrefers anchor

end

end Source

/-! ## Reading a comment -/

namespace Span

/-- A description inside the source can be read. -/
theorem exists_read {source : Source} {first : Slot} (hfront : 0 ≤ first.position) {closer : Int}
    (hcloser : closer ≤ source.size) : ∃ span, Span.read source first closer = .ok span := by
  have hmissing : (source.stretch (first.position + 1) closer).missing? = none :=
    Source.missing?_stretch (by omega) hcloser
  exact ⟨_, read_eq_ok_iff.mpr ⟨Or.inr hmissing, rfl⟩⟩

end Span

namespace Tag

/-- Tags inside the source can be read. -/
theorem exists_readAll {source : Source} {positions : List Int} {closer : Int}
    (hpositions : ∀ position ∈ positions, -(source.size : Int) ≤ position ∧ position < closer)
    (hcloser : closer ≤ source.size) : ∃ tags, readAll source positions closer = .ok tags := by
  apply exists_mapM_eq_ok
  rintro ⟨position, stop⟩ hbounds
  obtain ⟨hposition, hstop⟩ := List.of_mem_zip hbounds
  obtain ⟨hback, hbefore⟩ := hpositions position hposition
  have hreach : stop ≤ closer := by
    rcases List.mem_append.mp hstop with hstop | hstop
    · exact Int.le_of_lt (hpositions stop (List.mem_of_mem_tail hstop)).2
    · exact Int.le_of_eq (List.mem_singleton.mp hstop)
  have hsize : position < source.size := by omega
  obtain ⟨token, hat⟩ := Source.exists_token?_of_bounds hback hsize
  have hmissing : (source.stretch (position + 1) stop).missing? = none :=
    Source.missing?_stretch (by omega) (by omega)
  exact ⟨_, read_eq_ok_iff.mpr ⟨token, hat, hmissing, rfl⟩⟩

end Tag

namespace Block

variable {source : Source}

theorem exists_description? (source : Source) (start : Int) {closer : Int}
    (hcloser : closer ≤ source.size) :
    ∃ span?, description? source (content? source start closer) closer = .ok span? := by
  cases hfirst : content? source start closer with
  | none => exact ⟨none, rfl⟩
  | some first =>
    have hfront := (Source.bounds_of_mem_slots (Source.next?_eq_some_iff.mp hfirst).1).1
    obtain ⟨span, hspan⟩ := Span.exists_read hfront hcloser
    simp only [description?]
    split
    · exact ⟨some span, by rw [hspan]; rfl⟩
    · exact ⟨none, rfl⟩

theorem exists_longDescription? (source : Source) (short? : Option Span) {closer : Int}
    (hcloser : closer ≤ source.size) :
    ∃ span?, longDescription? source short? closer = .ok span? := by
  cases short? with
  | none => exact ⟨none, rfl⟩
  | some short => exact exists_description? source _ hcloser

/-- A comment whose tags stand inside can be read. -/
theorem exists_reads {opener closer : Int} {token : Token}
    (hat : source.token? opener = some token) (hkind : token.kind = .docOpen)
    (hcloser : token.closer? = some closer) (hsize : closer ≤ source.size)
    (hinside : ∀ position ∈ token.tagPositions, opener < position ∧ position < closer) :
    ∃ block, Block.read source opener = .ok block ∧ block.opener = opener ∧
      block.closer = closer ∧ block.Reads source token := by
  have hpositions : ∀ position ∈ token.tagPositions,
      -(source.size : Int) ≤ position ∧ position < closer := by
    intro position hposition
    have hback := Source.neg_size_le_of_token? hat
    obtain ⟨hafter, hbefore⟩ := hinside position hposition
    exact ⟨by omega, hbefore⟩
  obtain ⟨short?, hshort⟩ := exists_description? source (opener + 1) hsize
  obtain ⟨long?, hlong⟩ := exists_longDescription? source short? hsize
  obtain ⟨tags, htags⟩ := Tag.exists_readAll hpositions hsize
  let block : Block := ⟨opener, closer, content? source (opener + 1) closer, short?, long?, tags,
    source.text (opener + 1) closer⟩
  have hreads : block.Reads source token :=
    ⟨hat, hkind, hcloser, rfl, hshort, hlong, htags, rfl⟩
  exact ⟨block, read_eq_ok_iff.mpr ⟨rfl, token, hreads⟩, rfl, rfl, hreads⟩

/-- The comment lies in the source, with its tags after its beginning. -/
structure Framed (source : Source) (block : Block) : Prop where
  /-- It begins with the opener of a doc comment. -/
  opens : ∃ slot ∈ source.slots, slot.position = block.opener ∧ slot.kind = .docOpen
  before : block.opener < block.closer
  inside : block.closer < source.size
  tags : ∀ tag ∈ block.tags, block.opener < tag.position

section

variable (hrefers : source.RefersRightly) {slot : Slot} (hslot : slot ∈ source.slots)
variable (hkind : slot.kind = .docOpen)

include hrefers hslot hkind

/-- A comment that knows its end can be read. -/
theorem exists_read {closer : Int} (hcloser : slot.token.closer? = some closer) :
    ∃ block, Block.read source slot.position = .ok block := by
  have hsize := Int.le_of_lt (hrefers.closer slot hslot hkind closer hcloser).2
  obtain ⟨block, hread, -⟩ := exists_reads (Source.token?_of_mem_slots hslot) hkind hcloser hsize
    (hrefers.tags slot hslot hkind closer hcloser)
  exact ⟨block, hread⟩

/-- A comment that was read lies in the source. -/
theorem framed_of_read {block : Block} (hread : Block.read source slot.position = .ok block) :
    block.Framed source := by
  obtain ⟨hopener, token, hreads⟩ := read_eq_ok_iff.mp hread
  obtain rfl : slot.token = token := by
    have hat := Source.token?_of_mem_slots hslot
    rw [← hopener, hreads.token?, Option.some.injEq] at hat
    exact hat.symm
  obtain ⟨hbefore, hinside⟩ := hrefers.closer slot hslot hkind block.closer hreads.closer?
  refine ⟨⟨slot, hslot, hopener.symm, hkind⟩, hopener ▸ hbefore, hinside, ?_⟩
  intro tag htag
  obtain ⟨position, stop, hbounds, hread⟩ := hreads.exists_bounds htag
  obtain ⟨token, -, -, rfl⟩ := Tag.read_eq_ok_iff.mp hread
  rw [Tag.position_ofTexts, hopener]
  exact (hrefers.tags slot hslot hkind block.closer hreads.closer? position
    (List.of_mem_zip hbounds).1).1

/-- **Reading a comment** breaks off only where its end is missing. -/
theorem misses_of_read {fault : Fault} (hfault : Block.read source slot.position = .error fault) :
    source.Misses fault := by
  cases hcloser : slot.token.closer? with
  | none =>
    rw [Block.read, Source.get_eq_ok_iff.mpr (Source.token?_of_mem_slots hslot)] at hfault
    simp only [bind, Except.bind, hcloser, show slot.token.kind = .docOpen from hkind] at hfault
    obtain rfl := Except.error.inj hfault
    exact ⟨slot, hslot, rfl, hkind, hcloser⟩
  | some closer =>
    obtain ⟨block, hread⟩ := exists_read hrefers hslot hkind hcloser
    rw [hread] at hfault
    cases hfault

end

end Block

/-! ## Reading a signature -/

section Signatures

variable {source : Source}

/-- A parameter list that is found begins with a parenthesis of the source. -/
theorem ParameterList.find_eq_ok {anchor : Int} {list : ParameterList}
    (hfind : ParameterList.find source anchor = .ok list) :
    ∃ slot ∈ source.slots, slot.position = list.opener ∧ slot.kind = .openParenthesis ∧
      slot.token.closer? = some list.closer := by
  rw [ParameterList.find] at hfind
  split at hfind
  · cases hfind
  · rename_i slot hslot
    obtain ⟨hmem, -, -, hkind, -⟩ := Source.next?_eq_some_iff.mp hslot
    split at hfind
    · cases hfind
    · rename_i closer hcloser
      obtain rfl := Except.ok.inj hfind
      exact ⟨slot, hmem, rfl, by simpa using hkind, hcloser⟩

/-- A function whose parameter list is not found has none. -/
theorem ParameterList.misses_of_find {slot : Slot} (hslot : slot ∈ source.slots)
    (hkind : slot.kind = .function) {fault : Fault}
    (hfault : ParameterList.find source slot.position = .error fault) : source.Misses fault := by
  have hmisses : ¬ source.HasParameterList slot.position →
      source.Misses (.noParameterList slot.position) :=
    fun hnone => ⟨⟨slot, hslot, rfl, hkind⟩, hnone⟩
  rw [ParameterList.find] at hfault
  split at hfault
  · rename_i hnone
    obtain rfl := Except.error.inj hfault
    apply hmisses
    rintro ⟨list, hlist, hafter, hopens, -⟩
    have hnever := Source.next?_eq_none_iff.mp hnone list hlist (by omega)
      (Source.bounds_of_mem_slots hlist).2
    rw [hopens] at hnever
    cases hnever
  · rename_i first hfirst
    obtain ⟨hmem, hafter, -, hopens, hbetween⟩ := Source.next?_eq_some_iff.mp hfirst
    split at hfault
    · rename_i hcloser
      obtain rfl := Except.error.inj hfault
      apply hmisses
      rintro ⟨list, hlist, hlater, hlists, hsome, hearliest⟩
      have hsame : list = first := by
        apply Source.eq_of_mem_slots hlist hmem
        apply Int.le_antisymm
        · by_contra hbeyond
          apply hearliest first hmem (by omega) (by omega)
          simpa using hopens
        · by_contra hbeyond
          have hnever := hbetween list hlist (by omega) (by omega)
          rw [hlists] at hnever
          cases hnever
      rw [hsame, hcloser] at hsome
      cases hsome
    · cases hfault

namespace ParameterWalk

/-- A step is taken wherever a token stands. -/
theorem step_eq_ok {walk : ParameterWalk} {token : Token}
    (hat : source.token? walk.position = some token) :
    walk.step source = .ok (walk.advance token) := by
  rw [step, Source.get_eq_ok_iff.mpr hat]
  rfl

/-- A token that opens no group is passed in one step. -/
theorem position_read (walk : ParameterWalk) (token : Token) :
    (walk.read token).position = walk.position + 1 := by
  rw [read]
  split
  · rfl
  · rfl
  · split <;> rfl
  · rfl

/-- **A step makes progress** where the references of brackets are right. -/
theorem lt_position_advance (hrefers : source.RefersRightly) {walk : ParameterWalk} {token : Token}
    (hslot : ⟨walk.position, token⟩ ∈ source.slots) :
    walk.position < (walk.advance token).position := by
  rw [advance]
  split
  · rename_i closer hbracket hcloser
    have hafter := (hrefers.brackets _ hslot hbracket closer hcloser).1
    show walk.position < closer + 1
    have hlow : walk.position < closer := hafter
    omega
  · rw [position_read]
    omega

/-- **The walk ends** in as many steps as there are tokens up to the end of the list. -/
theorem exists_run? (hrefers : source.RefersRightly) {closer : Int} (hcloser : closer ≤ source.size)
    (steps : Nat) {walk : ParameterWalk} (hfront : 0 ≤ walk.position)
    (hsteps : closer ≤ walk.position + steps) :
    ∃ names, run? source closer steps walk = some (.ok names) := by
  induction steps generalizing walk with
  | zero =>
    rw [run?, if_pos (by omega)]
    exact ⟨walk.found, rfl⟩
  | succ steps ih =>
    rw [run?]
    split
    · exact ⟨walk.found, rfl⟩
    · have hsize : walk.position < source.size := by omega
      obtain ⟨token, hat⟩ := Source.exists_token?_of_lt_size hfront hsize
      have hslot : ⟨walk.position, token⟩ ∈ source.slots := Source.mem_slots_iff.mpr ⟨hfront, hat⟩
      have hprogress := lt_position_advance hrefers hslot
      rw [step_eq_ok hat]
      exact ih (by omega) (by omega)

end ParameterWalk

namespace SignatureReader

variable {slot : Slot} (hslot : slot ∈ source.slots) (hkind : slot.kind = .function) {fault : Fault}

include hslot hkind

theorem misses_of_nameFromTokens (hfault : nameFromTokens source slot.position = .error fault) :
    source.Misses fault := by
  rcases except_bind_eq_error_iff.mp hfault with hfind | ⟨list, -, hfault⟩
  · exact ParameterList.misses_of_find hslot hkind hfind
  · cases hfault

/-- **Reading the parameters** breaks off only where the parameter list is missing. -/
theorem misses_of_parametersFromTokens (hrefers : source.RefersRightly)
    (hfault : parametersFromTokens source slot.position = .error fault) : source.Misses fault := by
  rcases except_bind_eq_error_iff.mp hfault with hfind | ⟨list, hfind, hfault⟩
  · exact ParameterList.misses_of_find hslot hkind hfind
  · obtain ⟨first, hfirst, hopener, hopens, hcloser⟩ := ParameterList.find_eq_ok hfind
    have hbracket : first.kind.isBracketOpener = true := by
      rw [hopens]
      rfl
    have hinside := (hrefers.brackets first hfirst hbracket list.closer hcloser).2
    have hfront := (Source.bounds_of_mem_slots hfirst).1
    have hstart : 0 ≤ (ParameterWalk.start list).position := by
      show 0 ≤ list.opener + 1
      omega
    have hbound : list.closer ≤ (ParameterWalk.start list).position + stepBound source := by
      rw [stepBound]
      omega
    obtain ⟨names, hrun⟩ :=
      ParameterWalk.exists_run? hrefers (Int.le_of_lt hinside) (stepBound source) hstart hbound
    rw [hrun] at hfault
    cases hfault

end SignatureReader

end Signatures

end DocLint

import DocLint.Proofs.BlockReading
import DocLint.Proofs.CommentOwner

/-!
# Every declaration has a comment of its own

The comment of a function, class or interface is found by a walk back from the declaration. The walk
steps over modifiers and white space and, before a function, once over an ordinary comment that
belongs to the line before. This module shows that it never steps over another declaration, so two
declarations never meet in one doc comment.

Nothing is assumed about where comments and declarations stand. References matter at one place only:
two doc comments count as different because they end at different places, and that they also begin
at different places has to be known.
-/

namespace DocLint

/-- A walk back stops at the keyword of every declaration. -/
theorem Subject.stops_walk {kind : Kind} {subject : Subject}
    (hsubject : Subject.ofKind? kind = some subject) :
    ¬ (kind.isLeadIn = true ∨ kind = .comment) := by
  cases kind <;> simp [Subject.ofKind?, Kind.isLeadIn, Kind.isModifier] at hsubject ⊢

/-- The beginning of a doc comment is found when its end refers to one. -/
theorem Slot.docOpener_eq_ok_iff {slot : Slot} {opener : Int} :
    slot.docOpener = .ok opener ↔ slot.token.opener? = some opener := by
  rw [Slot.docOpener]
  cases slot.token.opener? <;> simp

/-- What documents a declaration, and not the file, is a doc comment. -/
theorem Placement.exists_doc_of_owner {placement : Placement} {subject : Subject}
    (howner : placement.owner = .subject subject) (hsubject : subject ≠ .file) :
    ∃ opener closer, placement = .doc subject opener closer := by
  cases placement with
  | doc found opener closer =>
    cases howner
    exact ⟨opener, closer, rfl⟩
  | ordinaryOfFile =>
    cases howner
    exact absurd rfl hsubject
  | _ => cases howner

namespace Source

variable {source : Source}

/-! ## The walk back -/

/-- The walk back from a position reaches a slot: only modifiers, white space and ordinary comments
lie between the two. -/
structure ReachesBack (source : Source) (position : Int) (slot : Slot) : Prop where
  /-- It is a slot of the source. -/
  mem : slot ∈ source.slots
  /-- It comes before the position. -/
  before : slot.position < position
  /-- Nothing else lies between it and the position. -/
  passed : ∀ other ∈ source.slots, slot.position < other.position → other.position < position →
    other.kind.isLeadIn = true ∨ other.kind = .comment

/-- The nearest slot that is neither a modifier nor white space is reached. -/
theorem reachesBack_of_commentEnd {position : Int} {slot : Slot}
    (hend : source.CommentEnd position slot) : source.ReachesBack position slot := by
  refine ⟨hend.mem, hend.before, fun other hother hlow hhigh => Or.inl ?_⟩
  simpa using hend.nearer other hother hlow hhigh

/-- The walk goes on behind an ordinary comment. -/
theorem ReachesBack.trans {position : Int} {comment slot : Slot}
    (hcomment : source.ReachesBack position comment) (hkind : comment.kind = .comment)
    (hslot : source.ReachesBack comment.position slot) : source.ReachesBack position slot := by
  refine ⟨hslot.mem, Int.lt_trans hslot.before hcomment.before, fun other hother hlow hhigh => ?_⟩
  rcases Int.lt_trichotomy other.position comment.position with hbefore | hequal | hafter
  · exact hslot.passed other hother hlow hbefore
  · rw [eq_of_mem_slots hother hcomment.mem hequal]
    exact Or.inr hkind
  · exact hcomment.passed other hother hafter hhigh

/-- What ends the comment of a function is reached from the function. -/
theorem reachesBack_of_functionCommentEnd? {anchor : Int} {slot : Slot}
    (hend : source.functionCommentEnd? anchor = some slot) : source.ReachesBack anchor slot := by
  rw [functionCommentEnd?] at hend
  cases hlast : source.beforeLeadIn? anchor with
  | none => simp [hlast] at hend
  | some last =>
    have hreached := reachesBack_of_commentEnd (beforeLeadIn?_eq_some_iff.mp hlast)
    simp only [hlast] at hend
    by_cases hkind : last.kind = .comment
    · rw [if_pos hkind] at hend
      cases hbefore : source.beforeLeadIn? last.position with
      | none =>
        simp only [hbefore, Option.some.injEq] at hend
        exact hend ▸ hreached
      | some before =>
        have hfurther := reachesBack_of_commentEnd (beforeLeadIn?_eq_some_iff.mp hbefore)
        simp only [hbefore] at hend
        by_cases hline : before.line = last.line
        · simp only [if_pos hline, Option.some.injEq] at hend
          exact hend ▸ hreached.trans hkind hfurther
        · simp only [if_neg hline, Option.some.injEq] at hend
          exact hend ▸ hreached
    · simp only [if_neg hkind, Option.some.injEq] at hend
      exact hend ▸ hreached

/-- **A slot is reached from one declaration at most.** Of two declarations that reach it, the walk
from the later one would step over the earlier one. -/
theorem ReachesBack.unique {first second slot : Slot} {subject subject' : Subject}
    (hfirst : first ∈ source.slots) (hsubject : Subject.ofKind? first.kind = some subject)
    (hsecond : second ∈ source.slots) (hsubject' : Subject.ofKind? second.kind = some subject')
    (hreached : source.ReachesBack first.position slot)
    (hreached' : source.ReachesBack second.position slot) : first = second := by
  rcases Int.lt_trichotomy first.position second.position with hbefore | hequal | hafter
  · exact absurd (hreached'.passed first hfirst hreached.before hbefore)
      (Subject.stops_walk hsubject)
  · exact eq_of_mem_slots hfirst hsecond hequal
  · exact absurd (hreached.passed second hsecond hreached'.before hafter)
      (Subject.stops_walk hsubject')

/-! ## Doc comments of declarations -/

/-- The slot ends a doc comment that begins at `opener`, and the walk back from a position reaches
it. -/
structure ClosesComment (source : Source) (position opener : Int) (slot : Slot) : Prop where
  /-- The walk back reaches the slot. -/
  reached : source.ReachesBack position slot
  /-- It ends a doc comment. -/
  kind : slot.kind = .docClose
  /-- The comment begins at the opener. -/
  opener : slot.token.opener? = some opener

/-- The comment of a function was reached from it. -/
theorem exists_closesComment_of_locateFunction {anchor opener closer : Int} {subject : Subject}
    (hlocate : source.locateFunction anchor = .ok (.doc subject opener closer)) :
    ∃ slot, source.ClosesComment anchor opener slot ∧ slot.position = closer := by
  rw [locateFunction] at hlocate
  cases hend : source.functionCommentEnd? anchor with
  | none => simp [hend] at hlocate
  | some last =>
    have hreached := reachesBack_of_functionCommentEnd? hend
    simp only [hend] at hlocate
    split at hlocate
    · cases hlocate
    · rename_i hkind
      obtain ⟨start, hopener, hfound⟩ := except_bind_eq_ok_iff.mp hlocate
      cases hfound
      exact ⟨last, ⟨hreached, hkind, Slot.docOpener_eq_ok_iff.mp hopener⟩, rfl⟩
    · cases hlocate

/-- A doc comment before a class or interface was reached from it. -/
theorem exists_closesComment_of_locateClass {anchor opener closer : Int} {subject : Subject}
    (hlocate : source.locateClass anchor = .ok (.doc subject opener closer)) :
    ∃ slot, source.ClosesComment anchor opener slot ∧ slot.position = closer := by
  rw [locateClass] at hlocate
  cases hlast : source.beforeLeadIn? anchor with
  | none => simp [hlast] at hlocate
  | some last =>
    have hreached := reachesBack_of_commentEnd (beforeLeadIn?_eq_some_iff.mp hlast)
    simp only [hlast] at hlocate
    split at hlocate
    · rename_i hkind
      obtain ⟨start, hopener, hfound⟩ := except_bind_eq_ok_iff.mp hlocate
      have hclosed : source.ClosesComment anchor start last :=
        ⟨hreached, hkind, Slot.docOpener_eq_ok_iff.mp hopener⟩
      -- The comment may be that of the file; it was reached either way.
      split at hfound <;> cases hfound <;> exact ⟨last, hclosed, rfl⟩
    · split at hlocate <;> cases hlocate
    · cases hlocate

/-- At an open tag, a comment is looked for only if there is no open tag before, and a doc comment
that is found documents the file. -/
theorem locateFile_eq_some {position : Int} {placement : Placement}
    (hlocate : source.locateFile position = .ok (some placement)) :
    source.NoOpenTagBefore position ∧
      ∀ subject opener closer, placement = .doc subject opener closer → subject = .file := by
  rw [locateFile] at hlocate
  split at hlocate
  · cases hlocate
  · rename_i hearlier
    rw [Option.isSome_iff_ne_none, not_not, prev?_openTag_eq_none_iff] at hearlier
    refine ⟨hearlier, ?_⟩
    rintro subject opener closer rfl
    split at hlocate
    · cases hlocate
    · rename_i first hfirst
      split at hlocate
      · cases hlocate
      · cases hlocate
      · obtain ⟨stop, -, hfound⟩ := except_bind_eq_ok_iff.mp hlocate
        cases hfound
        rfl
      · cases hlocate

/-- A comment is looked for in the way of the subject that is declared. -/
theorem locate_eq_some {anchor : Slot} (hanchor : anchor ∈ source.slots) {placement : Placement}
    (hlocate : source.locate anchor.position = .ok (some placement)) :
    ∃ subject, Subject.ofKind? anchor.kind = some subject ∧
      match subject with
      | .file => source.locateFile anchor.position = .ok (some placement)
      | .classLike => source.locateClass anchor.position = .ok placement
      | .function => source.locateFunction anchor.position = .ok placement := by
  rw [locate, get_eq_ok_iff.mpr (token?_of_mem_slots hanchor)] at hlocate
  obtain ⟨token, htoken, hlocate⟩ := except_bind_eq_ok_iff.mp hlocate
  cases htoken
  split at hlocate
  · cases hlocate
  · rename_i hsubject
    exact ⟨.file, hsubject, hlocate⟩
  · rename_i hsubject
    obtain ⟨found, hfound, hsome⟩ := except_bind_eq_ok_iff.mp hlocate
    cases hsome
    exact ⟨.classLike, hsubject, hfound⟩
  · rename_i hsubject
    obtain ⟨found, hfound, hsome⟩ := except_bind_eq_ok_iff.mp hlocate
    cases hsome
    exact ⟨.function, hsubject, hfound⟩

/-- Every comment that documents a declaration, and not the file, was reached from the
declaration. -/
theorem exists_closesComment {anchor : Slot} (hanchor : anchor ∈ source.slots)
    {subject : Subject} (hsubject : subject ≠ .file) {opener closer : Int}
    (hlocate : source.locate anchor.position = .ok (some (.doc subject opener closer))) :
    ∃ slot, source.ClosesComment anchor.position opener slot ∧ slot.position = closer := by
  obtain ⟨declared, -, hfound⟩ := locate_eq_some hanchor hlocate
  cases declared with
  | file => exact absurd ((locateFile_eq_some hfound).2 subject opener closer rfl) hsubject
  | classLike => exact exists_closesComment_of_locateClass hfound
  | function => exact exists_closesComment_of_locateFunction hfound

/-! ## One declaration for each comment -/

/-- Doc comments that end at different places begin at different places. -/
def OpensApart (source : Source) : Prop :=
  ∀ first ∈ source.slots, ∀ second ∈ source.slots, first.kind = .docClose →
    second.kind = .docClose → first.position ≠ second.position →
      first.token.opener?.isSome = true → first.token.opener? ≠ second.token.opener?

/-- The doc comments of two declarations end at different places and begin at different places. -/
theorem apart_of_locate (hopens : source.OpensApart) {first second : Slot}
    (hfirst : first ∈ source.slots) (hsecond : second ∈ source.slots)
    (hne : first.position ≠ second.position) {subject subject' : Subject}
    (hsubject : subject ≠ .file) (hsubject' : subject' ≠ .file)
    {opener closer opener' closer' : Int}
    (hlocate : source.locate first.position = .ok (some (.doc subject opener closer)))
    (hlocate' : source.locate second.position = .ok (some (.doc subject' opener' closer'))) :
    opener ≠ opener' ∧ closer ≠ closer' := by
  obtain ⟨_, hdeclared, -⟩ := locate_eq_some hfirst hlocate
  obtain ⟨_, hdeclared', -⟩ := locate_eq_some hsecond hlocate'
  obtain ⟨slot, hcloses, rfl⟩ := exists_closesComment hfirst hsubject hlocate
  obtain ⟨slot', hcloses', rfl⟩ := exists_closesComment hsecond hsubject' hlocate'
  have hends : slot.position ≠ slot'.position := by
    intro hequal
    have hsame := eq_of_mem_slots hcloses.reached.mem hcloses'.reached.mem hequal
    have hreached' := hcloses'.reached
    rw [← hsame] at hreached'
    exact hne (congrArg Slot.position
      (hcloses.reached.unique hfirst hdeclared hsecond hdeclared' hreached'))
  refine ⟨?_, hends⟩
  rintro rfl
  have hdiffer := hopens slot hcloses.reached.mem slot' hcloses'.reached.mem hcloses.kind
    hcloses'.kind hends
  rw [hcloses.opener, hcloses'.opener] at hdiffer
  exact hdiffer rfl rfl

/-- **A doc comment documents one declaration at most.** Let doc comments that end at different
places begin at different places. If the comments of two declarations document these declarations,
and not the file, they are two doc comments with different ends. Only functions, classes and
interfaces have such a comment. And a comment of the file is looked for at one open tag at most. -/
theorem comment_documents_one_declaration (hopens : source.OpensApart) :
    (∀ first ∈ source.slots, ∀ second ∈ source.slots, first.position ≠ second.position →
      ∀ placement placement' subject subject',
        source.locate first.position = .ok (some placement) →
        source.locate second.position = .ok (some placement') →
        placement.owner = .subject subject → subject ≠ .file →
        placement'.owner = .subject subject' → subject' ≠ .file →
          ∃ opener closer opener' closer', placement = .doc subject opener closer ∧
            placement' = .doc subject' opener' closer' ∧ opener ≠ opener' ∧ closer ≠ closer') ∧
      ∀ tag ∈ source.slots, ∀ tag' ∈ source.slots, tag.kind = .openTag → tag'.kind = .openTag →
        ∀ placement placement', source.locate tag.position = .ok (some placement) →
          source.locate tag'.position = .ok (some placement') → tag = tag' := by
  refine ⟨?_, ?_⟩
  · intro first hfirst second hsecond hne placement placement' subject subject' hlocate hlocate'
      howner hsubject howner' hsubject'
    obtain ⟨opener, closer, rfl⟩ := Placement.exists_doc_of_owner howner hsubject
    obtain ⟨opener', closer', rfl⟩ := Placement.exists_doc_of_owner howner' hsubject'
    exact ⟨opener, closer, opener', closer', rfl, rfl,
      apart_of_locate hopens hfirst hsecond hne hsubject hsubject' hlocate hlocate'⟩
  · intro tag htag tag' htag' hkind hkind' placement placement' hlocate hlocate'
    rw [locate_of_openTag htag hkind] at hlocate
    rw [locate_of_openTag htag' hkind'] at hlocate'
    rcases Int.lt_trichotomy tag.position tag'.position with hbefore | hequal | hafter
    · exact absurd hkind ((locateFile_eq_some hlocate').1 tag htag hbefore)
    · exact eq_of_mem_slots htag htag' hequal
    · exact absurd hkind' ((locateFile_eq_some hlocate).1 tag' htag' hafter)

/-- A function behind a modifier, whose comment is followed by an ordinary one on the same line, and
a class with a comment of its own. -/
def functionAndClass : Source :=
  ⟨#[⟨.openTag, "<?php", 1, none, none, []⟩, ⟨.docOpen, "/**", 2, none, some 2, []⟩,
    ⟨.docClose, "*/", 2, some 1, none, []⟩, ⟨.comment, "// old", 2, none, none, []⟩,
    ⟨.publicKeyword, "public", 3, none, none, []⟩, ⟨.function, "function", 3, none, none, []⟩,
    ⟨.docOpen, "/**", 4, none, some 7, []⟩, ⟨.docClose, "*/", 5, some 6, none, []⟩,
    ⟨.classKeyword, "class", 6, none, none, []⟩]⟩

/-- The function reaches over the ordinary comment, but not to the comment of the class. -/
theorem functionAndClass_apart :
    functionAndClass.OpensApart ∧
      ∃ opener closer opener' closer',
        functionAndClass.locate 5 = .ok (some (.doc .function opener closer)) ∧
        functionAndClass.locate 8 = .ok (some (.doc .classLike opener' closer')) ∧
        opener ≠ opener' ∧ closer ≠ closer' := by
  have hopens : functionAndClass.OpensApart := by
    rw [OpensApart]
    decide
  have hfirst : (⟨5, ⟨.function, "function", 3, none, none, []⟩⟩ : Slot) ∈
      functionAndClass.slots := by
    decide
  have hsecond : (⟨8, ⟨.classKeyword, "class", 6, none, none, []⟩⟩ : Slot) ∈
      functionAndClass.slots := by
    decide
  have hlocate : functionAndClass.locate 5 = .ok (some (.doc .function 1 2)) := rfl
  have hlocate' : functionAndClass.locate 8 = .ok (some (.doc .classLike 6 7)) := rfl
  obtain ⟨opener, closer, opener', closer', hfound, hfound', hapart⟩ :=
    (comment_documents_one_declaration hopens).1 _ hfirst _ hsecond (by decide) _ _ .function
      .classLike hlocate hlocate' rfl (by decide) rfl (by decide)
  exact ⟨hopens, opener, closer, opener', closer', hfound ▸ hlocate, hfound' ▸ hlocate', hapart⟩

end Source

end DocLint

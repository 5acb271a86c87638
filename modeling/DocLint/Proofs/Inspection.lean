import DocLint.Proofs.Filing
import DocLint.Proofs.SpacingEdits

/-!
# Inspecting a declaration

When the declaration at a position is inspected, one of three things happens. Its doc comment is
found and reviewed; or no comment of its own is found, and what is reported depends on kinds, lines
and references only; or the inspection breaks off. For one pass over a source this module says that
it ends when every inspection does, and that its edits are those of the inspections.
-/

namespace DocLint

open Check

/-! ## Comments of declarations -/

/-- The block is the doc comment of the declaration at a position. -/
structure Block.Documents (source : Source) (position : Int) (subject : Subject) (block : Block) :
    Prop where
  /-- The declaration declares the subject. -/
  declares : ∃ token, source.token? position = some token ∧
    Subject.ofKind? token.kind = some subject
  /-- The comment is found for it. -/
  located : ∃ closer, source.locate position = .ok (some (.doc subject block.opener closer))
  /-- The comment can be read. -/
  reads : ∃ token, block.Reads source token

namespace DocChecker

variable {checker : DocChecker Check} {source source' : Source} {position : Int}

/-- The kinds that a checker wants to see are those of declarations. -/
theorem exists_subject_of_mem_kinds {kind : Kind} (hkind : checker.kinds.contains kind = true) :
    ∃ subject, Subject.ofKind? kind = some subject := by
  rw [List.contains_iff_mem] at hkind
  have hany := (List.mem_filter.mp hkind).2
  cases hsubject : Subject.ofKind? kind with
  | none =>
    rw [hsubject] at hany
    cases hany
  | some subject => exact ⟨subject, rfl⟩

/-- A declaration is inspected by looking for its comment. -/
theorem inspect_eq {token : Token} {subject : Subject} (hat : source.token? position = some token)
    (hsubject : Subject.ofKind? token.kind = some subject) :
    checker.inspect source position =
      ofExcept (source.locate position) >>= fun placement? =>
        match placement? with
        | none => .done ()
        | some placement => checker.inspectPlacement source position subject token placement := by
  unfold DocChecker.inspect
  rewrite [Source.get_eq_ok_iff.mpr hat, ofExcept_ok_bind, hsubject, require_some_bind]
  rfl

/-- A declaration for which a doc comment is found is inspected by reading and reviewing it. -/
theorem inspect_of_located {token : Token} {subject : Subject}
    (hat : source.token? position = some token)
    (hsubject : Subject.ofKind? token.kind = some subject) {opener closer : Int}
    (hlocate : source.locate position = .ok (some (.doc subject opener closer))) :
    checker.inspect source position =
      ofExcept (Block.read source opener) >>=
        subject.review (checker.site source position subject) checker.processors := by
  rw [inspect_eq hat hsubject, hlocate, ofExcept_ok_bind]
  unfold inspectPlacement
  simp only [if_true]

/-- If the comment can be read, it is reviewed. -/
theorem inspect_eq_review {subject : Subject} {block : Block}
    (hdocuments : block.Documents source position subject) :
    checker.inspect source position =
      subject.review (checker.site source position subject) checker.processors block := by
  obtain ⟨token, hat, hsubject⟩ := hdocuments.declares
  obtain ⟨closer, hlocate⟩ := hdocuments.located
  have hread : Block.read source block.opener = .ok block :=
    Block.read_eq_ok_iff.mpr ⟨rfl, hdocuments.reads⟩
  rw [inspect_of_located hat hsubject hlocate, hread, ofExcept_ok_bind]

/-! ## Declarations without a doc comment -/

/-- No doc comment is found for the declaration of a subject. -/
def Lacks (source : Source) (position : Int) (subject : Subject) : Prop :=
  ∀ opener closer, source.locate position ≠ .ok (some (.doc subject opener closer))

/-- A doc comment is found for the declaration of a subject, or none is. -/
theorem located_or_lacks (source : Source) (position : Int) (subject : Subject) :
    (∃ opener closer, source.locate position = .ok (some (.doc subject opener closer))) ∨
      Lacks source position subject := by
  by_cases hlocate : ∃ opener closer,
      source.locate position = .ok (some (.doc subject opener closer))
  · exact Or.inl hlocate
  · exact Or.inr fun opener closer hdoc => hlocate ⟨opener, closer, hdoc⟩

/-- An inspection that ends has found a doc comment, or there is none. -/
theorem documents_or_lacks {subject : Subject} {token : Token}
    (hat : source.token? position = some token)
    (hsubject : Subject.ofKind? token.kind = some subject)
    (hsucceeds : (checker.inspect source position).Succeeds) :
    (∃ block, Block.Documents source position subject block) ∨ Lacks source position subject := by
  rcases located_or_lacks source position subject with ⟨opener, closer, hlocate⟩ | hlacks
  · rw [inspect_of_located hat hsubject hlocate] at hsucceeds
    obtain ⟨block, hread, -⟩ := succeeds_bind_iff.mp hsucceeds
    obtain ⟨rfl, hreads⟩ := Block.read_eq_ok_iff.mp hread
    exact Or.inl ⟨block, ⟨token, hat, hsubject⟩, ⟨closer, hlocate⟩, hreads⟩
  · exact Or.inr hlacks

/-- What is reported about a comment that is not the doc comment of the declaration. -/
def complaint? (subject : Subject) (token : Token) (placement? : Option Placement) :
    Option Violation :=
  placement?.map fun placement =>
    if placement.owner = .ordinary then .wrongCommentStyle (construct subject token)
    else .missingDocComment (construct subject token)

/-- Without a doc comment, an inspection reports that it is missing or ordinary, if a comment is
expected at all. -/
theorem inspect_of_lacks {subject : Subject} {token : Token}
    (hat : source.token? position = some token)
    (hsubject : Subject.ofKind? token.kind = some subject)
    (hlacks : Lacks source position subject) :
    checker.inspect source position =
      ofExcept (source.locate position) >>= fun placement? =>
        match complaint? subject token placement? with
        | none => .done ()
        | some violation => (checker.site source position subject).blame
            (missingPosition subject source position) violation none := by
  rw [inspect_eq hat hsubject]
  cases hlocate : source.locate position with
  | error fault => rfl
  | ok placement? =>
    rw [ofExcept_ok_bind, ofExcept_ok_bind]
    rcases placement? with _ | placement
    · rfl
    · cases placement with
      | absent => rfl
      | ordinaryBelow start => rfl
      | ordinaryAbove stop => rfl
      | ordinaryOfFile => rfl
      | doc owner opener closer =>
        have howner : owner ≠ subject := by
          rintro rfl
          exact hlacks opener closer hlocate
        unfold inspectPlacement
        simp only [if_neg howner]
        rfl

theorem edits_inspect_of_lacks {subject : Subject} {token : Token}
    (hat : source.token? position = some token)
    (hsubject : Subject.ofKind? token.kind = some subject)
    (hlacks : Lacks source position subject) : (checker.inspect source position).edits = [] := by
  rw [inspect_of_lacks hat hsubject hlacks]
  refine edits_bind_eq_nil (edits_ofExcept _) fun placement? => ?_
  split
  · rfl
  · exact Site.edits_blame_none _

/-! ## Two sources -/

/-- Where there is no doc comment, an inspection looks at no text but what the declaration is called
by. -/
theorem inspect_on_of_lacks (halike : source.Alike source') {subject : Subject}
    {token token' : Token} (hat : source.token? position = some token)
    (hat' : source'.token? position = some token')
    (hsubject : Subject.ofKind? token.kind = some subject)
    (hconstruct : construct subject token' = construct subject token)
    (hlacks : Lacks source position subject) :
    checker.inspect source' position = checker.inspect source position := by
  have hsubject' : Subject.ofKind? token'.kind = some subject := by
    obtain ⟨other, hother, hslot⟩ := halike.token? position token hat
    obtain rfl := Option.some.inj (hat'.symm.trans hother)
    rw [show token'.kind = token.kind from hslot.kind_eq, hsubject]
  have hlacks' : Lacks source' position subject := by
    intro opener closer hlocate
    rw [halike.locate_eq] at hlocate
    exact hlacks opener closer hlocate
  have hmissing : missingPosition subject source' position =
      missingPosition subject source position := by
    unfold missingPosition Rule.belowOpenTag
    rw [halike.size_eq]
  have hcomplaint : complaint? subject token' = complaint? subject token := by
    funext placement?
    simp only [complaint?, hconstruct]
  have hsite : (checker.site source position subject).source.Alike source' := halike
  rw [inspect_of_lacks hat hsubject hlacks, inspect_of_lacks hat' hsubject' hlacks',
    halike.locate_eq, hmissing, hcomplaint]
  simp only [← Site.blame_on hsite]
  rfl

section Rewriting

variable {allowed : Slot → String → Prop} (hrewrites : source.Rewrites allowed source')

include hrewrites

/-- Declarations are the same tokens in both sources. -/
theorem declaration_on {subject : Subject} {token : Token}
    (hat : source.token? position = some token)
    (hsubject : Subject.ofKind? token.kind = some subject) :
    source'.token? position = some token := by
  apply hrewrites.token?_eq_of_kind_ne hat
  intro hkind
  rw [hkind] at hsubject
  cases hsubject

/-- A doc comment of a declaration corresponds to one in the other source. -/
theorem documents_on {subject : Subject} {block : Block}
    (hdocuments : block.Documents source position subject) :
    ∃ block', Block.Documents source' position subject block' ∧
      Block.Rewrites allowed block block' := by
  obtain ⟨token, hat, hsubject⟩ := hdocuments.declares
  obtain ⟨closer, hlocate⟩ := hdocuments.located
  obtain ⟨opener, hreads⟩ := hdocuments.reads
  obtain ⟨block', hreads', hblock⟩ := hrewrites.reads_rel hreads
  refine ⟨block', ⟨⟨token, declaration_on hrewrites hat hsubject, hsubject⟩, ⟨closer, ?_⟩, opener,
    hreads'⟩, hblock⟩
  rw [hrewrites.alike.locate_eq, hblock.opener_eq, hlocate]

/-- **Inspections in two sources.** An inspection that ends in one source reviews corresponding
comments in both, or it is the same in both. -/
theorem inspect_rel {slot : Slot} (hat : source.token? position = some slot.token)
    (hkind : checker.kinds.contains slot.kind = true)
    (hsucceeds : (checker.inspect source position).Succeeds) :
    (∃ subject block block', Block.Documents source position subject block ∧
        Block.Documents source' position subject block' ∧ Block.Rewrites allowed block block') ∨
      checker.inspect source' position = checker.inspect source position ∧
        (checker.inspect source position).edits = [] := by
  obtain ⟨subject, hsubject⟩ := exists_subject_of_mem_kinds hkind
  rcases documents_or_lacks hat hsubject hsucceeds with ⟨block, hdocuments⟩ | hlacks
  · obtain ⟨block', hdocuments', hblock⟩ := documents_on hrewrites hdocuments
    exact Or.inl ⟨subject, block, block', hdocuments, hdocuments', hblock⟩
  · have hat' := declaration_on hrewrites hat hsubject
    exact Or.inr ⟨inspect_on_of_lacks hrewrites.alike hat hat' hsubject rfl hlacks,
      edits_inspect_of_lacks hat hsubject hlacks⟩

end Rewriting

/-! ## The edits of an inspection -/

/-- The edits of an inspection come from a function comment. -/
theorem mem_edits_inspect (hprocessors : checker.processors = .builtIn) {slot : Slot}
    (hat : source.token? position = some slot.token)
    (hkind : checker.kinds.contains slot.kind = true)
    (hsucceeds : (checker.inspect source position).Succeeds) {edit : Edit}
    (hedit : edit ∈ (checker.inspect source position).edits) :
    ∃ block, Block.Documents source position .function block ∧ edit ∈ block.spacingEdits := by
  obtain ⟨subject, hsubject⟩ := exists_subject_of_mem_kinds hkind
  rcases documents_or_lacks hat hsubject hsucceeds with ⟨block, hdocuments⟩ | hlacks
  · obtain ⟨opener, hreads⟩ := hdocuments.reads
    rw [inspect_eq_review hdocuments, hprocessors] at hsucceeds hedit
    rw [Subject.edits_review hreads.stands hsucceeds] at hedit
    split at hedit
    · rename_i hfunction
      subst hfunction
      exact ⟨block, hdocuments, hedit⟩
    · cases hedit
  · rw [edits_inspect_of_lacks hat hsubject hlacks] at hedit
    cases hedit

end DocChecker

/-- An edit of a function comment respaces the text of a parameter tag. -/
theorem Block.exists_param_of_mem_spacingEdits {block : Block} {edit : Edit}
    (hedit : edit ∈ block.spacingEdits) :
    ∃ tag ∈ block.tagsNamed "@param", edit ∈ (ParamTag.ofTag tag).edits := by
  unfold Block.spacingEdits at hedit
  split at hedit
  · obtain ⟨param, hparam, hedit⟩ := List.mem_flatMap.mp hedit
    obtain ⟨tag, htag, rfl⟩ := List.mem_map.mp hparam
    exact ⟨tag, htag, hedit⟩
  · cases hedit

/-- **All edits respace texts of the source.** -/
theorem Block.respaces_of_mem_spacingEdits {source : Source} {block : Block}
    (hstands : block.Stands source) {edit : Edit} (hedit : edit ∈ block.spacingEdits) :
    edit.Respaces source := by
  obtain ⟨tag, htag, hedit⟩ := exists_param_of_mem_spacingEdits hedit
  exact ParamTag.respaces_of_mem_edits (hstands.tags tag (mem_tagsNamed.mp htag).1) hedit

/-! ## One pass -/

namespace Source

variable {source : Source} {checkers : List (Checker Check)}

/-- A checker wants to see a slot. -/
def Inspects (source : Source) (checkers : List (Checker Check)) (checker : Checker Check)
    (slot : Slot) : Prop :=
  checker ∈ checkers ∧ slot ∈ source.slots ∧ checker.kinds.contains slot.kind = true

/-- **A pass ends when every inspection does.** -/
theorem succeeds_inspect_iff :
    (source.inspect checkers).Succeeds ↔
      ∀ checker slot, source.Inspects checkers checker slot →
        (checker.inspect source slot.position).Succeeds := by
  unfold inspect inspectSlot
  simp only [succeeds_forM_iff]
  refine ⟨?_, ?_⟩
  · rintro hall checker slot ⟨hchecker, hslot, hkind⟩
    have hstep := hall slot hslot checker hchecker
    rwa [if_pos hkind] at hstep
  · intro hall slot hslot checker hchecker
    split
    · rename_i hkind
      exact hall checker slot ⟨hchecker, hslot, hkind⟩
    · exact succeeds_done ()

/-- The edits of a pass that ends are those of its inspections. -/
theorem mem_edits_inspect_iff (hsucceeds : (source.inspect checkers).Succeeds) {edit : Edit} :
    edit ∈ (source.inspect checkers).edits ↔
      ∃ checker slot, source.Inspects checkers checker slot ∧
        edit ∈ (checker.inspect source slot.position).edits := by
  have hslots : ∀ slot ∈ source.slots, (source.inspectSlot checkers slot).Succeeds :=
    succeeds_forM_iff.mp hsucceeds
  unfold inspect
  rw [edits_forM hsucceeds, List.mem_flatMap]
  refine ⟨?_, ?_⟩
  · rintro ⟨slot, hslot, hedit⟩
    unfold inspectSlot at hedit
    rw [edits_forM (hslots slot hslot)] at hedit
    obtain ⟨checker, hchecker, hedit⟩ := List.mem_flatMap.mp hedit
    split at hedit
    · rename_i hkind
      exact ⟨checker, slot, ⟨hchecker, hslot, hkind⟩, hedit⟩
    · cases hedit
  · rintro ⟨checker, slot, ⟨hchecker, hslot, hkind⟩, hedit⟩
    refine ⟨slot, hslot, ?_⟩
    unfold inspectSlot
    rw [edits_forM (hslots slot hslot)]
    refine List.mem_flatMap.mpr ⟨checker, hchecker, ?_⟩
    rw [if_pos hkind]
    exact hedit

/-- The report of a pass has come to hold what the inspections find. -/
theorem report_eq_map (source : Source) (checkers : List (Checker Check)) (fixing : Bool) :
    source.report checkers fixing = (source.inspect checkers).outcome.map fun _ =>
      .ofDiagnostics fixing (source.inspect checkers).diagnostics := by
  rw [← Report.fileAll_empty]
  rfl

/-- A pass has a report when it ends. -/
theorem report_eq_ok_iff {fixing : Bool} {report : Report} :
    source.report checkers fixing = .ok report ↔
      (source.inspect checkers).Succeeds ∧
        report = .ofDiagnostics fixing (source.inspect checkers).diagnostics := by
  rw [report_eq_map]
  unfold Check.Succeeds
  cases (source.inspect checkers).outcome with
  | error fault => simp [Except.map]
  | ok value => simp [Except.map, eq_comm]

/-- The inspections of doc checkers. -/
theorem inspects_map_iff {checkers : List (DocChecker Check)} {checker : Checker Check}
    {slot : Slot} :
    source.Inspects (checkers.map DocChecker.toChecker) checker slot ↔
      ∃ docChecker ∈ checkers, docChecker.toChecker = checker ∧ slot ∈ source.slots ∧
        docChecker.kinds.contains slot.kind = true := by
  unfold Inspects
  rw [List.mem_map]
  refine ⟨?_, ?_⟩
  · rintro ⟨⟨docChecker, hmem, rfl⟩, hslot, hkind⟩
    exact ⟨docChecker, hmem, rfl, hslot, hkind⟩
  · rintro ⟨docChecker, hmem, rfl, hslot, hkind⟩
    exact ⟨⟨docChecker, hmem, rfl⟩, hslot, hkind⟩

/-- **The edits of a pass** are those of function comments. -/
theorem exists_comment_of_mem_edits {checkers : List (DocChecker Check)}
    (hprocessors : ∀ checker ∈ checkers, checker.processors = .builtIn)
    (hsucceeds : (source.inspect (checkers.map DocChecker.toChecker)).Succeeds) {edit : Edit}
    (hedit : edit ∈ (source.inspect (checkers.map DocChecker.toChecker)).edits) :
    ∃ position block, Block.Documents source position .function block ∧
      edit ∈ block.spacingEdits := by
  obtain ⟨checker, slot, hinspects, hedit⟩ := (mem_edits_inspect_iff hsucceeds).mp hedit
  have hends := succeeds_inspect_iff.mp hsucceeds checker slot hinspects
  obtain ⟨docChecker, hmem, rfl, hslot, hkind⟩ := inspects_map_iff.mp hinspects
  obtain ⟨block, hdocuments, hedit⟩ := DocChecker.mem_edits_inspect (hprocessors docChecker hmem)
    (token?_of_mem_slots hslot) hkind hends hedit
  exact ⟨slot.position, block, hdocuments, hedit⟩

/-- **All edits of a pass respace texts.** -/
theorem respaces_of_mem_edits {checkers : List (DocChecker Check)}
    (hprocessors : ∀ checker ∈ checkers, checker.processors = .builtIn)
    (hsucceeds : (source.inspect (checkers.map DocChecker.toChecker)).Succeeds) {edit : Edit}
    (hedit : edit ∈ (source.inspect (checkers.map DocChecker.toChecker)).edits) :
    edit.Respaces source := by
  obtain ⟨position, block, hdocuments, hedit⟩ :=
    exists_comment_of_mem_edits hprocessors hsucceeds hedit
  obtain ⟨opener, hreads⟩ := hdocuments.reads
  exact Block.respaces_of_mem_spacingEdits hreads.stands hedit

end Source

/-- A report without edits has nothing that can be repaired. -/
theorem Report.fixable_eq_nil {report : Report}
    (hedits : report.diagnostics.filterMap Diagnostic.edit? = []) : report.fixable = [] := by
  unfold Report.fixable Diagnostic.isFixable
  rw [List.filterMap_eq_nil_iff] at hedits
  refine List.filter_eq_nil_iff.mpr fun diagnostic hdiagnostic => ?_
  rw [hedits diagnostic hdiagnostic]
  decide

end DocLint

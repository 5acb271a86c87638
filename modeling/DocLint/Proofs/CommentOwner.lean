import DocLint.Placement
import DocLint.Proofs.Search

/-!
# Who owns a comment

Whether a comment is the file comment is decided twice and in two ways. At the first open tag a scan
runs forward, over white space only, to the comment. At a class or interface a scan runs backward,
over modifiers and white space, to the end of the comment, and from the beginning of that comment
further back to the open tag.

The main result is that the two never disagree. The bridge is one fact about the searches: of two
slots that both pass a test, the second is the next one after the first exactly when the first is
the nearest one before the second. Nothing is assumed about where open tags, comments, white space
and modifiers stand; the doc comments only have to be paired.
-/

namespace DocLint

namespace Source

variable {source : Source}

/-! ## The first open tag -/

/-- No open tag stands before a position. -/
def NoOpenTagBefore (source : Source) (position : Int) : Prop :=
  ∀ slot ∈ source.slots, slot.position < position → slot.kind ≠ .openTag

/-- The search for an earlier open tag says whether there is one. -/
theorem prev?_openTag_eq_none_iff {position : Int} :
    source.prev? (fun kind => kind == .openTag) (position - 1) none = none ↔
      source.NoOpenTagBefore position := by
  rw [prev?_eq_none_iff]
  refine ⟨?_, ?_⟩
  · intro hnone slot hslot hbefore
    simpa using hnone slot hslot (bounds_of_mem_slots hslot).1 (by omega)
  · intro hnone slot hslot _ hbefore
    simpa using hnone slot hslot (by omega)

/-- A comment that begins after a position directly follows the first open tag when that tag is the
nearest slot before it that is not white space. -/
theorem followsFirstOpenTag_iff {position : Int} :
    source.followsFirstOpenTag position = true ↔
      ∃ slot, source.NearestBefore (fun kind => kind != .whitespace) (position + 1) slot ∧
        slot.kind = .openTag ∧ source.NoOpenTagBefore slot.position := by
  obtain ⟨start, rfl⟩ : ∃ start, position = start - 1 := ⟨position + 1, by omega⟩
  rw [Int.sub_add_cancel]
  unfold followsFirstOpenTag
  cases hsearch : source.prev? (fun kind => kind != .whitespace) (start - 1) none with
  | none =>
    simp only [Bool.false_eq_true, false_iff]
    rintro ⟨slot, hnearest, -⟩
    rw [prev?_eq_some_iff_nearestBefore.mpr hnearest] at hsearch
    cases hsearch
  | some before =>
    have hnearest := prev?_eq_some_iff_nearestBefore.mp hsearch
    simp only [Bool.and_eq_true, decide_eq_true_eq, Option.isNone_iff_eq_none,
      prev?_openTag_eq_none_iff]
    refine ⟨?_, ?_⟩
    · rintro ⟨hkind, hfirst⟩
      exact ⟨before, hnearest, hkind, hfirst⟩
    · rintro ⟨slot, hslot, hkind, hfirst⟩
      obtain rfl := hslot.unique hnearest
      exact ⟨hkind, hfirst⟩

/-! ## The scan from the open tag -/

/-- At an open tag the comment of the file is looked for. -/
theorem locate_of_openTag {tag : Slot} (htag : tag ∈ source.slots) (hkind : tag.kind = .openTag) :
    source.locate tag.position = source.locateFile tag.position := by
  unfold locate get
  rw [token?_of_mem_slots htag]
  simp [bind, Except.bind, hkind, Subject.ofKind?]

/-- The scan from an open tag accepts a doc comment when the tag is the first one of the file and
only white space stands between the two. -/
theorem locateFile_eq_doc_iff {position opener closer : Int} :
    source.locateFile position = .ok (some (.doc .file opener closer)) ↔
      source.NoOpenTagBefore position ∧
        ∃ slot, source.next? (fun kind => kind != .whitespace) (position + 1) none = some slot ∧
          slot.position = opener ∧ slot.kind = .docOpen ∧ slot.token.closer? = some closer := by
  rw [← prev?_openTag_eq_none_iff]
  unfold locateFile
  cases source.prev? (fun kind => kind == .openTag) (position - 1) none with
  | some earlier => simp
  | none =>
    cases source.next? (fun kind => kind != .whitespace) (position + 1) none with
    | none => simp
    | some first =>
      rcases first with ⟨start, ⟨kind, content, line, opener?, closer?, tagPositions⟩⟩
      cases kind <;> cases closer? <;> simp [Slot.docCloser, bind, Except.bind, pure, Except.pure]

/-- The scan from an open tag meets an ordinary comment when the tag is the first one of the file
and only white space stands between the two. -/
theorem locateFile_ordinary_iff {position : Int} :
    (∃ placement, source.locateFile position = .ok (some placement) ∧
        placement.owner = .ordinary) ↔
      source.NoOpenTagBefore position ∧
        ∃ slot, source.next? (fun kind => kind != .whitespace) (position + 1) none = some slot ∧
          slot.kind = .comment := by
  rw [← prev?_openTag_eq_none_iff]
  unfold locateFile
  cases source.prev? (fun kind => kind == .openTag) (position - 1) none with
  | some earlier => simp
  | none =>
    cases source.next? (fun kind => kind != .whitespace) (position + 1) none with
    | none => simp [Placement.owner]
    | some first =>
      rcases first with ⟨start, ⟨kind, content, line, opener?, closer?, tagPositions⟩⟩
      cases kind <;> cases closer? <;>
        simp [Slot.docCloser, bind, Except.bind, pure, Except.pure, Placement.owner]

/-! ## The scan from the class -/

/-- At a class or interface the comment of a class is looked for. -/
theorem locate_of_class {anchor : Slot} (hanchor : anchor ∈ source.slots)
    (hclass : anchor.kind = .classKeyword ∨ anchor.kind = .interface) :
    source.locate anchor.position = some <$> source.locateClass anchor.position := by
  unfold locate get
  rw [token?_of_mem_slots hanchor]
  rcases hclass with hkind | hkind <;> simp [bind, Except.bind, hkind, Subject.ofKind?]

/-- The nearest slot before a position that is neither a modifier nor white space. -/
abbrev CommentEnd (source : Source) (position : Int) (slot : Slot) : Prop :=
  source.NearestBefore (fun kind => !kind.isLeadIn) position slot

/-- The scan from a class ends at the end of a comment, if there is one. -/
theorem beforeLeadIn?_eq_some_iff {position : Int} {slot : Slot} :
    source.beforeLeadIn? position = some slot ↔ source.CommentEnd position slot :=
  prev?_eq_some_iff_nearestBefore

/-- A doc comment right before a class belongs to the class, unless it follows the first open
tag. -/
theorem locateClass_of_docClose {position opener : Int} {last : Slot}
    (hlast : source.CommentEnd position last) (hkind : last.kind = .docClose)
    (hopener : last.token.opener? = some opener) :
    source.locateClass position =
      .ok (.doc (if source.followsFirstOpenTag (opener - 1) then .file else .classLike) opener
        last.position) := by
  unfold locateClass
  rw [beforeLeadIn?_eq_some_iff.mpr hlast]
  simp only [hkind, Slot.docOpener, hopener, bind, Except.bind]
  split <;> rfl

/-- An ordinary comment right before a class stands in the place of the class comment, unless the
run of ordinary comments that it ends follows the first open tag. -/
theorem locateClass_of_comment {position : Int} {last : Slot}
    (hlast : source.CommentEnd position last) (hkind : last.kind = .comment) :
    source.locateClass position =
      .ok (if source.followsFirstOpenTag (source.beforeOrdinary last.position) then
        .ordinaryOfFile else .ordinaryAbove last.position) := by
  unfold locateClass
  rw [beforeLeadIn?_eq_some_iff.mpr hlast]
  simp only [hkind]
  split <;> rfl

/-- A class keeps only a doc comment that ends right before it and does not follow the first open
tag. -/
theorem locateClass_eq_doc_classLike {position opener closer : Int}
    (hlocate : source.locateClass position = .ok (.doc .classLike opener closer)) :
    source.followsFirstOpenTag (opener - 1) = false := by
  unfold locateClass at hlocate
  split at hlocate
  · cases hlocate
  · rename_i last hbefore
    split at hlocate
    · rename_i hkind
      cases hopener : last.token.opener? with
      | none => simp [Slot.docOpener, hopener, bind, Except.bind] at hlocate
      | some start =>
        simp only [Slot.docOpener, hopener, bind, Except.bind] at hlocate
        split at hlocate
        · cases hlocate
        · rename_i hfollows
          cases hlocate
          simpa using hfollows
    · split at hlocate <;> cases hlocate
    · cases hlocate

/-! ## Agreement -/

/-- The doc comments of a source are paired: every opener names a later closer and every closer an
earlier opener, and the two name each other. -/
structure PairsDocComments (source : Source) : Prop where
  /-- An opener names a closer that names it. -/
  closer : ∀ slot ∈ source.slots, slot.kind = .docOpen →
    ∃ closing ∈ source.slots, slot.token.closer? = some closing.position ∧
      slot.position < closing.position ∧ closing.kind = .docClose ∧
      closing.token.opener? = some slot.position
  /-- A closer names an opener that names it. -/
  opener : ∀ slot ∈ source.slots, slot.kind = .docClose →
    ∃ opening ∈ source.slots, slot.token.opener? = some opening.position ∧
      opening.position < slot.position ∧ opening.kind = .docOpen ∧
      opening.token.closer? = some slot.position

/-- Some open tag of the source takes a placement for that of the file comment. -/
def PlacesFileComment (source : Source) (placement : Placement) : Prop :=
  ∃ tag ∈ source.slots, tag.kind = .openTag ∧ source.locate tag.position = .ok (some placement)

/-- What an open tag takes for the file comment follows the first open tag. -/
theorem followsFirstOpenTag_of_placesFileComment {opener closer : Int}
    (hplaced : source.PlacesFileComment (.doc .file opener closer)) :
    source.followsFirstOpenTag (opener - 1) = true := by
  obtain ⟨tag, htag, hkind, hlocate⟩ := hplaced
  rw [locate_of_openTag htag hkind, locateFile_eq_doc_iff] at hlocate
  obtain ⟨hfirst, slot, hnext, rfl, hslot, -⟩ := hlocate
  have hmem := (next?_eq_some_iff.mp hnext).1
  rw [followsFirstOpenTag_iff, Int.sub_add_cancel]
  refine ⟨tag, ?_, hkind, hfirst⟩
  exact (next?_eq_some_iff_nearestBefore htag (by simp [hkind]) hmem (by simp [hslot])).mp hnext

/-- A doc comment that follows the first open tag is what that tag takes for the file comment. -/
theorem placesFileComment_of_followsFirstOpenTag {opening : Slot} {closer : Int}
    (hopening : opening ∈ source.slots) (hkind : opening.kind = .docOpen)
    (hcloser : opening.token.closer? = some closer)
    (hfollows : source.followsFirstOpenTag (opening.position - 1) = true) :
    source.PlacesFileComment (.doc .file opening.position closer) := by
  rw [followsFirstOpenTag_iff, Int.sub_add_cancel] at hfollows
  obtain ⟨tag, hnearest, htag, hfirst⟩ := hfollows
  refine ⟨tag, hnearest.mem, htag, ?_⟩
  rw [locate_of_openTag hnearest.mem htag, locateFile_eq_doc_iff]
  refine ⟨hfirst, opening, ?_, rfl, hkind, hcloser⟩
  exact (next?_eq_some_iff_nearestBefore hnearest.mem hnearest.passes hopening
    (by simp [hkind])).mpr hnearest

/-- Who owns the comment of the declaration at a position. -/
def OwnerAt (source : Source) (position : Int) (owner : Owner) : Prop :=
  ∃ placement, source.locate position = .ok (some placement) ∧ placement.owner = owner

/-- A comment that was placed has the owner of its placement and no other. -/
theorem ownerAt_iff_of_locate {position : Int} {placement : Placement}
    (hlocate : source.locate position = .ok (some placement)) (owner : Owner) :
    source.OwnerAt position owner ↔ placement.owner = owner := by
  refine ⟨?_, fun howner => ⟨placement, hlocate, howner⟩⟩
  rintro ⟨other, hother, howner⟩
  rw [hlocate] at hother
  cases hother
  exact howner

/-- The class and the open tags agree about a doc comment right before the class. -/
theorem ownerAt_of_docComment {anchor last opening : Slot} (hanchor : anchor ∈ source.slots)
    (hclass : anchor.kind = .classKeyword ∨ anchor.kind = .interface)
    (hlast : source.CommentEnd anchor.position last) (hkind : last.kind = .docClose)
    (hopener : last.token.opener? = some opening.position) (hopening : opening ∈ source.slots)
    (hopenKind : opening.kind = .docOpen)
    (hcloser : opening.token.closer? = some last.position) :
    (source.OwnerAt anchor.position (.subject .file) ↔
        source.PlacesFileComment (.doc .file opening.position last.position)) ∧
      (source.OwnerAt anchor.position (.subject .file) →
        source.locate anchor.position =
          .ok (some (.doc .file opening.position last.position))) ∧
      (¬ source.OwnerAt anchor.position (.subject .file) →
        source.locate anchor.position =
          .ok (some (.doc .classLike opening.position last.position))) := by
  have hlocate := locate_of_class hanchor hclass
  rw [locateClass_of_docClose hlast hkind hopener] at hlocate
  rw [ownerAt_iff_of_locate hlocate]
  cases hfollows : source.followsFirstOpenTag (opening.position - 1) with
  | true =>
    rw [hfollows] at hlocate
    have hplaced := placesFileComment_of_followsFirstOpenTag hopening hopenKind hcloser hfollows
    exact ⟨iff_of_true rfl hplaced, fun _ => hlocate, fun hother => absurd rfl hother⟩
  | false =>
    rw [hfollows] at hlocate
    have hunplaced : ¬ source.PlacesFileComment (.doc .file opening.position last.position) := by
      intro hplaced
      rw [followsFirstOpenTag_of_placesFileComment hplaced] at hfollows
      cases hfollows
    have hother : (Placement.doc .classLike opening.position last.position).owner ≠
        .subject .file := by
      simp [Placement.owner]
    exact ⟨iff_of_false hother hunplaced, fun howner => absurd howner hother, fun _ => hlocate⟩

/-- Only ordinary comments and white space stand strictly between two positions, whichever of them
comes first. -/
def OnlyOrdinaryBetween (source : Source) (first second : Int) : Prop :=
  ∀ slot ∈ source.slots, min first second < slot.position → slot.position < max first second →
    slot.kind = .comment ∨ slot.kind = .whitespace

/-- An ordinary comment belongs to the file when the run of ordinary comments that it ends goes back
to the first open tag. -/
theorem followsFirstOpenTag_beforeOrdinary_iff {position : Int} :
    source.followsFirstOpenTag (source.beforeOrdinary position) = true ↔
      ∃ slot, source.NearestBefore (fun kind => kind != .comment && kind != .whitespace) position
          slot ∧ slot.kind = .openTag ∧ source.NoOpenTagBefore slot.position := by
  unfold beforeOrdinary
  cases hsearch : source.prev? (fun kind => kind != .comment && kind != .whitespace)
      (position - 1) none with
  | none =>
    -- The run reaches the front of the source: no slot stands before it, so no open tag either.
    simp only [followsFirstOpenTag_iff]
    refine ⟨?_, ?_⟩
    · rintro ⟨slot, hnearest, -⟩
      have hbefore := hnearest.before
      have hfront := (bounds_of_mem_slots hnearest.mem).1
      omega
    · rintro ⟨slot, hnearest, -⟩
      rw [prev?_eq_some_iff_nearestBefore.mpr hnearest] at hsearch
      cases hsearch
  | some before =>
    have hnearest := prev?_eq_some_iff_nearestBefore.mp hsearch
    have hself : source.NearestBefore (fun kind => kind != .whitespace) (before.position + 1)
        before := by
      have hpasses := hnearest.passes
      simp only [Bool.and_eq_true] at hpasses
      exact ⟨hnearest.mem, by omega, hpasses.2, fun other _ hlow hhigh => by omega⟩
    simp only [followsFirstOpenTag_iff]
    refine ⟨?_, ?_⟩
    · rintro ⟨slot, hslot, htag, hfirst⟩
      obtain rfl := hslot.unique hself
      exact ⟨slot, hnearest, htag, hfirst⟩
    · rintro ⟨slot, hslot, htag, hfirst⟩
      obtain rfl := hslot.unique hnearest
      exact ⟨slot, hself, htag, hfirst⟩

/-- From an open tag that begins a run of ordinary comments, the scan meets one of them. -/
theorem ownerAt_ordinary_of_run {tag last : Slot}
    (hnearest : source.NearestBefore (fun kind => kind != .comment && kind != .whitespace)
      last.position tag)
    (htag : tag.kind = .openTag) (hfirst : source.NoOpenTagBefore tag.position)
    (hlast : last ∈ source.slots) (hcomment : last.kind = .comment) :
    source.OwnerAt tag.position .ordinary := by
  have hbefore := hnearest.before
  unfold OwnerAt
  rw [locate_of_openTag hnearest.mem htag, locateFile_ordinary_iff]
  refine ⟨hfirst, ?_⟩
  -- The scan cannot pass the last comment of the run, and all that it can meet up to there are
  -- ordinary comments.
  cases hnext : source.next? (fun kind => kind != .whitespace) (tag.position + 1) none with
  | none =>
    have hpassed := next?_eq_none_iff.mp hnext last hlast (by omega) (bounds_of_mem_slots hlast).2
    rw [hcomment] at hpassed
    cases hpassed
  | some met =>
    obtain ⟨hmet, hstart, -, hink, hskipped⟩ := next?_eq_some_iff.mp hnext
    refine ⟨met, rfl, ?_⟩
    rcases Int.lt_trichotomy met.position last.position with hlow | hequal | hhigh
    · have hordinary := hnearest.nearer met hmet (by omega) hlow
      by_contra hkind
      simp [hkind] at hordinary hink
      exact hink hordinary
    · rw [eq_of_mem_slots hmet hlast hequal]
      exact hcomment
    · have hpassed := hskipped last hlast (by omega) hhigh
      rw [hcomment] at hpassed
      cases hpassed

/-- An open tag with only ordinary comments between it and a comment before a class stands before
that comment: after it, the class would lie between the two. -/
theorem nearestBefore_of_onlyOrdinaryBetween {anchor tag last : Slot}
    (hanchor : anchor ∈ source.slots)
    (hclass : anchor.kind = .classKeyword ∨ anchor.kind = .interface)
    (hlast : source.CommentEnd anchor.position last) (hcomment : last.kind = .comment)
    (htag : tag ∈ source.slots) (hkind : tag.kind = .openTag)
    (hbetween : source.OnlyOrdinaryBetween tag.position last.position) :
    source.NearestBefore (fun kind => kind != .comment && kind != .whitespace) last.position
      tag := by
  have hbefore : tag.position < last.position := by
    by_contra hafter
    have hne : tag.position ≠ last.position := by
      intro hequal
      rw [eq_of_mem_slots htag hlast.mem hequal, hcomment] at hkind
      cases hkind
    have hlastBefore := hlast.before
    rcases Int.lt_trichotomy tag.position anchor.position with hlow | hequal | hhigh
    · have hleadIn := hlast.nearer tag htag (by omega) hlow
      simp [hkind, Kind.isLeadIn, Kind.isModifier] at hleadIn
    · rw [← eq_of_mem_slots htag hanchor hequal, hkind] at hclass
      simp at hclass
    · have hordinary := hbetween anchor hanchor (by omega) (by omega)
      rcases hclass with hclassKind | hclassKind <;> simp [hclassKind] at hordinary
  refine ⟨htag, hbefore, by simp [hkind], fun other hother hlow hhigh => ?_⟩
  rcases hbetween other hother (by omega) (by omega) with hordinary | hordinary <;>
    simp [hordinary]

/-- The class and the open tags agree about an ordinary comment right before the class. -/
theorem ownerAt_of_ordinaryComment {anchor last : Slot} (hanchor : anchor ∈ source.slots)
    (hclass : anchor.kind = .classKeyword ∨ anchor.kind = .interface)
    (hlast : source.CommentEnd anchor.position last) (hcomment : last.kind = .comment) :
    (source.OwnerAt anchor.position (.subject .file) ↔
        ∃ tag ∈ source.slots, tag.kind = .openTag ∧ source.OwnerAt tag.position .ordinary ∧
          source.OnlyOrdinaryBetween tag.position last.position) ∧
      (¬ source.OwnerAt anchor.position (.subject .file) →
        source.OwnerAt anchor.position .ordinary) := by
  have hlocate := locate_of_class hanchor hclass
  rw [locateClass_of_comment hlast hcomment] at hlocate
  have hscan : source.followsFirstOpenTag (source.beforeOrdinary last.position) = true ↔
      ∃ tag ∈ source.slots, tag.kind = .openTag ∧ source.OwnerAt tag.position .ordinary ∧
        source.OnlyOrdinaryBetween tag.position last.position := by
    rw [followsFirstOpenTag_beforeOrdinary_iff]
    refine ⟨?_, ?_⟩
    · rintro ⟨tag, hnearest, htag, hfirst⟩
      have howner := ownerAt_ordinary_of_run hnearest htag hfirst hlast.mem hcomment
      refine ⟨tag, hnearest.mem, htag, howner, fun slot hslot hlow hhigh => ?_⟩
      have hbefore := hnearest.before
      have hordinary := hnearest.nearer slot hslot (by omega) (by omega)
      by_cases hkind : slot.kind = .comment
      · exact .inl hkind
      · exact .inr (by simpa [hkind] using hordinary)
    · rintro ⟨tag, htag, hkind, howner, hbetween⟩
      unfold OwnerAt at howner
      rw [locate_of_openTag htag hkind, locateFile_ordinary_iff] at howner
      exact ⟨tag, nearestBefore_of_onlyOrdinaryBetween hanchor hclass hlast hcomment htag hkind
        hbetween, hkind, howner.1⟩
  rw [← hscan, ownerAt_iff_of_locate hlocate, ownerAt_iff_of_locate hlocate]
  cases source.followsFirstOpenTag (source.beforeOrdinary last.position) with
  | true => exact ⟨iff_of_true rfl rfl, fun hother => absurd rfl hother⟩
  | false => exact ⟨iff_of_false (by simp [Placement.owner]) Bool.false_ne_true, fun _ => rfl⟩

/-- What an open tag takes for the file comment is no class comment. -/
theorem not_placesFileComment_of_classComment {anchor : Slot} {opener closer closer' : Int}
    (hanchor : anchor ∈ source.slots)
    (hclass : anchor.kind = .classKeyword ∨ anchor.kind = .interface)
    (hlocate : source.locate anchor.position = .ok (some (.doc .classLike opener closer))) :
    ¬ source.PlacesFileComment (.doc .file opener closer') := by
  intro hplaced
  have hfollows := followsFirstOpenTag_of_placesFileComment hplaced
  rw [locate_of_class hanchor hclass] at hlocate
  cases hresult : source.locateClass anchor.position with
  | error fault =>
    rw [hresult] at hlocate
    cases hlocate
  | ok placement =>
    rw [hresult] at hlocate
    cases hlocate
    rw [locateClass_eq_doc_classLike hresult] at hfollows
    cases hfollows

/-- **The class heuristic and the file scan agree.** For a doc comment right before a class or
interface, the class gives it to the file exactly when some open tag takes it for the file comment,
and keeps it otherwise. For an ordinary comment there, the class gives it to the file exactly when
some open tag finds an ordinary comment in the place of the file comment and nothing but ordinary
comments and white space lies between. So no doc comment documents both a file and a class. -/
theorem class_heuristic_agrees_with_file_scan {anchor : Slot} (hpaired : source.PairsDocComments)
    (hanchor : anchor ∈ source.slots)
    (hclass : anchor.kind = .classKeyword ∨ anchor.kind = .interface) :
    (∀ last opener, source.CommentEnd anchor.position last → last.kind = .docClose →
      last.token.opener? = some opener →
        (source.OwnerAt anchor.position (.subject .file) ↔
          source.PlacesFileComment (.doc .file opener last.position)) ∧
        (source.OwnerAt anchor.position (.subject .file) →
          source.locate anchor.position = .ok (some (.doc .file opener last.position))) ∧
        (¬ source.OwnerAt anchor.position (.subject .file) →
          source.locate anchor.position =
            .ok (some (.doc .classLike opener last.position)))) ∧
    (∀ last, source.CommentEnd anchor.position last → last.kind = .comment →
      (source.OwnerAt anchor.position (.subject .file) ↔
        ∃ tag ∈ source.slots, tag.kind = .openTag ∧ source.OwnerAt tag.position .ordinary ∧
          source.OnlyOrdinaryBetween tag.position last.position) ∧
      (¬ source.OwnerAt anchor.position (.subject .file) →
        source.OwnerAt anchor.position .ordinary)) ∧
    ∀ opener closer closer',
      source.locate anchor.position = .ok (some (.doc .classLike opener closer)) →
        ¬ source.PlacesFileComment (.doc .file opener closer') := by
  refine ⟨fun last opener hlast hkind hopener => ?_, fun last hlast hkind => ?_,
    fun opener closer closer' => ?_⟩
  · obtain ⟨opening, hopening, hstart, -, hopenKind, hcloser⟩ :=
      hpaired.opener last hlast.mem hkind
    obtain rfl : opening.position = opener := Option.some.inj (hstart.symm.trans hopener)
    exact ownerAt_of_docComment hanchor hclass hlast hkind hopener hopening hopenKind hcloser
  · exact ownerAt_of_ordinaryComment hanchor hclass hlast hkind
  · exact not_placesFileComment_of_classComment hanchor hclass

/-- A file with a comment of its own and then, behind a modifier, an interface with a comment. -/
def fileAndInterface : Source :=
  ⟨#[⟨.openTag, "<?php", 1, none, none, []⟩, ⟨.docOpen, "/**", 2, none, some 2, []⟩,
    ⟨.docClose, "*/", 3, some 1, none, []⟩, ⟨.whitespace, "\n", 3, none, none, []⟩,
    ⟨.classKeyword, "class", 4, none, none, []⟩, ⟨.docOpen, "/**", 5, none, some 6, []⟩,
    ⟨.docClose, "*/", 6, some 5, none, []⟩, ⟨.finalKeyword, "final", 7, none, none, []⟩,
    ⟨.interface, "interface", 7, none, none, []⟩]⟩

/-- The first class gives its comment to the file, because the open tag takes it. -/
theorem fileAndInterface_agrees :
    fileAndInterface.PairsDocComments ∧
      fileAndInterface.CommentEnd 4 ⟨2, ⟨.docClose, "*/", 3, some 1, none, []⟩⟩ ∧
      (fileAndInterface.OwnerAt 4 (.subject .file) ↔
        fileAndInterface.PlacesFileComment (.doc .file 1 2)) := by
  have hpaired : fileAndInterface.PairsDocComments := ⟨by decide, by decide⟩
  have hlast : fileAndInterface.CommentEnd 4 ⟨2, ⟨.docClose, "*/", 3, some 1, none, []⟩⟩ :=
    ⟨by decide, by decide, by decide, by decide⟩
  have hanchor : (⟨4, ⟨.classKeyword, "class", 4, none, none, []⟩⟩ : Slot) ∈
      fileAndInterface.slots := by
    decide
  exact ⟨hpaired, hlast,
    ((class_heuristic_agrees_with_file_scan hpaired hanchor (by decide)).1 _ 1 hlast rfl rfl).1⟩

end Source

end DocLint

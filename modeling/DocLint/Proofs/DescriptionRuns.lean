import DocLint.Proofs.References
import Mathlib.Data.List.Chain
import Mathlib.Data.List.Sort

/-!
# Descriptions as runs of lines

The descriptions of a comment are found by searches and walks over the source: a search for the
first content, a walk that goes on as long as the lines do, and another search and walk from where
the first one ended. What they find can be said without any of this. Take the texts of the comment
that come before its first tag. The short description is the longest run of lines at the front of
these texts, and the long description the longest run at the front of what is then left.

The walks compare each line with the last one that was accepted. So several texts on one line, or
lines that go back, end a run like a gap does.
-/

namespace DocLint

/-! ## Runs of lines -/

/-- Each slot stands on the line after that of the slot before it. -/
def OnConsecutiveLines (slots : List Slot) : Prop :=
  slots.IsChain fun slot next => next.line = slot.line + 1

/-- The longest part at the front of some slots that stands on consecutive lines. -/
structure LongestRun (run slots : List Slot) : Prop where
  /-- It stands at the front. -/
  front : run <+: slots
  /-- Its lines have no gap. -/
  lines : OnConsecutiveLines run
  /-- Every other such part is a part of it. -/
  longest : ∀ other, other <+: slots → OnConsecutiveLines other → other <+: run

/-- The slots at the front that go on from a line. -/
def runAfter (line : Int) : List Slot → List Slot
  | [] => []
  | slot :: rest => if slot.line = line + 1 then slot :: runAfter slot.line rest else []

/-- Going on from the first slot as long as the lines do gives the longest run. -/
theorem longestRun_cons_runAfter (first : Slot) (rest : List Slot) :
    LongestRun (first :: runAfter first.line rest) (first :: rest) := by
  induction rest generalizing first with
  | nil => exact ⟨List.prefix_rfl, List.isChain_singleton first, fun _ hfront _ => hfront⟩
  | cons second others ih =>
    rw [runAfter]
    by_cases hnext : second.line = first.line + 1
    · rw [if_pos hnext]
      refine ⟨List.cons_prefix_cons.mpr ⟨rfl, (ih second).front⟩,
        List.isChain_cons_cons.mpr ⟨hnext, (ih second).lines⟩, ?_⟩
      intro other hfront hlines
      rcases List.prefix_cons_iff.mp hfront with rfl | ⟨more, rfl, hmore⟩
      · exact List.nil_prefix
      · exact List.cons_prefix_cons.mpr ⟨rfl, (ih second).longest more hmore hlines.tail⟩
    · rw [if_neg hnext]
      refine ⟨List.cons_prefix_cons.mpr ⟨rfl, List.nil_prefix⟩, List.isChain_singleton first, ?_⟩
      intro other hfront hlines
      rcases List.prefix_cons_iff.mp hfront with rfl | ⟨more, rfl, hmore⟩
      · exact List.nil_prefix
      · rcases List.prefix_cons_iff.mp hmore with rfl | ⟨further, rfl, -⟩
        · exact List.prefix_rfl
        · exact absurd (List.isChain_cons_cons.mp hlines).1 hnext

/-! ## Texts before the first tag -/

/-- The text tokens before the first tag. -/
def textsBeforeTag (slots : List Slot) : List Slot :=
  (slots.takeWhile fun slot => slot.kind != .docTag).filter fun slot => slot.kind == .docString

section TextsBeforeTag

variable {slot : Slot} {slots rest : List Slot}

theorem textsBeforeTag_cons_tag (hkind : slot.kind = .docTag) :
    textsBeforeTag (slot :: slots) = [] := by
  rw [textsBeforeTag, List.takeWhile_cons, hkind]
  rfl

theorem textsBeforeTag_cons_string (hkind : slot.kind = .docString) :
    textsBeforeTag (slot :: slots) = slot :: textsBeforeTag slots := by
  rw [textsBeforeTag, List.takeWhile_cons_of_pos (by rw [hkind]; rfl),
    List.filter_cons_of_pos (by rw [hkind]; rfl), textsBeforeTag]

theorem textsBeforeTag_cons_other (htag : slot.kind ≠ .docTag) (hstring : slot.kind ≠ .docString) :
    textsBeforeTag (slot :: slots) = textsBeforeTag slots := by
  have hpassed : (slot.kind != .docTag) = true := bne_iff_ne.mpr htag
  have hdropped : ¬ (slot.kind == .docString) = true := fun htext => hstring (beq_iff_eq.mp htext)
  rw [textsBeforeTag, List.takeWhile_cons, hpassed, if_pos rfl, List.filter_cons, if_neg hdropped,
    textsBeforeTag]

theorem textsBeforeTag_sublist (slots : List Slot) : (textsBeforeTag slots).Sublist slots :=
  List.filter_sublist.trans (List.takeWhile_sublist _)

/-- Mere layout is passed over. -/
theorem textsBeforeTag_append_filler (hfiller : ∀ slot ∈ slots, slot.kind.isFiller = true) :
    textsBeforeTag (slots ++ rest) = textsBeforeTag rest := by
  induction slots with
  | nil => rfl
  | cons slot slots ih =>
    have hslot := hfiller slot List.mem_cons_self
    have htag : slot.kind ≠ .docTag := by
      intro hkind
      rw [hkind] at hslot
      cases hslot
    have hstring : slot.kind ≠ .docString := by
      intro hkind
      rw [hkind] at hslot
      cases hslot
    rw [List.cons_append, textsBeforeTag_cons_other htag hstring]
    exact ih fun other hother => hfiller other (List.mem_cons_of_mem slot hother)

/-- After the first text come those before the first tag of the slots after it. -/
theorem exists_append_of_textsBeforeTag_eq_cons (htexts : textsBeforeTag slots = slot :: rest) :
    ∃ before after, slots = before ++ slot :: after ∧ rest = textsBeforeTag after := by
  induction slots with
  | nil => cases htexts
  | cons other slots ih =>
    by_cases htag : other.kind = .docTag
    · rw [textsBeforeTag_cons_tag htag] at htexts
      cases htexts
    · by_cases hstring : other.kind = .docString
      · rw [textsBeforeTag_cons_string hstring] at htexts
        obtain ⟨rfl, rfl⟩ := List.cons.inj htexts
        exact ⟨[], slots, rfl, rfl⟩
      · rw [textsBeforeTag_cons_other htag hstring] at htexts
        obtain ⟨before, after, rfl, hrest⟩ := ih htexts
        exact ⟨other :: before, after, rfl, hrest⟩

/-- The walk along a description takes the texts that go on from its line. -/
theorem SpanTail.slots_after (line : Int) (slots : List Slot) :
    (SpanTail.after line slots).slots = runAfter line (textsBeforeTag slots) := by
  fun_induction SpanTail.after line slots with
  | case1 line => rfl
  | case2 line slot rest hkind => rw [textsBeforeTag_cons_tag hkind, runAfter]
  | case3 line slot rest hkind hnext tail ih =>
    rw [textsBeforeTag_cons_string hkind, runAfter, if_pos hnext, ← ih]
  | case4 line slot rest hkind hnext =>
    rw [textsBeforeTag_cons_string hkind, runAfter, if_neg hnext]
  | case5 line slot rest htag hstring ih => rw [textsBeforeTag_cons_other htag hstring, ih]

end TextsBeforeTag

/-! ## Slots inside a comment -/

namespace Source

variable {source : Source} {high : Int}

/-- A stretch inside the source has the slots between its bounds. -/
theorem slots_stretch_eq_slotsInside {position : Int} (hfront : 0 ≤ position)
    (hhigh : high ≤ source.size) :
    (source.stretch (position + 1) high).slots = source.slotsInside position high := by
  have hmissing : (source.stretch (position + 1) high).missing? = none :=
    missing?_stretch (by omega) hhigh
  have : Std.Irrefl fun slot other : Slot => slot.position < other.position :=
    ⟨fun slot => Int.lt_irrefl slot.position⟩
  have : Std.Antisymm fun slot other : Slot => slot.position < other.position :=
    ⟨fun slot other hless hgreater => absurd hgreater (Int.lt_asymm hless)⟩
  apply (pairwise_stretch _ _).eq_of_mem_iff (source.pairwise_slotsInside position high)
  intro slot
  rw [mem_slotsInside_iff, mem_slots_iff]
  constructor
  · intro hslot
    obtain ⟨hat, hlow, hbefore⟩ := mem_stretch hslot
    exact ⟨⟨by omega, hat⟩, by omega, hbefore⟩
  · rintro ⟨⟨-, hat⟩, hlow, hbefore⟩
    exact mem_stretch_of_token? hmissing hat (by omega) hbefore

end Source

/-! ## Descriptions -/

/-- The description at the front of some texts, if there are any. -/
def Span.atFront? : List Slot → Option Span
  | [] => none
  | first :: rest => some ⟨first, runAfter first.line rest⟩

namespace Span

theorem atFront?_eq_none_iff {texts : List Slot} : atFront? texts = none ↔ texts = [] := by
  cases texts <;> simp [atFront?]

theorem longestRun_of_mem_atFront? {texts : List Slot} {span : Span}
    (hspan : span ∈ atFront? texts) : LongestRun span.slots texts := by
  cases texts with
  | nil => cases hspan
  | cons first rest =>
    obtain rfl := Option.some.inj hspan
    exact longestRun_cons_runAfter first rest

end Span

/-- Inside a comment, layout is what is neither a text nor a tag. -/
theorem Kind.isFiller_iff {kind : Kind}
    (hkind : kind ∈ [.docWhitespace, .docStar, .docString, .docTag]) :
    kind.isFiller = true ↔ kind ≠ .docString ∧ kind ≠ .docTag := by
  revert kind
  simp only [List.forall_mem_cons]
  decide

namespace Block

variable {source : Source} {low high : Int}

/-- The search for content goes over the slots inside. -/
theorem content?_eq_find? (source : Source) (low high : Int) :
    content? source (low + 1) high =
      (source.slotsInside low high).find? fun slot => !slot.kind.isFiller := by
  cases hfind : (source.slotsInside low high).find? fun slot => !slot.kind.isFiller with
  | none =>
    apply Source.next?_eq_none_iff.mpr
    intro slot hslot hstart hstop
    have hinside := Source.mem_slotsInside_iff.mpr ⟨hslot, Int.lt_of_add_one_le hstart, hstop⟩
    exact Bool.eq_false_of_not_eq_true (List.find?_eq_none.mp hfind slot hinside)
  | some slot =>
    obtain ⟨hwanted, before, after, hsplit, hbefore⟩ := List.find?_eq_some_iff_append.mp hfind
    obtain ⟨hslot, hlow, hhigh⟩ := Source.mem_slotsInside_iff.mp (List.mem_of_find?_eq_some hfind)
    refine Source.next?_eq_some_iff.mpr ⟨hslot, hlow, hhigh, hwanted, ?_⟩
    intro other hother hstart hstop
    have hinside : other ∈ source.slotsInside low high :=
      Source.mem_slotsInside_iff.mpr ⟨hother, by omega, by omega⟩
    rw [hsplit, Source.eq_slotsInside_of_append hsplit, List.mem_append, List.mem_cons] at hinside
    rcases hinside with hearlier | rfl | hlater
    · simpa using hbefore other hearlier
    · omega
    · have hafter := (Source.mem_slotsInside_iff.mp hlater).2.1
      omega

/-- **A description is read off the texts before the first tag.** Inside a comment that consists of
layout, texts and tags, what is read from a position on is the description at the front of the texts
that are left. -/
theorem description?_eq_atFront? (hhigh : high ≤ source.size)
    (hkinds : ∀ slot ∈ source.slotsInside low high,
      slot.kind ∈ [.docWhitespace, .docStar, .docString, .docTag]) :
    description? source (content? source (low + 1) high) high =
      .ok (Span.atFront? (textsBeforeTag (source.slotsInside low high))) := by
  rw [content?_eq_find?]
  cases hfind : (source.slotsInside low high).find? fun slot => !slot.kind.isFiller with
  | none =>
    have hfiller : ∀ slot ∈ source.slotsInside low high, slot.kind.isFiller = true := by
      intro slot hslot
      simpa using List.find?_eq_none.mp hfind slot hslot
    rw [← List.append_nil (source.slotsInside low high), textsBeforeTag_append_filler hfiller]
    rfl
  | some first =>
    have hinside := List.mem_of_find?_eq_some hfind
    obtain ⟨hwanted, before, after, hsplit, hbefore⟩ := List.find?_eq_some_iff_append.mp hfind
    have hafter := Source.eq_slotsInside_of_append hsplit
    have hfiller : ∀ slot ∈ before, slot.kind.isFiller = true := by
      intro slot hslot
      simpa using hbefore slot hslot
    have htexts : textsBeforeTag (source.slotsInside low high) =
        textsBeforeTag (first :: after) := by
      rw [hsplit, textsBeforeTag_append_filler hfiller]
    have hkind := hkinds first hinside
    rw [htexts, description?]
    by_cases hstring : first.kind = .docString
    · have hfront := (Source.bounds_of_mem_slots (Source.mem_slotsInside_iff.mp hinside).1).1
      obtain ⟨span, hread⟩ := Span.exists_read hfront hhigh
      have hspan := (Span.read_eq_ok_iff.mp hread).2
      rw [Span.tail, Source.slots_stretch_eq_slotsInside hfront hhigh, ← hafter,
        SpanTail.slots_after] at hspan
      rw [if_pos hstring, hread, hspan, textsBeforeTag_cons_string hstring]
      rfl
    · have htag : first.kind = .docTag := by
        by_contra hother
        rw [(Kind.isFiller_iff hkind).mpr ⟨hstring, hother⟩] at hwanted
        cases hwanted
      rw [if_neg hstring, textsBeforeTag_cons_tag htag]
      rfl

/-- The texts after the first one are those from its position on. -/
theorem textsBeforeTag_after_first {first : Slot} {rest : List Slot}
    (htexts : textsBeforeTag (source.slotsInside low high) = first :: rest) :
    textsBeforeTag (source.slotsInside first.position high) = rest := by
  obtain ⟨before, after, hsplit, hrest⟩ := exists_append_of_textsBeforeTag_eq_cons htexts
  rw [hrest, Source.eq_slotsInside_of_append hsplit]

/-- The texts after a part at the front are those from its last slot on. -/
theorem textsBeforeTag_after_last {first : Slot} {more rest : List Slot}
    (htexts : textsBeforeTag (source.slotsInside low high) = first :: (more ++ rest)) :
    textsBeforeTag (source.slotsInside (more.getLastD first).position high) = rest := by
  have hnext := textsBeforeTag_after_first htexts
  induction more generalizing low first with
  | nil => exact hnext
  | cons second more ih =>
    rw [List.getLastD_cons]
    exact ih hnext (textsBeforeTag_after_first hnext)

section Reads

variable {block : Block} {token : Token} (hreads : block.Reads source token)
variable (hsize : block.closer ≤ source.size)
variable (hkinds : ∀ slot ∈ source.slotsInside block.opener block.closer,
  slot.kind ∈ [.docWhitespace, .docStar, .docString, .docTag])

include hreads hsize hkinds

/-- The short description stands at the front of the texts before the first tag. -/
theorem Reads.short?_eq_atFront? :
    block.short? =
      Span.atFront? (textsBeforeTag (source.slotsInside block.opener block.closer)) := by
  have hshort := hreads.short
  rw [hreads.first, description?_eq_atFront? hsize hkinds] at hshort
  exact (Except.ok.inj hshort).symm

/-- The long description stands at the front of the texts that the short one leaves. -/
theorem Reads.long?_eq_atFront? {short : Span} (hshort : block.short? = some short) :
    block.long? = Span.atFront?
      ((textsBeforeTag (source.slotsInside block.opener block.closer)).drop
        short.slots.length) := by
  have hfront : short.slots <+: textsBeforeTag (source.slotsInside block.opener block.closer) := by
    have hspan := hreads.short?_eq_atFront? hsize hkinds
    exact (Span.longestRun_of_mem_atFront? (hspan ▸ hshort)).front
  -- The second search begins at the last slot of the first run, which is inside the comment.
  have hlast : block.opener < short.last.position := by
    have hmem : short.last ∈ short.slots := by
      rw [Span.last, Span.slots, List.getLastD_eq_getLast?]
      cases hmore : short.more.getLast? with
      | none => exact List.mem_cons_self
      | some last => exact List.mem_cons_of_mem _ (List.mem_of_getLast? hmore)
    have hinside := (textsBeforeTag_sublist _).mem (hfront.mem hmem)
    exact (Source.mem_slotsInside_iff.mp hinside).2.1
  have hkinds' : ∀ slot ∈ source.slotsInside short.last.position block.closer,
      slot.kind ∈ [.docWhitespace, .docStar, .docString, .docTag] := by
    intro slot hslot
    obtain ⟨hmem, hlow, hhigh⟩ := Source.mem_slotsInside_iff.mp hslot
    exact hkinds slot (Source.mem_slotsInside_iff.mpr ⟨hmem, hlast.trans hlow, hhigh⟩)
  have hrest := textsBeforeTag_after_last (List.prefix_iff_eq_append.mp hfront).symm
  have hlong := hreads.long
  rw [hshort, longDescription?] at hlong
  rw [← hrest]
  exact (Except.ok.inj ((description?_eq_atFront? hsize hkinds').symm.trans hlong)).symm

end Reads

/-- **Descriptions are the first two longest runs.** Let a comment end inside the source, let it
have only layout, texts and tags inside, and let the positions of its tags lie inside. It can be
read. Take its texts before the first tag. There is a short description exactly if there are such
texts, and it is the longest run of lines at their front. There is a long description exactly if
texts are left after it, and it is the longest run at the front of these. The comment has no content
exactly if there is neither a text nor a tag inside. -/
theorem descriptions_are_longest_runs {source : Source} {opener closer : Int} {token : Token}
    (hat : source.token? opener = some token) (hkind : token.kind = .docOpen)
    (hcloser : token.closer? = some closer) (hsize : closer ≤ source.size)
    (hkinds : ∀ slot ∈ source.slotsInside opener closer,
      slot.kind ∈ [.docWhitespace, .docStar, .docString, .docTag])
    (hinside : ∀ position ∈ token.tagPositions, opener < position ∧ position < closer) :
    ∃ block, Block.read source opener = .ok block ∧
      (block.short? = none ↔ textsBeforeTag (source.slotsInside opener closer) = []) ∧
      (∀ short ∈ block.short?,
        LongestRun short.slots (textsBeforeTag (source.slotsInside opener closer)) ∧
        (block.long? = none ↔
          short.slots = textsBeforeTag (source.slotsInside opener closer)) ∧
        ∀ long ∈ block.long?, LongestRun long.slots
          ((textsBeforeTag (source.slotsInside opener closer)).drop short.slots.length)) ∧
      (block.firstContent? = none ↔ ∀ slot ∈ source.slotsInside opener closer,
        slot.kind ≠ .docString ∧ slot.kind ≠ .docTag) := by
  obtain ⟨block, hread, rfl, rfl, hreads⟩ := exists_reads hat hkind hcloser hsize hinside
  have hshort := hreads.short?_eq_atFront? hsize hkinds
  refine ⟨block, hread, ?_, ?_, ?_⟩
  · rw [hshort]
    exact Span.atFront?_eq_none_iff
  · intro short hmem
    have hlong := hreads.long?_eq_atFront? hsize hkinds hmem
    have hrun := Span.longestRun_of_mem_atFront? (hshort ▸ hmem)
    refine ⟨hrun, ?_, ?_⟩
    · rw [hlong, Span.atFront?_eq_none_iff]
      have hsplit := List.prefix_iff_eq_append.mp hrun.front
      constructor
      · intro hnone
        rwa [hnone, List.append_nil] at hsplit
      · intro hall
        rw [← hall, List.drop_length]
    · intro long hmem'
      exact Span.longestRun_of_mem_atFront? (hlong ▸ hmem')
  · rw [hreads.first, content?_eq_find?, List.find?_eq_none]
    apply forall₂_congr
    intro slot hslot
    rw [Bool.not_eq_true, Bool.not_eq_false']
    exact Kind.isFiller_iff (hkinds slot hslot)

end Block

/-- A comment with five texts before its tag. The third one is on the line of the second, and the
last one comes after a gap. -/
def brokenLines : Source :=
  ⟨#[⟨.docOpen, "/**", 1, none, some 10, [8]⟩, ⟨.docWhitespace, " ", 2, none, none, []⟩,
    ⟨.docString, "One", 2, none, none, []⟩, ⟨.docStar, "*", 3, none, none, []⟩,
    ⟨.docString, "two", 3, none, none, []⟩, ⟨.docString, "three", 3, none, none, []⟩,
    ⟨.docString, "four", 4, none, none, []⟩, ⟨.docString, "five", 6, none, none, []⟩,
    ⟨.docTag, "@see", 7, none, none, []⟩, ⟨.docString, "six", 8, none, none, []⟩,
    ⟨.docClose, "*/", 9, some 0, none, []⟩]⟩

/-- The short description ends where a line comes twice, and the long one at the gap. -/
theorem brokenLines_described :
    (textsBeforeTag (brokenLines.slotsInside 0 10)).map Slot.position = [2, 4, 5, 6, 7] ∧
      ∃ block short long, Block.read brokenLines 0 = .ok block ∧ block.short? = some short ∧
        block.long? = some long ∧ short.lines = ["One", "two"] ∧ long.lines = ["three", "four"] ∧
        LongestRun short.slots (textsBeforeTag (brokenLines.slotsInside 0 10)) ∧
        LongestRun long.slots ((textsBeforeTag (brokenLines.slotsInside 0 10)).drop 2) := by
  have hopener : brokenLines.token? 0 = some _ := rfl
  obtain ⟨block, hread, -, hdescribed, -⟩ :=
    Block.descriptions_are_longest_runs hopener rfl rfl (by decide) (by decide) (by decide)
  have hfound : Block.read brokenLines 0 = .ok _ := rfl
  obtain rfl := Except.ok.inj (hfound.symm.trans hread)
  obtain ⟨hshort, -, hlong⟩ := hdescribed _ rfl
  exact ⟨rfl, _, _, _, hread, rfl, rfl, rfl, rfl, hshort, hlong _ rfl⟩

end DocLint

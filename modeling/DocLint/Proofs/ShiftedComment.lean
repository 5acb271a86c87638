import DocLint.Proofs.FaultFree
import DocLint.Proofs.OwnPlaces
import DocLint.Proofs.Shift

/-!
# Comments in a source that was moved

A doc comment that can be read can be read after the move as well, and it is the same comment, moved
part by part. Its texts stay, so nothing that is decided by texts changes. For this all parts of the
comment have to be counted from the front, which they are where references are.
-/

namespace DocLint

namespace Shift

variable (shift : Shift)

/-- The description with its lines moved. -/
def span (span : Span) : Span :=
  ⟨shift.slot span.first, span.more.map shift.slot⟩

/-- The text on the line of a tag, moved. -/
def inline (inline : Inline) : Inline :=
  ⟨inline.position + shift.positions, inline.text⟩

/-- The tag with its texts moved. -/
def tag (tag : Tag) : Tag where
  name := tag.name
  position := tag.position + shift.positions
  line := tag.line + shift.lines
  stop := tag.stop + shift.positions
  inline? := tag.inline?.map shift.inline
  continuation := tag.continuation

/-- The comment with all its parts moved. -/
def block (block : Block) : Block where
  opener := block.opener + shift.positions
  closer := block.closer + shift.positions
  firstContent? := block.firstContent?.map shift.slot
  short? := block.short?.map shift.span
  long? := block.long?.map shift.span
  tags := block.tags.map shift.tag
  text := block.text

@[simp]
theorem inline?_tag (tag : Tag) : (shift.tag tag).inline? = tag.inline?.map shift.inline := rfl

section Blocks

variable (block : Block)

@[simp]
theorem firstContent?_block :
    (shift.block block).firstContent? = block.firstContent?.map shift.slot := rfl

@[simp]
theorem short?_block : (shift.block block).short? = block.short?.map shift.span := rfl

@[simp]
theorem long?_block : (shift.block block).long? = block.long?.map shift.span := rfl

@[simp]
theorem tags_block : (shift.block block).tags = block.tags.map shift.tag := rfl

end Blocks

/-! ## Descriptions -/

theorem last_span (span : Span) : (shift.span span).last = shift.slot span.last := by
  rw [Span.last, Span.last]
  show (span.more.map shift.slot).getLastD (shift.slot span.first) = _
  rw [List.getLastD_eq_getLast?, List.getLastD_eq_getLast?, List.getLast?_map]
  cases span.more.getLast? <;> rfl

theorem lines_span (span : Span) : (shift.span span).lines = span.lines := by
  rw [Span.lines, Span.lines, Span.slots, Span.slots, List.map_cons, List.map_cons]
  show _ :: (span.more.map shift.slot).map Slot.content = _
  rw [List.map_map]
  rfl

theorem isSingleLine_span (span : Span) : (shift.span span).isSingleLine = span.isSingleLine :=
  List.isEmpty_map

/-- A description goes on as it did. -/
theorem after_slots (line : Int) (slots : List Slot) :
    SpanTail.after (line + shift.lines) (slots.map shift.slot) =
      ⟨(SpanTail.after line slots).slots.map shift.slot, (SpanTail.after line slots).ended⟩ := by
  induction slots generalizing line with
  | nil => rfl
  | cons slot rest ih =>
    rw [List.map_cons, SpanTail.after, SpanTail.after, Shift.kind_slot]
    split
    · rfl
    · have hline : (shift.slot slot).line = line + shift.lines + 1 ↔ slot.line = line + 1 := by
        rw [Shift.line_slot]
        omega
      by_cases hnext : slot.line = line + 1
      · rw [if_pos (hline.mpr hnext), if_pos hnext, Shift.line_slot, ih]
        rfl
      · rw [if_neg (mt hline.mp hnext), if_neg hnext]
        rfl
    · exact ih line

/-! ## Tags -/

/-- A tag has the texts that it had. -/
theorem ofTexts_slots (token : Token) (position stop : Int) (slots : List Slot) :
    Tag.ofTexts (shift.token token) (position + shift.positions) (stop + shift.positions)
      (slots.map shift.slot) = shift.tag (Tag.ofTexts token position stop slots) := by
  cases slots with
  | nil => rfl
  | cons first rest =>
    have hline : (shift.slot first).line = (shift.token token).line ↔ first.line = token.line := by
      show first.line + shift.lines = token.line + shift.lines ↔ _
      exact Int.add_left_inj _
    have hcontents : (rest.map shift.slot).map Slot.content = rest.map Slot.content := by
      rw [List.map_map]
      rfl
    rw [List.map_cons, Tag.ofTexts, Tag.ofTexts]
    by_cases hsame : first.line = token.line
    · rw [if_pos (hline.mpr hsame), if_pos hsame, hcontents]
      rfl
    · rw [if_neg (mt hline.mp hsame), if_neg hsame, List.map_cons, hcontents]
      rfl

theorem tagsNamed_block (block : Block) (name : String) :
    (shift.block block).tagsNamed name = (block.tagsNamed name).map shift.tag := by
  show (block.tags.map shift.tag).filter _ = _
  rw [List.filter_map]
  rfl

end Shift

/-! ## Reading -/

namespace Source.Moves

variable {shift : Shift} {blanks : List Token} {source source' : Source}
variable (hmoves : source.Moves shift blanks source')

include hmoves

/-- The further lines of a description are the same. -/
theorem tail_eq {first : Slot} (hfront : 0 ≤ first.position) (closer : Int) :
    Span.tail source' (shift.slot first) (closer + shift.positions) =
      ⟨(Span.tail source first closer).slots.map shift.slot,
        (Span.tail source first closer).ended⟩ := by
  have hnext : (shift.slot first).position + 1 = first.position + 1 + shift.positions := by
    rw [Shift.position_slot]
    omega
  rw [Span.tail, Span.tail, hnext, hmoves.stretch_eq (by omega)]
  exact shift.after_slots first.line _

/-- A description that can be read is the same, moved. -/
theorem spanRead_eq {first : Slot} (hfront : 0 ≤ first.position) {closer : Int} {span : Span}
    (hread : Span.read source first closer = .ok span) :
    Span.read source' (shift.slot first) (closer + shift.positions) = .ok (shift.span span) := by
  obtain ⟨hwhole, rfl⟩ := Span.read_eq_ok_iff.mp hread
  have hnext : (shift.slot first).position + 1 = first.position + 1 + shift.positions := by
    rw [Shift.position_slot]
    omega
  apply Span.read_eq_ok_iff.mpr
  rw [hmoves.tail_eq hfront, hnext, hmoves.stretch_eq (by omega)]
  refine ⟨?_, rfl⟩
  apply hwhole.imp_right
  intro hmissing
  rw [Shift.stretch, hmissing]
  rfl

/-- So is a tag. -/
theorem tagRead_eq {position stop : Int} (hfront : 0 ≤ position) {tag : Tag}
    (hread : Tag.read source position stop = .ok tag) :
    Tag.read source' (position + shift.positions) (stop + shift.positions) =
      .ok (shift.tag tag) := by
  obtain ⟨token, hat, hwhole, rfl⟩ := Tag.read_eq_ok_iff.mp hread
  have hstretch : source'.stretch (position + shift.positions + 1) (stop + shift.positions) =
      shift.stretch (source.stretch (position + 1) stop) := by
    rw [show position + shift.positions + 1 = position + 1 + shift.positions by omega]
    exact hmoves.stretch_eq (by omega)
  have htexts : Tag.texts source' (position + shift.positions) (stop + shift.positions) =
      (Tag.texts source position stop).map shift.slot := by
    rw [Tag.texts, Tag.texts, hstretch, Shift.stretch, List.filter_map]
    rfl
  apply Tag.read_eq_ok_iff.mpr
  refine ⟨shift.token token, ?_, ?_, ?_⟩
  · rw [hmoves.token?_eq hfront, hat]
    rfl
  · rw [hstretch, Shift.stretch, hwhole]
    rfl
  · rw [htexts]
    exact (shift.ofTexts_slots token position stop _).symm

/-- So are all tags of a comment. -/
theorem tagReadAll_eq {positions : List Int} (hfront : ∀ position ∈ positions, 0 ≤ position)
    {closer : Int} {tags : List Tag} (hread : Tag.readAll source positions closer = .ok tags) :
    Tag.readAll source' (positions.map (· + (shift.positions : Int))) (closer + shift.positions) =
      .ok (tags.map shift.tag) := by
  have hbounds : ∀ bounds ∈ positions.zip (positions.tail ++ [closer]), 0 ≤ bounds.1 :=
    fun bounds hmem => hfront bounds.1 (List.of_mem_zip hmem).1
  have htags := (List.forall₂_and_left _ _).mpr ⟨hbounds, Tag.readAll_eq_ok_iff.mp hread⟩
  apply Tag.readAll_eq_ok_iff.mpr
  rw [← List.map_tail, show [closer + (shift.positions : Int)] =
    [closer].map (· + (shift.positions : Int)) from rfl, ← List.map_append, List.zip_map,
    List.forall₂_map_left_iff, List.forall₂_map_right_iff]
  exact htags.imp fun _ _ ⟨hposition, htag⟩ => hmoves.tagRead_eq hposition htag

theorem content?_eq {start : Int} (hstart : 0 ≤ start) (closer : Int) :
    Block.content? source' (start + shift.positions) (closer + shift.positions) =
      (Block.content? source start closer).map shift.slot :=
  hmoves.next?_eq hstart (some closer)

theorem description?_eq {start : Int} {closer : Int} (hstart : 0 ≤ start) {span? : Option Span}
    (hread : Block.description? source (Block.content? source start closer) closer = .ok span?) :
    Block.description? source' (Block.content? source' (start + shift.positions)
      (closer + shift.positions)) (closer + shift.positions) = .ok (span?.map shift.span) := by
  rw [hmoves.content?_eq hstart]
  cases hfirst : Block.content? source start closer with
  | none =>
    rw [hfirst] at hread
    obtain rfl := Except.ok.inj hread
    rfl
  | some first =>
    have hfront := (Block.bounds_of_content? hfirst).1
    rw [hfirst, Block.description?] at hread
    rw [Option.map_some, Block.description?, Shift.kind_slot]
    by_cases hstring : first.kind = .docString
    · rw [if_pos hstring] at hread ⊢
      obtain ⟨span, hspan, hsome⟩ := except_bind_eq_ok_iff.mp hread
      obtain rfl := Except.ok.inj hsome
      exact congrArg (some <$> ·) (hmoves.spanRead_eq (by omega) hspan)
    · rw [if_neg hstring] at hread ⊢
      obtain rfl := Except.ok.inj hread
      rfl

end Source.Moves

/-- Whatever is reported of the comment stands at a position that is counted from the front. -/
structure Block.CountsFromFront (block : Block) : Prop where
  /-- Its ends do. -/
  opener : 0 ≤ block.opener
  closer : 0 ≤ block.closer
  /-- Its descriptions begin at such a position. -/
  short : ∀ short, block.short? = some short → 0 ≤ short.first.position
  long : ∀ long, block.long? = some long → 0 ≤ long.first.position
  /-- Its tags stand at such a position, and the texts on their lines do. -/
  tag : ∀ tag ∈ block.tags, 0 ≤ tag.position
  inline : ∀ tag ∈ block.tags, ∀ inline, tag.inline? = some inline → 0 ≤ inline.position

/-- A comment that begins behind the front is counted from there if references are. -/
theorem Source.RefersInside.countsFromFront {source : Source} (hinside : source.RefersInside)
    {block : Block} {token : Token} (hfront : 0 ≤ block.opener)
    (hreads : block.Reads source token) : block.CountsFromFront := by
  have hopening : ⟨block.opener, token⟩ ∈ source.slots :=
    mem_slots_iff.mpr ⟨hfront, hreads.token?⟩
  have htag : ∀ tag ∈ block.tags, 0 ≤ tag.position := by
    intro tag htag
    obtain ⟨position, stop, hbounds, hread⟩ := hreads.exists_bounds htag
    obtain ⟨found, -, -, rfl⟩ := Tag.read_eq_ok_iff.mp hread
    rw [Tag.position_ofTexts]
    exact (hinside.tags _ hopening position (List.of_mem_zip hbounds).1).1
  refine ⟨hfront, (hinside.closer _ hopening block.closer hreads.closer?).1, ?_, ?_, htag, ?_⟩
  · intro short hshort
    exact Int.le_of_lt (Int.lt_of_le_of_lt hfront (hreads.encloses_short hshort).1)
  · intro long hlong
    exact Int.le_of_lt (Int.lt_of_le_of_lt hfront (hreads.encloses_long hlong).1)
  · intro tag hmem inline hinline
    obtain ⟨position, stop, -, hread⟩ := hreads.exists_bounds hmem
    exact Int.le_of_lt (Int.lt_of_le_of_lt (htag tag hmem) (Tag.lt_position_inline hread hinline))

/-- **A comment is read as it was.** -/
theorem Source.Moves.blockRead_eq {shift : Shift} {blanks : List Token} {source source' : Source}
    (hmoves : source.Moves shift blanks source') (hinside : source.RefersInside) {opener : Int}
    (hfront : 0 ≤ opener) {block : Block} (hread : Block.read source opener = .ok block) :
    Block.read source' (opener + shift.positions) = .ok (shift.block block) ∧
      block.CountsFromFront := by
  obtain ⟨rfl, token, hreads⟩ := Block.read_eq_ok_iff.mp hread
  have hcounts := hinside.countsFromFront hfront hreads
  have hopening : ⟨block.opener, token⟩ ∈ source.slots :=
    mem_slots_iff.mpr ⟨hfront, hreads.token?⟩
  have hnext : block.opener + shift.positions + 1 = block.opener + 1 + shift.positions := by omega
  refine ⟨Block.read_eq_ok_iff.mpr ⟨rfl, shift.token token, ?_⟩, hcounts⟩
  constructor
  case token? =>
    show source'.token? (block.opener + shift.positions) = _
    rw [hmoves.token?_eq hfront, hreads.token?]
    rfl
  case kind => exact hreads.kind
  case closer? => exact congrArg (Option.map _) hreads.closer?
  case first =>
    show block.firstContent?.map shift.slot =
      Block.content? source' (block.opener + shift.positions + 1) (block.closer + shift.positions)
    rw [hnext, hmoves.content?_eq (by omega), hreads.first]
  case short =>
    have hshort := hreads.short
    rw [hreads.first] at hshort
    show Block.description? source' (block.firstContent?.map shift.slot) _ = _
    rw [hreads.first, ← hmoves.content?_eq (by omega)]
    exact hmoves.description?_eq (by omega) hshort
  case long =>
    have hlong := hreads.long
    show Block.longDescription? source' (block.short?.map shift.span)
      (block.closer + shift.positions) = .ok (block.long?.map shift.span)
    cases hshort : block.short? with
    | none =>
      rw [hshort] at hlong
      obtain hnone := Except.ok.inj hlong
      rw [← hnone]
      rfl
    | some short =>
      -- the search for the long description starts behind the front, as the short one goes forward
      have hread := hreads.short
      rw [hshort] at hread hlong
      have hforward := Span.le_position_last (Block.read_of_description? hread)
      have hbegin := hcounts.short short hshort
      have hlast : (shift.span short).last.position + 1 =
          short.last.position + 1 + shift.positions := by
        rw [Shift.last_span, Shift.position_slot]
        omega
      rw [Option.map_some, Block.longDescription?, hlast]
      exact hmoves.description?_eq (by omega) hlong
  case tags =>
    exact hmoves.tagReadAll_eq (fun position hmem => (hinside.tags _ hopening position hmem).1)
      hreads.tags
  case text =>
    have hcloser := hcounts.closer
    show block.text = source'.text (block.opener + shift.positions + 1)
      (block.closer + shift.positions)
    rw [hreads.text, hnext, hmoves.text_eq (by omega) hcloser]

end DocLint

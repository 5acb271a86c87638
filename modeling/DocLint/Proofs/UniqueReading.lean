import DocLint.Proofs.ParamReading

/-!
# A parameter text has at most one reading

The rule for a text that names a variable can be stated without saying how the text is parsed. It
is a front without marks, a variable, blanks, a comment on one line and perhaps a line feed, and
each of the last three needs the one before it. This module shows that such pieces are found
wherever they exist: each piece ends at the first character of a class, so the text alone decides
where to cut.

A text that cannot be cut in this way is all type.
-/

namespace DocLint.ParamText

open Text

/-! ## Pieces -/

/-- A text in five pieces. -/
structure Pieces where
  /-- What stands before the variable. -/
  front : List Char
  /-- The variable with its mark. -/
  named : List Char
  /-- The blanks after the variable. -/
  blanks : List Char
  /-- The comment. -/
  comment : List Char
  /-- The line feed that may follow the comment. -/
  feed : List Char
  deriving DecidableEq

/-- The pieces make up the text, and each of them is what it should be. -/
structure Pieces.Split (pieces : Pieces) (text : List Char) : Prop where
  text : text = pieces.front ++ (pieces.named ++ (pieces.blanks ++ (pieces.comment ++ pieces.feed)))
  front : ∀ c ∈ pieces.front, isMark c = false
  /-- The variable begins with a mark. -/
  mark : ∃ c ∈ pieces.named.head?, isMark c = true
  /-- There is a name after the mark. -/
  name : 2 ≤ pieces.named.length
  named : ∀ c ∈ pieces.named, isBlank c = false
  blanks : ∀ c ∈ pieces.blanks, isBlank c = true
  /-- The comment is on one line. -/
  line : '\n' ∉ pieces.comment
  comment : ∀ c ∈ pieces.comment.head?, isBlank c = false
  feed : pieces.feed = [] ∨ pieces.feed = ['\n']
  /-- Whatever follows the variable is set apart from it. -/
  apart : pieces.comment ≠ [] ∨ pieces.feed ≠ [] → pieces.blanks ≠ []
  /-- Only a comment is followed by a line feed. -/
  closed : pieces.comment = [] → pieces.feed = []

/-- The fields that the pieces stand for. -/
def Pieces.fields (pieces : Pieces) : ParamText where
  type := String.ofList (strip pieces.front)
  typeSpace := pieces.front.length - (strip pieces.front).length
  variableName := String.ofList pieces.named
  variableSpace := pieces.blanks.length
  comment := String.ofList pieces.comment

/-- A text cut where a mark comes, where the ink ends, where the blanks end and where the line
ends. -/
def Pieces.cut (text : List Char) : Pieces :=
  let marked := text.dropWhile fun c => !isMark c
  let spaced := marked.dropWhile isInk
  let last := spaced.dropWhile isBlank
  { front := text.takeWhile fun c => !isMark c
    named := marked.takeWhile isInk
    blanks := spaced.takeWhile isBlank
    comment := last.takeWhile (· != '\n')
    feed := last.dropWhile (· != '\n') }

/-! ## Pieces and readings -/

namespace Reading

variable (reading : Reading)

/-- The pieces of a reading: all that stands before the mark is one of them. -/
def pieces : Pieces where
  front := reading.front
  named := reading.mark :: reading.name
  blanks := reading.blanks
  comment := reading.comment
  feed := reading.feed

/-- The mark and the name have no blanks. -/
theorem named_ink : ∀ c ∈ reading.mark :: reading.name, isInk c = true := by
  intro c hc
  rcases List.mem_cons.mp hc with rfl | hname
  · rw [isInk, Bool.not_eq_true']
    by_contra hblank
    have hmark := isMark_eq_false_of_isBlank (eq_true_of_ne_false hblank)
    rw [reading.mark_isMark] at hmark
    cases hmark
  · exact reading.name_ink c hname

/-- The pieces of a reading are a split of its text. -/
theorem split_pieces : reading.pieces.Split reading.text where
  text := rfl
  front c hc := by simpa using reading.front_unmarked c hc
  mark := ⟨reading.mark, rfl, reading.mark_isMark⟩
  name := Nat.succ_le_succ (List.length_pos_iff.mpr reading.name_ne_nil)
  named c hc := by simpa [isInk] using reading.named_ink c hc
  blanks := reading.blanks_blank
  line := reading.comment_line
  comment := reading.comment_head
  feed := reading.feed_nil.imp_right And.left
  apart hfollowed := by
    apply reading.comment_apart
    rcases hfollowed with hcomment | hfeed
    · exact hcomment
    · exact (reading.feed_nil.resolve_left hfeed).2
  closed hcomment := reading.feed_nil.resolve_right fun hends => hends.2 hcomment

/-- They stand for the fields of the reading. -/
theorem fields_pieces : reading.pieces.fields = reading.fields := by
  have hfront := reading.ofUnmarked_front
  have htype : String.ofList (strip reading.front) = String.ofList reading.type :=
    congrArg ParamText.type hfront
  have hspace : reading.front.length - (strip reading.front).length =
      reading.lead.length + reading.trail.length := congrArg typeSpace hfront
  simp only [Pieces.fields, fields, pieces, htype, hspace]

/-- **The text decides where it is cut.** -/
theorem pieces_eq_cut : reading.pieces = .cut reading.text := by
  have hmark : ∀ c ∈ (reading.mark :: reading.name ++ reading.back).head?,
      (!isMark c) = false := by
    intro c hc
    obtain rfl := Option.some.inj hc
    rw [reading.mark_isMark]
    rfl
  have hline := ne_feed_of_line reading.comment_line
  have hfeed : ∀ c ∈ reading.feed.head?, (c != '\n') = false := by
    intro c hc
    rcases reading.feed_nil with hfeed | ⟨hfeed, -⟩
    · rw [hfeed] at hc
      cases hc
    · rw [hfeed] at hc
      obtain rfl := Option.some.inj hc
      rfl
  have htext : reading.text = reading.front ++ (reading.mark :: reading.name ++ reading.back) := rfl
  rw [Pieces.cut, htext, dropWhile_append_eq_right reading.front_unmarked hmark,
    takeWhile_append_eq_left reading.front_unmarked hmark,
    dropWhile_append_eq_right reading.named_ink reading.back_head,
    takeWhile_append_eq_left reading.named_ink reading.back_head, back,
    dropWhile_append_eq_right reading.blanks_blank reading.comment_feed_head,
    takeWhile_append_eq_left reading.blanks_blank reading.comment_feed_head,
    dropWhile_append_eq_right hline hfeed, takeWhile_append_eq_left hline hfeed, pieces]

end Reading

/-- Every split comes from a reading, which only takes the blanks around the type apart. -/
theorem Pieces.Split.exists_reading {pieces : Pieces} {text : List Char}
    (hsplit : pieces.Split text) :
    ∃ reading : Reading, reading.pieces = pieces ∧ reading.text = text := by
  obtain ⟨lead, trail, hfront, hlead, htrail, htype⟩ := exists_front pieces.front
  obtain ⟨mark, hmark, hisMark⟩ := hsplit.mark
  obtain ⟨name, hnamed⟩ := List.head?_eq_some_iff.mp hmark
  have hname : name ≠ [] := by
    rintro rfl
    have hlength := hsplit.name
    rw [hnamed, List.length_singleton] at hlength
    omega
  let reading : Reading :=
    { lead
      type := strip pieces.front
      trail
      mark
      name
      blanks := pieces.blanks
      comment := pieces.comment
      feed := pieces.feed
      lead_blank := hlead
      type_unmarked := fun c hc => hsplit.front c (by rw [hfront]; simp [hc])
      type_head := head?_strip _
      type_last := getLast?_strip _
      trail_blank := htrail
      trail_nil := htype
      mark_isMark := hisMark
      name_ne_nil := hname
      name_ink := fun c hc => by
        simp [isInk, hsplit.named c (by rw [hnamed]; exact List.mem_cons_of_mem mark hc)]
      blanks_blank := hsplit.blanks
      comment_head := hsplit.comment
      comment_line := hsplit.line
      comment_apart := fun hcomment => hsplit.apart (Or.inl hcomment)
      feed_nil := hsplit.feed.imp_right fun hfeed => ⟨hfeed, fun hcomment => by
        rw [hsplit.closed hcomment] at hfeed
        cases hfeed⟩ }
  have hpieces : reading.pieces = pieces := by
    rw [Reading.pieces, Reading.front, ← hfront, ← hnamed]
  refine ⟨reading, hpieces, ?_⟩
  rw [reading.split_pieces.text, hpieces, hsplit.text]

/-- So the text decides where it is split. -/
theorem Pieces.Split.eq_cut {pieces : Pieces} {text : List Char} (hsplit : pieces.Split text) :
    pieces = .cut text := by
  obtain ⟨reading, rfl, rfl⟩ := hsplit.exists_reading
  exact reading.pieces_eq_cut

/-- And it parses to the fields that the pieces stand for. -/
theorem Pieces.Split.ofChars_eq {pieces : Pieces} {text : List Char} (hsplit : pieces.Split text) :
    ofChars text = pieces.fields := by
  obtain ⟨reading, rfl, rfl⟩ := hsplit.exists_reading
  rw [reading.ofChars_text, reading.fields_pieces]

/-- Fields that are found after a mark name a variable. -/
theorem variableName_ne_of_ofMarked? {type tail : List Char} {mark : Char} {fields : ParamText}
    (hfields : ofMarked? type mark tail = some fields) : fields.variableName ≠ "" := by
  rw [ofMarked?] at hfields
  dsimp only at hfields
  split at hfields
  · cases hfields
  · obtain ⟨comment, -, rfl⟩ := Option.map_eq_some_iff.mp hfields
    intro hname
    have hnil := congrArg String.toList hname
    rw [String.toList_ofList] at hnil
    cases hnil

/-- A text without a variable is all type. -/
theorem fields_of_unnamed {text : List Char} (hunnamed : (ofChars text).variableName = "") :
    (ofChars text).type = String.ofList (strip text) ∧ (ofChars text).comment = "" := by
  rw [ofChars] at hunnamed ⊢
  split at hunnamed
  · exact ⟨rfl, rfl⟩
  · rename_i mark tail _
    cases hfields : ofMarked? (text.takeWhile fun c => !isMark c) mark tail with
    | none => exact ⟨rfl, rfl⟩
    | some fields =>
      rw [hfields] at hunnamed
      exact absurd hunnamed (variableName_ne_of_ofMarked? hfields)

/-- **A parameter text has at most one reading, and it is the one that is parsed.** A text names a
variable exactly if it splits into a front without marks, a variable, blanks, a comment and a line
feed. There is at most one such split, and the fields are those that its pieces stand for. Any other
text is all type. -/
theorem parse_finds_only_split (text : String) :
    ((parse text).variableName ≠ "" ↔ ∃ pieces : Pieces, pieces.Split text.toList) ∧
      (∀ pieces other : Pieces, pieces.Split text.toList → other.Split text.toList →
        pieces = other) ∧
      (∀ pieces : Pieces, pieces.Split text.toList → parse text = pieces.fields) ∧
      ((parse text).variableName = "" →
        (parse text).type = String.ofList (strip text.toList) ∧ (parse text).comment = "") := by
  refine ⟨⟨?_, ?_⟩, ?_, fun pieces => Pieces.Split.ofChars_eq, fields_of_unnamed⟩
  · intro hnamed
    obtain ⟨reading, htext⟩ := exists_reading hnamed
    exact ⟨reading.pieces, htext ▸ reading.split_pieces⟩
  · rintro ⟨pieces, hsplit⟩ hunnamed
    rw [parse, hsplit.ofChars_eq] at hunnamed
    have hnil := congrArg String.toList hunnamed
    have hname := hsplit.name
    rw [Pieces.fields, String.toList_ofList] at hnil
    rw [hnil] at hname
    cases hname
  · intro pieces other hpieces hother
    exact hpieces.eq_cut.trans hother.eq_cut.symm

/-- A text in pieces, with blanks of more than one kind and a line feed at its end. -/
def widelySpaced : Pieces :=
  ⟨" int | null ".toList, "&$list".toList, "  \t".toList, "all of  them ".toList, ['\n']⟩

/-- The blanks inside the type and the comment are kept, and those after the comment belong to it. A
second line makes a text all type. -/
theorem widelySpaced_parsed :
    widelySpaced.Split " int | null &$list  \tall of  them \n".toList ∧
      (∀ other : Pieces, other.Split " int | null &$list  \tall of  them \n".toList →
        other = widelySpaced) ∧
      parse " int | null &$list  \tall of  them \n" =
        ⟨"int | null", 2, "&$list", 3, "all of  them "⟩ ∧
      ¬ ∃ pieces : Pieces, pieces.Split "int $list all\nof them".toList := by
  obtain ⟨hnamed, honly, hfields, -⟩ :=
    parse_finds_only_split " int | null &$list  \tall of  them \n"
  obtain ⟨pieces, hsplit⟩ := hnamed.mp (by decide)
  obtain rfl : pieces = widelySpaced := hsplit.eq_cut.trans (by decide)
  refine ⟨hsplit, fun other hother => honly other _ hother hsplit,
    (hfields _ hsplit).trans (by decide), ?_⟩
  intro hlines
  exact (parse_finds_only_split "int $list all\nof them").1.mpr hlines (by decide)

end DocLint.ParamText

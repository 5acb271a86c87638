import DocLint.ParamText
import Mathlib.Data.List.DropRight
import Mathlib.Data.List.TakeWhile

/-!
# The one way to read a parameter text

A text that names a variable splits into eight pieces: the type with blanks on either side, the
mark, the name, the blanks after it, the comment, and perhaps a line feed. A `Reading` is such a
split with the proofs that its pieces are what they should be.

Two facts tie readings to `ParamText.parse`. The text of a reading parses to the fields of that
reading, and every text that names a variable is the text of a reading. So what happens to the
fields when a text is written again is decided on readings, where the pieces lie apart: the
canonical text is the text of the reading whose blanks are single spaces, and it parses to the same
type, variable and comment.
-/

namespace DocLint

/-! ## Cutting a text at the first character of a class -/

section Cutting

variable {inClass : Char → Bool} {front back : List Char}

/-- A front of characters in the class is all that is taken if the rest begins otherwise. -/
theorem takeWhile_append_eq_left (hfront : ∀ c ∈ front, inClass c = true)
    (hback : ∀ c ∈ back.head?, inClass c = false) : (front ++ back).takeWhile inClass = front := by
  rw [List.takeWhile_append_of_pos hfront]
  cases back with
  | nil => simp
  | cons c rest => simp [hback c rfl]

/-- What is left is then the rest. -/
theorem dropWhile_append_eq_right (hfront : ∀ c ∈ front, inClass c = true)
    (hback : ∀ c ∈ back.head?, inClass c = false) : (front ++ back).dropWhile inClass = back := by
  rw [List.dropWhile_append_of_pos hfront]
  cases back with
  | nil => rfl
  | cons c rest => simp [hback c rfl]

/-- What is left after dropping does not begin in the class. -/
private theorem head?_dropWhile_eq_false (text : List Char) :
    ∀ c ∈ (text.dropWhile inClass).head?, inClass c = false := by
  intro c hc
  have hnot := List.head?_dropWhile_not inClass text
  rw [Option.mem_def.mp hc] at hnot
  exact hnot

end Cutting

namespace Text

/-- Stripping drops blanks from the front and then from the back. -/
theorem strip_eq_rdropWhile (text : List Char) :
    strip text = (text.dropWhile isBlank).rdropWhile isBlank := rfl

/-- Stripping takes exactly the blanks around a text that has none at its ends. -/
theorem strip_append {lead text trail : List Char} (hlead : ∀ c ∈ lead, isBlank c = true)
    (htrail : ∀ c ∈ trail, isBlank c = true) (hhead : ∀ c ∈ text.head?, isBlank c = false)
    (hlast : ∀ c ∈ text.getLast?, isBlank c = false) : strip (lead ++ text ++ trail) = text := by
  unfold strip trim
  rw [List.append_assoc, List.dropWhile_append_of_pos hlead]
  cases text with
  | nil =>
    rw [List.nil_append, List.dropWhile_eq_nil_iff.mpr htrail]
    rfl
  | cons first rest =>
    have hfirst : ¬ isBlank first = true := by simp [hhead first rfl]
    rw [List.cons_append, List.dropWhile_cons_of_neg hfirst, ← List.cons_append,
      List.reverse_append]
    have hback : ∀ c ∈ (first :: rest).reverse.head?, isBlank c = false := by
      rw [List.head?_reverse]
      exact hlast
    rw [dropWhile_append_eq_right (by simpa using htrail) hback, List.reverse_reverse]

end Text

namespace ParamText

open Text

/-- A text that names a variable, in its pieces. -/
structure Reading where
  /-- The blanks before the type. -/
  lead : List Char
  /-- The type. -/
  type : List Char
  /-- The blanks between the type and the variable. -/
  trail : List Char
  /-- The mark of the variable. -/
  mark : Char
  /-- The name of the variable. -/
  name : List Char
  /-- The blanks between the variable and the comment. -/
  blanks : List Char
  /-- The comment. -/
  comment : List Char
  /-- The line feed that may follow the comment. -/
  feed : List Char
  lead_blank : ∀ c ∈ lead, isBlank c = true
  type_unmarked : ∀ c ∈ type, isMark c = false
  type_head : ∀ c ∈ type.head?, isBlank c = false
  type_last : ∀ c ∈ type.getLast?, isBlank c = false
  trail_blank : ∀ c ∈ trail, isBlank c = true
  /-- Without a type all blanks count as standing before it. -/
  trail_nil : type = [] → trail = []
  mark_isMark : isMark mark = true
  name_ne_nil : name ≠ []
  name_ink : ∀ c ∈ name, isInk c = true
  blanks_blank : ∀ c ∈ blanks, isBlank c = true
  comment_head : ∀ c ∈ comment.head?, isBlank c = false
  comment_line : '\n' ∉ comment
  /-- A comment is set apart from the variable. -/
  comment_apart : comment ≠ [] → blanks ≠ []
  feed_nil : feed = [] ∨ feed = ['\n'] ∧ comment ≠ []

/-- Blanks are not marks. -/
theorem isMark_eq_false_of_isBlank {c : Char} (hblank : isBlank c = true) : isMark c = false := by
  unfold isMark
  rw [Bool.or_eq_false_iff, beq_eq_false_iff_ne, beq_eq_false_iff_ne]
  refine ⟨?_, ?_⟩ <;> rintro rfl <;> revert hblank <;> decide

/-- Characters in a line are not line feeds. -/
theorem ne_feed_of_line {line : List Char} (hline : '\n' ∉ line) :
    ∀ c ∈ line, (c != '\n') = true := by
  intro c hc
  rw [bne_iff_ne]
  rintro rfl
  exact hline hc

namespace Reading

variable (reading : Reading)

/-- The text before the mark. -/
def front : List Char :=
  reading.lead ++ reading.type ++ reading.trail

/-- The text after the name. -/
def back : List Char :=
  reading.blanks ++ (reading.comment ++ reading.feed)

/-- The whole text. -/
def text : List Char :=
  reading.front ++ reading.mark :: (reading.name ++ reading.back)

/-- The fields of the text. -/
def fields : ParamText where
  type := String.ofList reading.type
  typeSpace := reading.lead.length + reading.trail.length
  variableName := String.ofList (reading.mark :: reading.name)
  variableSpace := reading.blanks.length
  comment := String.ofList reading.comment

/-! ## From a reading to its fields -/

/-- The variable begins at the first mark. -/
theorem front_unmarked : ∀ c ∈ reading.front, (!isMark c) = true := by
  intro c hc
  rw [Bool.not_eq_true']
  simp only [front, List.mem_append] at hc
  rcases hc with (hlead | htype) | htrail
  · exact isMark_eq_false_of_isBlank (reading.lead_blank c hlead)
  · exact reading.type_unmarked c htype
  · exact isMark_eq_false_of_isBlank (reading.trail_blank c htrail)

/-- What follows the name, if anything does, begins with a blank. -/
theorem back_head : ∀ c ∈ reading.back.head?, isInk c = false := by
  intro c hc
  unfold back at hc
  cases hblanks : reading.blanks with
  | cons first rest =>
    rw [hblanks] at hc
    obtain rfl : first = c := by simpa using hc
    have hfirst := reading.blanks_blank first (by rw [hblanks]; exact List.mem_cons_self)
    simp [isInk, hfirst]
  | nil =>
    have hcomment : reading.comment = [] := by
      by_contra hcomment
      exact reading.comment_apart hcomment hblanks
    rcases reading.feed_nil with hfeed | ⟨-, hne⟩
    · simp [hblanks, hcomment, hfeed] at hc
    · exact absurd hcomment hne

/-- What follows the blanks after the name, if anything does, begins with ink. -/
theorem comment_feed_head : ∀ c ∈ (reading.comment ++ reading.feed).head?, isBlank c = false := by
  intro c hc
  cases hcomment : reading.comment with
  | cons first rest =>
    rw [hcomment] at hc
    exact reading.comment_head c (by rw [hcomment]; exact hc)
  | nil =>
    rcases reading.feed_nil with hfeed | ⟨-, hne⟩
    · simp [hcomment, hfeed] at hc
    · exact absurd hcomment hne

/-- The comment is the line that follows the blanks. -/
theorem comment?_comment_feed :
    comment? (reading.comment ++ reading.feed) = some reading.comment := by
  have hline := ne_feed_of_line reading.comment_line
  unfold comment?
  rw [List.dropWhile_append_of_pos hline, List.takeWhile_append_of_pos hline]
  rcases reading.feed_nil with hfeed | ⟨hfeed, -⟩
  · simp [hfeed]
  · simp [hfeed]

/-- What stands before the mark is the type, with its blanks counted. -/
theorem ofUnmarked_front :
    ofUnmarked reading.front =
      { empty with
        type := String.ofList reading.type
        typeSpace := reading.lead.length + reading.trail.length } := by
  have hstrip : strip reading.front = reading.type :=
    strip_append reading.lead_blank reading.trail_blank reading.type_head reading.type_last
  unfold ofUnmarked typeOnly
  rw [hstrip]
  have hlength : reading.front.length - reading.type.length =
      reading.lead.length + reading.trail.length := by
    simp only [front, List.length_append]
    omega
  rw [hlength]

/-- After the mark come the name, the blanks and the comment. -/
theorem ofMarked?_front :
    ofMarked? reading.front reading.mark (reading.name ++ reading.back) = some reading.fields := by
  have htake : (reading.name ++ reading.back).takeWhile isInk = reading.name :=
    takeWhile_append_eq_left reading.name_ink reading.back_head
  have hdrop : (reading.name ++ reading.back).dropWhile isInk = reading.back :=
    dropWhile_append_eq_right reading.name_ink reading.back_head
  have hblanks : reading.back.takeWhile isBlank = reading.blanks :=
    takeWhile_append_eq_left reading.blanks_blank reading.comment_feed_head
  have hcomment : reading.back.dropWhile isBlank = reading.comment ++ reading.feed :=
    dropWhile_append_eq_right reading.blanks_blank reading.comment_feed_head
  have hname : reading.name.isEmpty = false := by simp [reading.name_ne_nil]
  unfold ofMarked?
  simp only [htake, hdrop, hblanks, hcomment, hname, comment?_comment_feed, ofUnmarked_front]
  rfl

/-- **The text of a reading parses to its fields.** -/
theorem ofChars_text : ofChars reading.text = reading.fields := by
  have hmark : ∀ c ∈ (reading.mark :: (reading.name ++ reading.back)).head?,
      (!isMark c) = false := by
    intro c hc
    obtain rfl := Option.some.inj hc
    simp [reading.mark_isMark]
  unfold ofChars text
  rw [dropWhile_append_eq_right reading.front_unmarked hmark,
    takeWhile_append_eq_left reading.front_unmarked hmark]
  simp only [ofMarked?_front, Option.getD_some]

/-! ## From a text to its reading -/

end Reading

/-- The comment is a line, with at most a line feed after it. -/
theorem eq_of_comment?_eq_some {rest comment : List Char} (hcomment : comment? rest = some comment)
    (hhead : ∀ c ∈ rest.head?, isBlank c = false) :
    '\n' ∉ comment ∧ (∀ c ∈ comment.head?, isBlank c = false) ∧
      ∃ feed, rest = comment ++ feed ∧ (feed = [] ∨ feed = ['\n'] ∧ comment ≠ []) := by
  unfold comment? at hcomment
  split at hcomment
  · rename_i hdrop
    obtain rfl := Option.some.inj hcomment
    refine ⟨fun hfeed => ?_, hhead, [], by simp, Or.inl rfl⟩
    have hline := List.dropWhile_eq_nil_iff.mp hdrop _ hfeed
    simp at hline
  · rename_i hdrop
    obtain rfl := Option.some.inj hcomment
    have hsplit : rest = rest.takeWhile (· != '\n') ++ ['\n'] := by
      rw [← hdrop, List.takeWhile_append_dropWhile]
    have hne : rest.takeWhile (· != '\n') ≠ [] := by
      intro hnil
      rw [hnil] at hsplit
      rw [hsplit] at hhead
      have hfeed := hhead '\n' rfl
      revert hfeed
      decide
    refine ⟨fun hfeed => ?_, ?_, ['\n'], hsplit, Or.inr ⟨rfl, hne⟩⟩
    · have hline := List.mem_takeWhile_imp hfeed
      simp at hline
    · intro c hc
      refine hhead c ?_
      rw [hsplit, List.head?_append]
      simp [Option.mem_def.mp hc]
  · cases hcomment

/-- The text before a mark, in its pieces. -/
theorem exists_front (front : List Char) :
    ∃ lead trail, front = lead ++ strip front ++ trail ∧ (∀ c ∈ lead, isBlank c = true) ∧
      (∀ c ∈ trail, isBlank c = true) ∧ (strip front = [] → trail = []) := by
  have hlast : front.dropWhile isBlank =
      strip front ++ (front.dropWhile isBlank).rtakeWhile isBlank :=
    List.rdropWhile_append_rtakeWhile.symm
  refine ⟨front.takeWhile isBlank, (front.dropWhile isBlank).rtakeWhile isBlank, ?_, ?_, ?_, ?_⟩
  · rw [List.append_assoc, ← hlast, List.takeWhile_append_dropWhile]
  · exact fun c hc => List.mem_takeWhile_imp hc
  · exact fun c hc => List.mem_rtakeWhile_imp hc
  · intro hnil
    have hall := List.rdropWhile_eq_nil_iff.mp hnil
    have hdrop : front.dropWhile isBlank = [] := by
      rw [← List.dropWhile_idempotent]
      exact List.dropWhile_eq_nil_iff.mpr hall
    rw [hdrop]
    rfl

/-- A stripped text does not begin with a blank. -/
theorem head?_strip (text : List Char) : ∀ c ∈ (strip text).head?, isBlank c = false := by
  intro c hc
  obtain ⟨rest, hrest⟩ := List.rdropWhile_prefix isBlank (text.dropWhile isBlank)
  rw [← strip_eq_rdropWhile] at hrest
  refine head?_dropWhile_eq_false text c ?_
  rw [← hrest, List.head?_append, Option.mem_def.mp hc]
  rfl

/-- A stripped text does not end with a blank. -/
theorem getLast?_strip (text : List Char) : ∀ c ∈ (strip text).getLast?, isBlank c = false := by
  intro c hc
  obtain ⟨hne, rfl⟩ := List.mem_getLast?_eq_getLast hc
  exact Bool.eq_false_iff.mpr (List.rdropWhile_last_not isBlank _ hne)

/-- A comment is set apart from the name before it. -/
theorem blanks_ne_nil {tail comment feed : List Char} (hne : comment ≠ [])
    (hrest : (tail.dropWhile isInk).dropWhile isBlank = comment ++ feed)
    (hhead : ∀ c ∈ comment.head?, isBlank c = false) :
    (tail.dropWhile isInk).takeWhile isBlank ≠ [] := by
  intro hnil
  have hspaced : tail.dropWhile isInk = comment ++ feed := by
    rw [← hrest, ← List.takeWhile_append_dropWhile (p := isBlank) (l := tail.dropWhile isInk), hnil,
      List.nil_append, List.dropWhile_idempotent]
  obtain ⟨first, rest, rfl⟩ := List.exists_cons_of_ne_nil hne
  have hblank := head?_dropWhile_eq_false tail first (by rw [hspaced]; rfl)
  simp [isInk, hhead first rfl] at hblank

/-- **Every text that names a variable has a reading.** -/
theorem exists_reading {text : List Char} (hnamed : (ofChars text).variableName ≠ "") :
    ∃ reading : Reading, reading.text = text := by
  unfold ofChars at hnamed
  split at hnamed
  · exact absurd rfl hnamed
  · rename_i mark tail hmarked
    cases hfields : ofMarked? (text.takeWhile fun c => !isMark c) mark tail with
    | none =>
      rw [hfields] at hnamed
      exact absurd rfl hnamed
    | some fields =>
      unfold ofMarked? at hfields
      dsimp only at hfields
      split at hfields
      · cases hfields
      · rename_i hname
        obtain ⟨comment, hcomment, -⟩ := Option.map_eq_some_iff.mp hfields
        obtain ⟨hline, hhead, feed, hfeed, hends⟩ :=
          eq_of_comment?_eq_some hcomment (head?_dropWhile_eq_false _)
        obtain ⟨lead, trail, hfront, hlead, htrail, htype⟩ :=
          exists_front (text.takeWhile fun c => !isMark c)
        have hunmarked : ∀ c ∈ strip (text.takeWhile fun c => !isMark c), isMark c = false := by
          intro c hc
          have hmem : c ∈ text.takeWhile fun c => !isMark c := by
            rw [hfront]
            simp [hc]
          simpa using List.mem_takeWhile_imp hmem
        have hmark := head?_dropWhile_eq_false text mark (by rw [hmarked]; rfl)
        refine ⟨{
          lead
          type := strip (text.takeWhile fun c => !isMark c)
          trail
          mark
          name := tail.takeWhile isInk
          blanks := (tail.dropWhile isInk).takeWhile isBlank
          comment
          feed
          lead_blank := hlead
          type_unmarked := hunmarked
          type_head := head?_strip _
          type_last := getLast?_strip _
          trail_blank := htrail
          trail_nil := htype
          mark_isMark := by simpa using hmark
          name_ne_nil := by simpa using hname
          name_ink := fun c hc => List.mem_takeWhile_imp hc
          blanks_blank := fun c hc => List.mem_takeWhile_imp hc
          comment_head := hhead
          comment_line := hline
          comment_apart := fun hne => blanks_ne_nil hne hfeed hhead
          feed_nil := hends }, ?_⟩
        simp only [Reading.text, Reading.front, Reading.back]
        rw [← hfront, ← hfeed, List.takeWhile_append_dropWhile, List.takeWhile_append_dropWhile,
          ← hmarked, List.takeWhile_append_dropWhile]

/-! ## Writing a text again -/

namespace Reading

variable (reading : Reading)

/-- The reading with single spaces between its fields and no blanks at its ends. -/
def canonical : Reading :=
  { reading with
    lead := []
    trail := if reading.type = [] then [] else [' ']
    blanks := if reading.comment = [] then [] else [' ']
    feed := []
    lead_blank := by simp
    trail_blank := by
      intro c hc
      split at hc
      · cases hc
      · rw [List.mem_singleton.mp hc]
        decide
    trail_nil := fun htype => by simp [htype]
    blanks_blank := by
      intro c hc
      split at hc
      · cases hc
      · rw [List.mem_singleton.mp hc]
        decide
    comment_apart := fun hcomment => by simp [hcomment]
    feed_nil := Or.inl rfl }

/-- Writing the fields of a reading again gives the text of the canonical one. -/
theorem canonical_fields :
    reading.fields.canonical = String.ofList reading.canonical.text := by
  unfold ParamText.canonical fields text front back canonical
  by_cases htype : reading.type = [] <;> by_cases hcomment : reading.comment = [] <;>
    simp [htype, hcomment, String.isEmpty_iff, String.ofList_append, String.ofList_cons,
      String.append_assoc]

end Reading

/-- A text that names a variable parses to the fields of one of its readings. -/
theorem exists_reading_parse {text : String} (hnamed : (parse text).variableName ≠ "") :
    ∃ reading : Reading, reading.text = text.toList ∧ parse text = reading.fields ∧
      (parse text).canonical = String.ofList reading.canonical.text := by
  obtain ⟨reading, htext⟩ := exists_reading hnamed
  have hfields : parse text = reading.fields := by
    unfold parse
    rw [← htext, reading.ofChars_text]
  exact ⟨reading, htext, hfields, by rw [hfields, reading.canonical_fields]⟩

/-- **Writing again keeps the fields.** The canonical text of a variable has the same type, variable
and comment, set apart by single spaces. -/
theorem parse_canonical {text : String} (hnamed : (parse text).variableName ≠ "") :
    parse (parse text).canonical =
      { parse text with
        typeSpace := if (parse text).type.isEmpty then 0 else fieldSpace
        variableSpace := if (parse text).comment.isEmpty then 0 else fieldSpace } := by
  obtain ⟨reading, -, hfields, hcanonical⟩ := exists_reading_parse hnamed
  rw [hcanonical, hfields]
  unfold parse
  rw [String.toList_ofList, reading.canonical.ofChars_text]
  unfold Reading.fields Reading.canonical
  by_cases htype : reading.type = [] <;> by_cases hcomment : reading.comment = [] <;>
    simp [htype, hcomment, String.isEmpty_iff, fieldSpace]

/-- **The canonical text is a fixed point.** Read again it has the same type, variable and comment,
with one blank behind the type and one before the comment where they are not empty. Written again it
is the same text. -/
theorem canonical_text_is_fixed (text : String) (hnamed : (parse text).variableName ≠ "") :
    (parse (parse text).canonical).type = (parse text).type ∧
      (parse (parse text).canonical).variableName = (parse text).variableName ∧
      (parse (parse text).canonical).comment = (parse text).comment ∧
      (parse (parse text).canonical).typeSpace = (if (parse text).type = "" then 0 else 1) ∧
      (parse (parse text).canonical).variableSpace = (if (parse text).comment = "" then 0 else 1) ∧
      (parse (parse text).canonical).canonical = (parse text).canonical := by
  rw [parse_canonical hnamed]
  refine ⟨rfl, rfl, rfl, ?_, ?_, rfl⟩
  · simp only [String.isEmpty_iff, fieldSpace]
  · simp only [String.isEmpty_iff, fieldSpace]

/-- A text with blanks of several kinds around its type, another mark in its variable, blanks inside
its comment and a line feed at its end. -/
def unevenText : String :=
  "\tint | null  &$a$b \u3000all of  them \n"

/-- Only the blanks between the fields and at the ends are written anew. -/
theorem unevenText_fixed :
    (parse unevenText).variableName = "&$a$b" ∧
      (parse unevenText).canonical = "int | null &$a$b all of  them " ∧
      (parse "int | null &$a$b all of  them ").type = "int | null" ∧
      (parse "int | null &$a$b all of  them ").typeSpace = 1 ∧
      (parse "int | null &$a$b all of  them ").variableName = "&$a$b" ∧
      (parse "int | null &$a$b all of  them ").variableSpace = 1 ∧
      (parse "int | null &$a$b all of  them ").comment = "all of  them " ∧
      (parse "int | null &$a$b all of  them ").canonical = "int | null &$a$b all of  them " := by
  have hfields : parse unevenText = ⟨"int | null", 3, "&$a$b", 2, "all of  them "⟩ := by
    decide +kernel
  have hfixed := canonical_text_is_fixed unevenText (by rw [hfields]; decide)
  have hcanonical : (parse unevenText).canonical = "int | null &$a$b all of  them " := by
    rw [hfields]
    decide
  rw [hcanonical, hfields] at hfixed
  obtain ⟨htype, hname, hcomment, htypeSpace, hspace, hagain⟩ := hfixed
  exact ⟨by rw [hfields], hcanonical, htype, htypeSpace, hname, hspace, hcomment, hagain⟩

end ParamText

end DocLint

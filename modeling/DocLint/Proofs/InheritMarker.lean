import DocLint.Block
import DocLint.Proofs.ParamReading
import Mathlib.Data.List.Forall2
import Mathlib.Data.List.Infix

/-!
# The inherit marker survives respacing

Whether a comment is inherited is decided by one word in its raw text, searched for in small
letters. Respacing a parameter text changes that raw text. This module shows that the word does not
get lost: it has no blanks and no marks, so it never reaches across a place where blanks are
changed.

Small letters are not found character by character, because a capital sigma looks at its
neighbours. The marker has no sigma, so for finding it the two small sigmas may be taken for one,
and then they are.
-/

namespace DocLint

namespace Text

/-! ## Code sets by enumeration -/

/-- The code points of a run. -/
def CodeRun.codes (run : CodeRun) : List Nat :=
  List.range' run.first (run.last + 1 - run.first)

/-- The code points of the runs of a set. -/
def CodeSet.codes (set : CodeSet) : List Nat :=
  set.flatMap CodeRun.codes

/-- The code points of a set are among those of its runs, so what holds for all of a set can be
checked one by one. -/
theorem CodeSet.mem_codes_of_holds {code : Nat} {set : CodeSet} (hholds : set.holds code = true) :
    code ∈ set.codes := by
  induction set with
  | nil => cases hholds
  | cons run runs ih =>
    unfold CodeSet.holds at hholds
    unfold codes
    rw [List.flatMap_cons, List.mem_append]
    split at hholds
    · cases hholds
    · split at hholds
      · refine Or.inl ?_
        unfold CodeRun.codes
        rw [List.mem_range'_1]
        omega
      · exact Or.inr (ih hholds)

/-- Blanks are their own small forms. -/
theorem smallForm_of_isBlank {c : Char} (hblank : isBlank c = true) : smallForm c = [c] := by
  have hcode : c.toNat ∈ CodeSet.codes blanks := CodeSet.mem_codes_of_holds hblank
  have hall : ∀ code ∈ CodeSet.codes blanks, smallForm (Char.ofNat code) = [Char.ofNat code] := by
    decide +kernel
  have hform := hall c.toNat hcode
  rwa [Char.ofNat_toNat] at hform

/-! ## Finding a word -/

/-- Finding a word means that it is a contiguous piece. -/
theorem occursIn_eq_true_iff {word text : List Char} :
    occursIn word text = true ↔ word <:+: text := by
  induction text with
  | nil => simp [occursIn]
  | cons c rest ih => simp [occursIn, ih, List.infix_cons_iff]

/-- A word reaches over no character that it does not have. -/
theorem infix_append_cons_iff {word front back : List Char} {c : Char} (hc : c ∉ word) :
    word <:+: front ++ c :: back ↔ word <:+: front ∨ word <:+: back := by
  refine ⟨?_, ?_⟩
  · induction front with
    | nil =>
      rw [List.nil_append, List.infix_cons_iff]
      rintro (hbegin | hback)
      · cases word with
        | nil => exact Or.inl (List.nil_infix)
        | cons d rest =>
          obtain rfl : d = c := (List.cons_prefix_cons.mp hbegin).1
          exact absurd List.mem_cons_self hc
      · exact Or.inr hback
    | cons d front ih =>
      rw [List.cons_append, List.infix_cons_iff]
      rintro (hbegin | hrest)
      · -- A prefix of the whole that lacks `c` ends before `c`.
        refine Or.inl (List.IsPrefix.isInfix ?_)
        rw [← List.cons_append] at hbegin
        rcases List.prefix_or_prefix_of_prefix hbegin (List.prefix_append (d :: front) (c :: back))
          with hfront | ⟨rest, hrest⟩
        · exact hfront
        · subst hrest
          cases rest with
          | nil => simp
          | cons e rest =>
            obtain rfl : e = c := (List.cons_prefix_cons.mp
              ((List.prefix_append_right_inj (d :: front)).mp hbegin)).1
            exact absurd (by simp) hc
      · rcases ih hrest with hfront | hback
        · exact Or.inl (hfront.trans (List.suffix_cons d front).isInfix)
        · exact Or.inr hback
  · rintro (hfront | hback)
    · exact hfront.trans (List.prefix_append front (c :: back)).isInfix
    · refine hback.trans ((List.suffix_cons c back).trans ?_).isInfix
      exact List.suffix_append front (c :: back)

/-! ## One small sigma -/

/-- Takes the final small sigma for the other one. -/
def oneSigma (c : Char) : Char :=
  if c = 'ς' then 'σ' else c

/-- The small form of a character with one small sigma only. -/
def plainForm (c : Char) : List Char :=
  (smallForm c).map oneSigma

/-- With one small sigma the characters of a text do not look at each other. -/
theorem map_oneSigma_toSmallFrom (before text : List Char) :
    (toSmallFrom before text).map oneSigma = text.flatMap plainForm := by
  induction text generalizing before with
  | nil => rfl
  | cons c after ih =>
    unfold toSmallFrom
    rw [List.map_append, ih, List.flatMap_cons]
    by_cases hsigma : c = 'Σ'
    · subst hsigma
      have hboth : oneSigma (smallSigma before after) = 'σ' := by
        unfold smallSigma
        split <;> decide
      have hform : plainForm 'Σ' = ['σ'] := by decide
      rw [if_pos rfl, List.map_singleton, hboth, hform]
    · rw [if_neg hsigma, plainForm]

/-- A text without the final small sigma stays as it is. -/
theorem map_oneSigma_eq_self {text : List Char} (hfinal : 'ς' ∉ text) :
    text.map oneSigma = text := by
  refine (List.map_congr_left fun c hc => ?_).trans (List.map_id text)
  have hne : c ≠ 'ς' := fun heq => hfinal (heq ▸ hc)
  simp [oneSigma, hne]

/-- A word without sigma is found with one small sigma exactly when it is found with two. -/
theorem infix_map_oneSigma_iff {word text : List Char} (hword : 'σ' ∉ word) (hfinal : 'ς' ∉ word) :
    word <:+: text.map oneSigma ↔ word <:+: text := by
  refine ⟨?_, fun hinfix => map_oneSigma_eq_self hfinal ▸ hinfix.map oneSigma⟩
  rintro ⟨front, back, hmap⟩
  obtain ⟨rest, last, rfl, hrest, -⟩ := List.map_eq_append_iff.mp hmap.symm
  obtain ⟨first, piece, rfl, -, hpiece⟩ := List.map_eq_append_iff.mp hrest
  -- The image of a final sigma would be a sigma, which the word does not have.
  have hnone : 'ς' ∉ piece := fun hmem =>
    hword (hpiece ▸ List.mem_map.mpr ⟨'ς', hmem, by decide⟩)
  rw [← hpiece, map_oneSigma_eq_self hnone]
  exact ⟨first, last, rfl⟩

end Text

/-! ## Keeping the marker -/

namespace Block

open Text ParamText

/-- The marker is found in a text. -/
def Marked (text : List Char) : Prop :=
  inheritMarker <:+: text.flatMap plainForm

/-- A comment is inherited when its text has the marker. -/
theorem inheritsDoc_eq_true_iff {block : Block} :
    block.inheritsDoc = true ↔ Marked block.text.toList := by
  unfold inheritsDoc toSmall Marked
  rw [occursIn_eq_true_iff, String.toList_ofList,
    ← infix_map_oneSigma_iff (by decide) (by decide), map_oneSigma_toSmallFrom]

/-- Where the marker was found before a text is replaced it is found after, whatever stands around
the text. -/
def KeepsMarker (old new : List Char) : Prop :=
  ∀ before after, Marked (before ++ old ++ after) → Marked (before ++ new ++ after)

namespace KeepsMarker

theorem refl (text : List Char) : KeepsMarker text text :=
  fun _ _ hmarked => hmarked

/-- Texts can be replaced side by side. -/
theorem append {old new old' new' : List Char} (hkeeps : KeepsMarker old new)
    (hkeeps' : KeepsMarker old' new') : KeepsMarker (old ++ old') (new ++ new') := by
  intro before after hmarked
  have hfirst : Marked (before ++ new ++ (old' ++ after)) :=
    hkeeps before (old' ++ after) (by simpa using hmarked)
  have hsecond : Marked ((before ++ new) ++ new' ++ after) :=
    hkeeps' (before ++ new) after (by simpa using hfirst)
  simpa using hsecond

/-- Any number of texts can be replaced side by side. -/
theorem flatten {olds news : List (List Char)} (hkeeps : List.Forall₂ KeepsMarker olds news) :
    KeepsMarker olds.flatten news.flatten := by
  induction hkeeps with
  | nil => exact refl []
  | cons hfirst _ ih => exact hfirst.append ih

end KeepsMarker

/-- The marker reaches over no blank and no mark. -/
theorem marked_append_cons_iff {front back : List Char} {c : Char}
    (hc : isBlank c = true ∨ isMark c = true) :
    Marked (front ++ c :: back) ↔ Marked front ∨ Marked back := by
  have hform : plainForm c = [c] ∧ c ∉ inheritMarker := by
    rcases hc with hblank | hmark
    · refine ⟨?_, ?_⟩
      · unfold plainForm
        rw [smallForm_of_isBlank hblank, List.map_singleton]
        have hsigma : c ≠ 'ς' := by
          rintro rfl
          revert hblank
          decide
        simp [oneSigma, hsigma]
      · intro hmem
        have hink : (inheritMarker.all fun d => !isBlank d) = true := by decide
        have hc := List.all_eq_true.mp hink c hmem
        rw [hblank] at hc
        cases hc
    · unfold isMark at hmark
      rw [Bool.or_eq_true, beq_iff_eq, beq_iff_eq] at hmark
      rcases hmark with rfl | rfl <;> decide
  unfold Marked
  rw [List.flatMap_append, List.flatMap_cons, hform.1, List.singleton_append,
    infix_append_cons_iff hform.2]

/-- A text has the marker if a piece of it does. -/
theorem Marked.append {text : List Char} (hmarked : Marked text) (before after : List Char) :
    Marked (before ++ text ++ after) := by
  refine hmarked.trans ?_
  rw [List.flatMap_append, List.flatMap_append]
  exact List.infix_append _ _ _

/-- The marker does not begin among blanks. -/
theorem marked_of_blanks_append {blanks text : List Char}
    (hblanks : ∀ c ∈ blanks, isBlank c = true) (hmarked : Marked (blanks ++ text)) :
    Marked text := by
  induction blanks with
  | nil => exact hmarked
  | cons c rest ih =>
    have hsplit : Marked ([] ++ c :: (rest ++ text)) := hmarked
    rcases (marked_append_cons_iff (Or.inl (hblanks c List.mem_cons_self))).mp hsplit
      with hnil | hrest
    · simpa using hnil.append [] text
    · exact ih (fun d hd => hblanks d (List.mem_cons_of_mem c hd)) hrest

namespace KeepsMarker

/-- A run of blanks can be replaced by anything, unless there are no blanks. -/
theorem blanks {old new : List Char} (hold : ∀ c ∈ old, isBlank c = true)
    (hsome : old = [] → new = []) : KeepsMarker old new := by
  intro before after hmarked
  cases old with
  | nil =>
    rw [hsome rfl]
    exact hmarked
  | cons c rest =>
    rw [List.append_assoc, List.cons_append,
      marked_append_cons_iff (Or.inl (hold c List.mem_cons_self))] at hmarked
    rcases hmarked with hbefore | hafter
    · simpa using hbefore.append [] (new ++ after)
    · have hrest : ∀ d ∈ rest, isBlank d = true := fun d hd => hold d (List.mem_cons_of_mem c hd)
      simpa using (marked_of_blanks_append hrest hafter).append (before ++ new) []

/-- Blanks can also come up before a mark. -/
theorem blanks_mark {old new : List Char} {mark : Char} (hold : ∀ c ∈ old, isBlank c = true)
    (hmark : isMark mark = true) : KeepsMarker (old ++ [mark]) (new ++ [mark]) := by
  cases old with
  | cons c rest => exact (blanks hold fun hnil => nomatch hnil).append (refl [mark])
  | nil =>
    intro before after hmarked
    rw [List.nil_append, List.append_assoc, List.singleton_append,
      marked_append_cons_iff (Or.inr hmark)] at hmarked
    rcases hmarked with hbefore | hafter
    · simpa using hbefore.append [] (new ++ [mark] ++ after)
    · simpa using hafter.append (before ++ new ++ [mark]) []

end KeepsMarker

/-! ## Respacing a parameter text -/

/-- The pieces of a reading with the blanks before the mark and the mark taken together. -/
private theorem text_eq_pieces (reading : ParamText.Reading) :
    reading.text =
      [reading.lead, reading.type, reading.trail ++ [reading.mark], reading.name, reading.blanks,
        reading.comment, reading.feed].flatten := by
  simp [ParamText.Reading.text, ParamText.Reading.front, ParamText.Reading.back]

/-- **Respacing never loses the marker.** -/
theorem keepsMarker_canonical (reading : ParamText.Reading) :
    KeepsMarker reading.text reading.canonical.text := by
  rw [text_eq_pieces, text_eq_pieces]
  have hfeed : ∀ c ∈ reading.feed, isBlank c = true := by
    rcases reading.feed_nil with hnil | ⟨hfeed, -⟩
    · simp [hnil]
    · rw [hfeed]
      exact List.forall_mem_singleton.mpr (by decide)
  refine .flatten (.cons ?_ (.cons ?_ (.cons ?_ (.cons ?_ (.cons ?_ (.cons ?_ (.cons ?_ .nil)))))))
  · exact .blanks reading.lead_blank fun _ => rfl
  · exact .refl reading.type
  · exact .blanks_mark reading.trail_blank reading.mark_isMark
  · exact .refl reading.name
  · refine .blanks reading.blanks_blank fun hblanks => ?_
    have hcomment : reading.comment = [] := by
      by_contra hcomment
      exact reading.comment_apart hcomment hblanks
    simp [ParamText.Reading.canonical, hcomment]
  · exact .refl reading.comment
  · exact .blanks hfeed fun _ => rfl

/-- A text that does not end with a blank has nothing after its last field. -/
theorem back_of_getLast? (reading : ParamText.Reading)
    (hlast : ∀ c ∈ reading.text.getLast?, isBlank c = false) :
    reading.feed = [] ∧ (reading.comment = [] → reading.blanks = []) := by
  have htext : reading.text = (reading.front ++ reading.mark :: reading.name) ++ reading.back := by
    simp [ParamText.Reading.text]
  rw [htext, List.getLast?_append] at hlast
  have hfeed : reading.feed = [] := by
    rcases reading.feed_nil with hfeed | ⟨hfeed, -⟩
    · exact hfeed
    · have hblank := hlast '\n' (by simp [ParamText.Reading.back, hfeed])
      exact absurd hblank (by decide)
  refine ⟨hfeed, fun hcomment => ?_⟩
  by_contra hblanks
  have hink := hlast (reading.blanks.getLast hblanks) (by
    simp [ParamText.Reading.back, hfeed, hcomment, List.getLast?_eq_some_getLast hblanks])
  rw [reading.blanks_blank _ (List.getLast_mem hblanks)] at hink
  cases hink

/-- Respacing a text without blanks at its ends brings no marker about. -/
theorem keepsMarker_of_canonical (reading : ParamText.Reading)
    (hhead : ∀ c ∈ reading.text.head?, isBlank c = false)
    (hlast : ∀ c ∈ reading.text.getLast?, isBlank c = false) :
    KeepsMarker reading.canonical.text reading.text := by
  obtain ⟨hfeed, hblanks⟩ := back_of_getLast? reading hlast
  have hlead : reading.lead = [] := by
    by_contra hlead
    obtain ⟨c, rest, hcons⟩ := List.exists_cons_of_ne_nil hlead
    have hink := hhead c (by simp [ParamText.Reading.text, ParamText.Reading.front, hcons])
    rw [reading.lead_blank c (by rw [hcons]; exact List.mem_cons_self)] at hink
    cases hink
  rw [text_eq_pieces, text_eq_pieces, hlead, hfeed]
  refine .flatten (.cons ?_ (.cons ?_ (.cons ?_ (.cons ?_ (.cons ?_ (.cons ?_ (.cons ?_ .nil)))))))
  · exact .refl []
  · exact .refl reading.type
  · exact .blanks_mark reading.canonical.trail_blank reading.mark_isMark
  · exact .refl reading.name
  · refine .blanks reading.canonical.blanks_blank fun hnil => hblanks ?_
    by_contra hcomment
    simp [ParamText.Reading.canonical, hcomment] at hnil
  · exact .refl reading.comment
  · exact .refl []

end Block

end DocLint

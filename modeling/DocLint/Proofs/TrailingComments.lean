import DocLint.Proofs.CommentOwner
import Mathlib.Data.List.Basic

/-!
# Ordinary comments behind code

An ordinary comment on the line of the code before it belongs to that code, and a function that
comes next does not take it for its own. The code may be followed by several comments on its line,
with white space and modifiers between them and the function. The scan from the function passes over
one comment only: it goes back to the nearest comment, and from there to whatever comes before it.

So the law holds for one comment and fails for more. With two or more comments the scan stops at the
last but one, which stands on the line of the last as the law asks, and takes it for an ordinary
comment in the place of a doc comment.
-/

namespace DocLint

namespace Source

variable {source : Source} {code last before : Slot} {position : Int}

/-! ## Code and the comments behind it -/

/-- The nearest slot before a position that is neither a modifier nor white space nor an ordinary
comment. -/
abbrev CodeBefore (source : Source) (position : Int) (slot : Slot) : Prop :=
  source.NearestBefore (fun kind => !kind.isLeadIn && kind != .comment) position slot

/-- The ordinary comments strictly between two positions. -/
def commentsInside (source : Source) (low high : Int) : List Slot :=
  (source.slotsInside low high).filter fun slot => slot.kind == .comment

theorem mem_commentsInside_iff {low high : Int} {slot : Slot} :
    slot ∈ source.commentsInside low high ↔
      slot ∈ source.slots ∧ low < slot.position ∧ slot.position < high ∧ slot.kind = .comment := by
  rw [commentsInside, List.mem_filter, mem_slotsInside_iff, beq_iff_eq]
  simp only [and_assoc]

/-- Without its last one, a list of comments is that of the comments before the last one. -/
theorem commentsInside_of_concat {low high : Int} {front : List Slot}
    (hcomments : source.commentsInside low high = front ++ [last]) :
    source.commentsInside low last.position = front := by
  have hlast : last ∈ source.commentsInside low high := by
    rw [hcomments]
    exact List.mem_append_right front List.mem_cons_self
  have hhigh := (mem_commentsInside_iff.mp hlast).2.2.1
  have hascending : (front ++ [last]).Pairwise fun slot other =>
      slot.position < other.position := by
    rw [← hcomments]
    exact (source.pairwise_slotsInside low high).filter _
  have hfront : ∀ slot ∈ front, decide (slot.position < last.position) = true := by
    intro slot hslot
    exact decide_eq_true
      ((List.pairwise_append.mp hascending).2.2 slot hslot last List.mem_cons_self)
  calc source.commentsInside low last.position
    _ = (source.commentsInside low high).filter fun slot => slot.position < last.position := by
        rw [commentsInside, commentsInside, ← filter_slotsInside_before (Int.le_of_lt hhigh),
          List.filter_filter, List.filter_filter]
        simp only [Bool.and_comm]
    _ = front := by
        rw [hcomments, List.filter_append, List.filter_eq_self.mpr hfront,
          List.filter_cons_of_neg (by simp), List.filter_nil, List.append_nil]

/-- What is no comment between the code and the position is passed over. -/
theorem CodeBefore.leadIn {other : Slot} (hcode : source.CodeBefore position code)
    (hother : other ∈ source.slots) (hlow : code.position < other.position)
    (hhigh : other.position < position)
    (hnot : other ∉ source.commentsInside code.position position) :
    (!other.kind.isLeadIn) = false := by
  have hkind : other.kind ≠ .comment :=
    fun hkind => hnot (mem_commentsInside_iff.mpr ⟨hother, hlow, hhigh, hkind⟩)
  simpa [hkind] using hcode.nearer other hother hlow hhigh

/-- If no comment comes after the code, the scan finds the code. -/
theorem CodeBefore.commentEnd (hcode : source.CodeBefore position code)
    (hnone : source.commentsInside code.position position = []) :
    source.CommentEnd position code where
  mem := hcode.mem
  before := hcode.before
  passes := (Bool.and_eq_true _ _ ▸ hcode.passes).1
  nearer _ hother hlow hhigh :=
    hcode.leadIn hother hlow hhigh (hnone ▸ List.not_mem_nil)

/-- Otherwise it finds the last comment, and from there the same code comes before. -/
theorem CodeBefore.commentEnd_of_concat (hcode : source.CodeBefore position code)
    {front : List Slot}
    (hcomments : source.commentsInside code.position position = front ++ [last]) :
    source.CommentEnd position last ∧ source.CodeBefore last.position code := by
  have hlast : last ∈ source.commentsInside code.position position := by
    rw [hcomments]
    exact List.mem_append_right front List.mem_cons_self
  obtain ⟨hmem, hafter, hbefore, hkind⟩ := mem_commentsInside_iff.mp hlast
  refine ⟨⟨hmem, hbefore, by rw [hkind]; rfl, fun other hother hlow hhigh => ?_⟩,
    ⟨hcode.mem, hafter, hcode.passes, fun other hother hlow hhigh => ?_⟩⟩
  · apply hcode.leadIn hother (by omega) hhigh
    intro hcomment
    rw [hcomments, List.mem_append, List.mem_singleton] at hcomment
    rcases hcomment with hfront | rfl
    · rw [← commentsInside_of_concat hcomments, mem_commentsInside_iff] at hfront
      omega
    · omega
  · exact hcode.nearer other hother hlow (by omega)

/-! ## The scan from the function -/

/-- At a function the comment of a function is looked for. -/
theorem locate_of_function {anchor : Slot} (hanchor : anchor ∈ source.slots)
    (hkind : anchor.kind = .function) :
    source.locate anchor.position = some <$> source.locateFunction anchor.position := by
  rw [locate, get, token?_of_mem_slots hanchor]
  simp [bind, Except.bind, hkind, Subject.ofKind?]

/-- The scan takes what it finds for the end of the comment, if that is no ordinary comment. -/
theorem functionCommentEnd?_of_ne_comment (hlast : source.CommentEnd position last)
    (hkind : last.kind ≠ .comment) : source.functionCommentEnd? position = some last := by
  rw [functionCommentEnd?, beforeLeadIn?_eq_some_iff.mpr hlast]
  exact if_neg hkind

/-- It passes over an ordinary comment on the line of what comes before it. -/
theorem functionCommentEnd?_of_comment (hlast : source.CommentEnd position last)
    (hkind : last.kind = .comment) (hbefore : source.CommentEnd last.position before)
    (hline : before.line = last.line) : source.functionCommentEnd? position = some before := by
  rw [functionCommentEnd?, beforeLeadIn?_eq_some_iff.mpr hlast]
  dsimp only
  rw [if_pos hkind, beforeLeadIn?_eq_some_iff.mpr hbefore]
  exact if_pos hline

/-- Whatever ends the comment of a function decides what is found. -/
theorem locateFunction_of_end (hend : source.functionCommentEnd? position = some last) :
    (last.kind = .comment → source.locateFunction position = .ok (.ordinaryAbove last.position)) ∧
      (last.kind = .docClose → source.locateFunction position =
        last.docOpener.map fun opener => .doc .function opener last.position) ∧
      (last.kind ≠ .comment → last.kind ≠ .docClose →
        source.locateFunction position = .ok .absent) := by
  rw [locateFunction, hend]
  dsimp only
  split
  · rename_i hkind
    simp [hkind]
  · rename_i hkind
    simp only [hkind, reduceCtorEq, ne_eq, not_true_eq_false, false_implies, true_and, and_true,
      implies_true, true_implies]
    cases last.docOpener <;> rfl
  · rename_i hcomment hclose
    exact ⟨fun hkind => absurd hkind hcomment, fun hkind => absurd hkind hclose, fun _ _ => rfl⟩

/-- A function leaves the comments behind code to the code: it takes none of them for its own. If
the code is the end of a doc comment, that comment is the function's; otherwise there is none. -/
structure LeavesToCode (source : Source) (anchor : Int) (code : Slot) : Prop where
  ordinary : ∀ placement, source.locate anchor = .ok (some placement) → placement.owner ≠ .ordinary
  doc : code.kind = .docClose → ∀ opener, code.token.opener? = some opener →
    source.locate anchor = .ok (some (.doc .function opener code.position))
  absent : code.kind ≠ .docClose → source.locate anchor = .ok (some .absent)

/-- The comments are left to the code if it is what the scan ends with. -/
theorem leavesToCode_of_end {anchor : Slot} (hanchor : anchor ∈ source.slots)
    (hkind : anchor.kind = .function) (hcode : code.kind ≠ .comment)
    (hend : source.functionCommentEnd? anchor.position = some code) :
    source.LeavesToCode anchor.position code := by
  obtain ⟨-, hdoc, habsent⟩ := locateFunction_of_end hend
  have hlocate := locate_of_function hanchor hkind
  by_cases hclose : code.kind = .docClose
  · rw [hdoc hclose, Slot.docOpener] at hlocate
    refine ⟨fun placement hplacement => ?_, fun _ opener hopener => ?_, absurd hclose⟩
    · rw [hlocate] at hplacement
      cases hopener : code.token.opener? with
      | none =>
        rw [hopener] at hplacement
        cases hplacement
      | some opener =>
        rw [hopener] at hplacement
        cases hplacement
        exact Owner.noConfusion
    · rw [hlocate, hopener]
      rfl
  · rw [habsent hcode hclose] at hlocate
    refine ⟨fun placement hplacement => ?_, fun hdocClose => absurd hdocClose hclose,
      fun _ => hlocate⟩
    rw [hlocate] at hplacement
    cases hplacement
    exact Owner.noConfusion

/-! ## Comments on the line of the code -/

section

variable {anchor : Slot} (hanchor : anchor ∈ source.slots) (hkind : anchor.kind = .function)
variable (hcode : source.CodeBefore anchor.position code)
variable (hline : ∀ comment ∈ source.commentsInside code.position anchor.position,
  comment.line = code.line)

include hanchor hkind hcode hline

/-- The scan passes over one comment, and it goes straight to the code if there is none. -/
theorem leavesToCode_of_length_le
    (hlength : (source.commentsInside code.position anchor.position).length ≤ 1) :
    source.LeavesToCode anchor.position code := by
  have hnot : code.kind ≠ .comment := by
    have hpasses := hcode.passes
    rw [Bool.and_eq_true, bne_iff_ne] at hpasses
    exact hpasses.2
  apply leavesToCode_of_end hanchor hkind hnot
  cases hcomments : source.commentsInside code.position anchor.position with
  | nil => exact functionCommentEnd?_of_ne_comment (hcode.commentEnd hcomments) hnot
  | cons last rest =>
    rw [hcomments] at hlength
    obtain rfl : rest = [] := List.length_eq_zero_iff.mp (by simpa using hlength)
    have hmem : last ∈ source.commentsInside code.position anchor.position := by
      rw [hcomments]
      exact List.mem_cons_self
    have hconcat : source.commentsInside code.position anchor.position = [] ++ [last] := hcomments
    obtain ⟨hlast, hcode'⟩ := hcode.commentEnd_of_concat hconcat
    exact functionCommentEnd?_of_comment hlast (mem_commentsInside_iff.mp hmem).2.2.2
      (hcode'.commentEnd (commentsInside_of_concat hconcat)) (hline last hmem).symm

/-- Of several comments it passes over the last and stops at the one before. -/
theorem locate_of_two_comments {front : List Slot} {comment last : Slot}
    (hcomments : source.commentsInside code.position anchor.position = front ++ [comment, last]) :
    source.locate anchor.position = .ok (some (.ordinaryAbove comment.position)) := by
  have hconcat : source.commentsInside code.position anchor.position =
      (front ++ [comment]) ++ [last] := by
    rw [hcomments, List.append_assoc, List.singleton_append]
  have hmem : ∀ other ∈ [comment, last],
      other ∈ source.commentsInside code.position anchor.position := by
    intro other hother
    rw [hcomments]
    exact List.mem_append_right front hother
  have hcomment := hmem comment List.mem_cons_self
  have hlast := hmem last (List.mem_cons_of_mem comment List.mem_cons_self)
  obtain ⟨hlastEnd, hcode'⟩ := hcode.commentEnd_of_concat hconcat
  obtain ⟨hcommentEnd, -⟩ := hcode'.commentEnd_of_concat (commentsInside_of_concat hconcat)
  have hend : source.functionCommentEnd? anchor.position = some comment :=
    functionCommentEnd?_of_comment hlastEnd (mem_commentsInside_iff.mp hlast).2.2.2 hcommentEnd
      ((hline comment hcomment).trans (hline last hlast).symm)
  rw [locate_of_function hanchor hkind,
    (locateFunction_of_end hend).1 (mem_commentsInside_iff.mp hcomment).2.2.2]
  rfl

end

/-- **One comment behind code is left to it, and no more.** Let the code before a function be
followed by ordinary comments on its own line. The function leaves them to the code exactly if there
is at most one. Otherwise it takes the last but one of them for an ordinary comment in the place of
its doc comment. -/
theorem one_trailing_comment_left_to_code {anchor : Slot} (hanchor : anchor ∈ source.slots)
    (hkind : anchor.kind = .function) (hcode : source.CodeBefore anchor.position code)
    (hline : ∀ comment ∈ source.commentsInside code.position anchor.position,
      comment.line = code.line) :
    (source.LeavesToCode anchor.position code ↔
        (source.commentsInside code.position anchor.position).length ≤ 1) ∧
      ∀ front comment last,
        source.commentsInside code.position anchor.position = front ++ [comment, last] →
          source.locate anchor.position = .ok (some (.ordinaryAbove comment.position)) := by
  refine ⟨⟨fun hleaves => ?_, leavesToCode_of_length_le hanchor hkind hcode hline⟩,
    fun front comment last => locate_of_two_comments hanchor hkind hcode hline⟩
  by_contra hlength
  generalize hcomments : source.commentsInside code.position anchor.position = comments at hlength
  have hback : (comments.drop (comments.length - 2)).length = 2 := by
    rw [List.length_drop]
    omega
  obtain ⟨comment, last, hback⟩ := List.length_eq_two.mp hback
  rw [← List.take_append_drop (comments.length - 2) comments, hback] at hcomments
  have hlocate := locate_of_two_comments hanchor hkind hcode hline hcomments
  exact hleaves.ordinary _ hlocate rfl

/-- Code with two comments behind it, and a function on the next line. -/
def twoBehindCode : Source :=
  ⟨#[⟨.semicolon, ";", 1, none, none, []⟩, ⟨.comment, "/* one */", 1, none, none, []⟩,
    ⟨.comment, "// two", 1, none, none, []⟩, ⟨.function, "function", 2, none, none, []⟩]⟩

/-- Both comments are on the line of the code, and yet the first one is found before the
function. -/
theorem twoBehindCode_not_left_to_code :
    ∃ code, twoBehindCode.CodeBefore 3 code ∧ code.kind = .semicolon ∧
      (twoBehindCode.commentsInside code.position 3).map Slot.line = [code.line, code.line] ∧
      twoBehindCode.locate 3 = .ok (some (.ordinaryAbove 1)) ∧
      ¬ twoBehindCode.LeavesToCode 3 code := by
  refine ⟨_, prev?_eq_some_iff_nearestBefore.mp rfl, rfl, rfl, rfl, fun hleaves => ?_⟩
  exact hleaves.ordinary _ rfl rfl

/-- The end of a doc comment with one comment behind it, and a function with a modifier. -/
def oneBehindDoc : Source :=
  ⟨#[⟨.docOpen, "/**", 1, none, some 1, []⟩, ⟨.docClose, "*/", 1, some 0, none, []⟩,
    ⟨.comment, "// one", 1, none, none, []⟩, ⟨.whitespace, " ", 2, none, none, []⟩,
    ⟨.publicKeyword, "public", 2, none, none, []⟩, ⟨.function, "function", 2, none, none, []⟩]⟩

/-- One comment is left to the doc comment before it, which is the function's. Of two comments the
first one is found. -/
theorem oneBehindDoc_left_to_code :
    (∃ code, oneBehindDoc.CodeBefore 5 code ∧ code.kind = .docClose ∧
        oneBehindDoc.LeavesToCode 5 code ∧
        oneBehindDoc.locate 5 = .ok (some (.doc .function 0 1))) ∧
      ∃ code, twoBehindCode.CodeBefore 3 code ∧ ¬ twoBehindCode.LeavesToCode 3 code := by
  constructor
  · have hcode : oneBehindDoc.CodeBefore 5 _ := prev?_eq_some_iff_nearestBefore.mp rfl
    have hanchor : (⟨5, ⟨.function, "function", 2, none, none, []⟩⟩ : Slot) ∈
        oneBehindDoc.slots := by
      decide
    obtain ⟨hleaves, -⟩ := one_trailing_comment_left_to_code hanchor rfl hcode (by decide)
    exact ⟨_, hcode, rfl, hleaves.mpr (by decide), rfl⟩
  · have hcode : twoBehindCode.CodeBefore 3 _ := prev?_eq_some_iff_nearestBefore.mp rfl
    have hanchor : (⟨3, ⟨.function, "function", 2, none, none, []⟩⟩ : Slot) ∈
        twoBehindCode.slots := by
      decide
    obtain ⟨hleaves, -⟩ := one_trailing_comment_left_to_code hanchor rfl hcode (by decide)
    exact ⟨_, hcode, fun hleft => absurd (hleaves.mp hleft) (by decide)⟩

end Source

end DocLint

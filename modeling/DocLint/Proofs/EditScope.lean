import DocLint.Proofs.Auditing
import DocLint.Proofs.FaultFree

/-!
# What edits may touch

The edits of a pass respace texts of parameter tags. This holds of passes that work on a report,
with checks of single tags that look at the report and do with it what they like, except that they
queue no edits. Two things follow for sources with whatever references.

Edits of one token never disagree, because each is determined by the text of the token that it is
aimed at. An edit can only miss: where a list of tags counts from the back, the edit does so too,
and then it is refused.

Fixing changes blanks only. A text and its respaced form show the same ink, and everything but the
texts of text tokens stays as it is. One pass keeps this relation between the old and the new
source, and so does any number of passes.

A check of single tags that does queue edits can have any token rewritten, and edits of its own can
conflict with others.
-/

namespace DocLint

open Check

/-! ## Ink -/

namespace Text

/-- A text without its blanks. -/
def withoutBlanks (text : String) : String :=
  String.ofList (text.toList.filter isInk)

/-- Blanks show no ink. -/
theorem filter_isInk_of_blank {text : List Char} (hblank : ∀ c ∈ text, isBlank c = true) :
    text.filter isInk = [] := by
  apply List.filter_eq_nil_iff.mpr
  intro c hc
  simp [isInk, hblank c hc]

/-- The ink of texts one after the other is that of each of them. -/
theorem withoutBlanks_join (texts : List String) :
    withoutBlanks (String.join texts) = String.join (texts.map withoutBlanks) := by
  apply String.toList_injective
  simp only [withoutBlanks, String.toList_ofList, String.toList_join, List.flatMap_map]
  exact List.filter_flatMap ..

end Text

namespace ParamText.Reading

open Text

/-- The ink of a text that names a variable is that of its type, variable and comment. -/
theorem filter_isInk_text (reading : ParamText.Reading) :
    reading.text.filter isInk =
      (reading.type ++ reading.mark :: (reading.name ++ reading.comment)).filter isInk := by
  have hfeed : ∀ c ∈ reading.feed, isBlank c = true := by
    intro c hc
    rcases reading.feed_nil with hnil | ⟨hfeed, -⟩
    · simp [hnil] at hc
    · rw [hfeed, List.mem_singleton] at hc
      rw [hc]
      decide
  simp only [text, front, back, List.filter_append, List.filter_cons,
    filter_isInk_of_blank reading.lead_blank, filter_isInk_of_blank reading.trail_blank,
    filter_isInk_of_blank reading.blanks_blank, filter_isInk_of_blank hfeed, List.nil_append,
    List.append_nil]

end ParamText.Reading

/-- **Respacing keeps the ink.** -/
theorem withoutBlanks_of_respaced {slot : Slot} {content : String}
    (hrespaced : Respaced slot content) :
    Text.withoutBlanks content = Text.withoutBlanks slot.content := by
  obtain ⟨hvariable, rfl⟩ := hrespaced
  obtain ⟨reading, htext, -, hcanonical⟩ := ParamText.exists_reading_parse hvariable
  rw [Text.withoutBlanks, Text.withoutBlanks, hcanonical, String.toList_ofList, ← htext,
    reading.filter_isInk_text, reading.canonical.filter_isInk_text]
  rfl

/-! ## Passes compose -/

/-- What is allowed in two steps is allowed in one. -/
theorem Slot.Rewrites.trans {allowed : Slot → String → Prop} {slot slot' slot'' : Slot}
    (hallowed : ∀ content content', allowed slot content →
      allowed (slot.withText content) content' → allowed slot content')
    (hfirst : Slot.Rewrites allowed slot slot') (hsecond : Slot.Rewrites allowed slot' slot'') :
    Slot.Rewrites allowed slot slot'' := by
  rcases hfirst with rfl | ⟨hkind, content, hcontent, rfl⟩
  · exact hsecond
  · rcases hsecond with rfl | ⟨-, content', hcontent', rfl⟩
    · exact Or.inr ⟨hkind, content, hcontent, rfl⟩
    · exact Or.inr ⟨hkind, content', hallowed content content' hcontent hcontent', rfl⟩

namespace Source

variable {source fixed : Source}

/-- The text shows the same ink as that of the slot. -/
def SameInk (slot : Slot) (content : String) : Prop :=
  Text.withoutBlanks content = Text.withoutBlanks slot.content

/-- A source differs from itself in no text. -/
theorem rewrites_refl (allowed : Slot → String → Prop) (source : Source) :
    source.Rewrites allowed source :=
  ⟨rfl, fun _ token hat => ⟨token, hat, Or.inl rfl⟩⟩

/-- Sources that differ in blanks only, one after the other. -/
theorem Rewrites.trans_sameInk {next : Source} (hfirst : source.Rewrites SameInk next)
    (hsecond : next.Rewrites SameInk fixed) : source.Rewrites SameInk fixed := by
  refine ⟨hsecond.size_eq.trans hfirst.size_eq, ?_⟩
  intro position token hat
  obtain ⟨token', hat', hslot⟩ := hfirst.token? position token hat
  obtain ⟨token'', hat'', hslot'⟩ := hsecond.token? position token' hat'
  refine ⟨token'', hat'', hslot.trans ?_ hslot'⟩
  intro content content' hcontent hcontent'
  exact Eq.trans hcontent' hcontent

/-- Sources that differ in blanks only show the same ink. -/
theorem Rewrites.withoutBlanks_render (hrewrites : source.Rewrites SameInk fixed) :
    Text.withoutBlanks fixed.render = Text.withoutBlanks source.render := by
  have hslots : (fixed.slots.map fun slot => Text.withoutBlanks slot.content) =
      source.slots.map fun slot => Text.withoutBlanks slot.content := by
    have hrel := hrewrites.slots_rel
    generalize source.slots = slots, fixed.slots = slots' at hrel ⊢
    induction hrel with
    | nil => rfl
    | cons hslot _ ih =>
      rw [List.map_cons, List.map_cons, ih]
      rcases hslot with rfl | ⟨-, content, hcontent, rfl⟩
      · rfl
      · exact congrArg₂ List.cons hcontent rfl
  simpa only [render, textOf, toList_tokens, Text.withoutBlanks_join, List.map_map,
    Function.comp_def] using congrArg String.join hslots

end Source

/-! ## Edits that agree -/

namespace Edit

variable {size : Nat} {earlier edits : List Edit}

/-- An edit that conflicts disagrees with an edit before it. -/
theorem exists_disagreement {edit : Edit} {position : Int} {first second : String}
    (hfault : edit.fault? size earlier = some (.editConflict position first second)) :
    ∃ other ∈ earlier, other.position = edit.position ∧ other.content ≠ edit.content := by
  rw [fault?] at hfault
  split at hfault
  · split at hfault
    · cases hfault
    · rename_i other hfind
      split at hfault
      · cases hfault
      · rename_i hne
        exact ⟨other, List.mem_of_find?_eq_some hfind, by simpa using List.find?_some hfind, hne⟩
  · cases hfault

/-- **Edits that agree never conflict**, whatever else may be wrong with them. -/
theorem firstFault?_ne_conflict (hagree : Agree (earlier ++ edits)) (position : Int)
    (first second : String) :
    firstFault? size earlier edits ≠ some (.editConflict position first second) := by
  induction edits generalizing earlier with
  | nil =>
    intro hnone
    cases hnone
  | cons edit rest ih =>
    rw [firstFault?]
    cases hfault : edit.fault? size earlier with
    | none =>
      rw [← List.singleton_append, ← List.append_assoc] at hagree
      exact ih hagree
    | some fault =>
      intro hconflict
      rw [Option.some.inj hconflict] at hfault
      obtain ⟨other, hother, hposition, hne⟩ := exists_disagreement hfault
      exact hne (hagree other (List.mem_append_left _ hother) edit
        (List.mem_append_right _ List.mem_cons_self) hposition)

end Edit

/-! ## Audits that queue edits -/

/-- The edits that an audit queues are of a certain sort, if it ends. It may look at the report, and
change it in any other way. -/
def Audit.Queues (allowed : Edit → Prop) {α : Type} (audit : Audit α) : Prop :=
  ∀ report value after, Reporting.run audit report = (.ok value, after) →
    ∀ edit ∈ after.edits, edit ∈ report.edits ∨ allowed edit

/-- No check of single tags queues edits. -/
def Processors.QueueNothing (processors : Processors Audit) : Prop :=
  processors.Each (Audit.Queues fun _ => False)

namespace Audit

variable {allowed : Edit → Prop} {α : Type}

theorem Queues.of_false {audit : Audit α} (hqueues : audit.Queues fun _ => False) :
    audit.Queues allowed :=
  fun report value after hrun edit hedit =>
    Or.inl ((hqueues report value after hrun edit hedit).resolve_right id)

/-- What is filed for a check queues the edits that the check asks for. -/
theorem queues_perform {check : Check α}
    (hallowed : check.Succeeds → ∀ edit ∈ check.edits, allowed edit) :
    check.perform.Queues allowed := by
  intro report value after hrun edit hedit
  rw [run_perform, Prod.mk.injEq] at hrun
  obtain ⟨houtcome, rfl⟩ := hrun
  rw [Report.fileAll_eq] at hedit
  rcases List.mem_append.mp hedit with hold | hnew
  · exact Or.inl hold
  · split at hnew
    · exact Or.inr (hallowed ⟨value, houtcome⟩ edit hnew)
    · cases hnew

/-- **Which edits are queued** can be told part by part. -/
theorem compositional_queues (allowed : Edit → Prop) : Compositional (Queues allowed) where
  perform check hedits := queues_perform fun _ edit hedit => by simp [hedits] at hedit
  bind := by
    intro α β audit next haudit hnext report value after hrun edit hedit
    rw [run_bind] at hrun
    rcases hfirst : Reporting.run audit report with ⟨fault | middle, between⟩
    · rw [hfirst] at hrun
      cases hrun
    · rw [hfirst] at hrun
      rcases hnext middle between value after hrun edit hedit with hbetween | hallowed
      · exact haudit report middle between hfirst edit hbetween
      · exact Or.inr hallowed

end Audit

/-- The built-in checks queue no edits. -/
theorem Processors.queueNothing_builtIn : QueueNothing builtIn :=
  (Audit.compositional_queues _).each_builtIn

namespace Source

variable {source fixed : Source} {checkers : List (DocChecker Audit)}

/-! ## Edits of a pass -/

/-- The edit is one of those that the comment of a function asks for. -/
def AsksFor (source : Source) (edit : Edit) : Prop :=
  ∃ position block, Block.Documents source position .function block ∧ edit ∈ block.spacingEdits

/-- A report is what the pass leaves. -/
theorem run_of_report {checkers : List (Checker Audit)} {fixing : Bool} {report : Report}
    (hreport : source.report checkers fixing = .ok report) :
    Reporting.run (source.inspect checkers) (.empty fixing) = (.ok (), report) := by
  rw [Source.report] at hreport
  generalize Reporting.run (source.inspect checkers) (.empty fixing) = result at hreport ⊢
  rcases result with ⟨fault | value, after⟩
  · cases hreport
  · cases hreport
    rfl

/-- **The edits that an inspection queues** are those of a function comment. -/
theorem queues_inspect {checker : DocChecker Audit} (hqueue : checker.processors.QueueNothing)
    {slot : Slot} (hslot : slot ∈ source.slots)
    (hkind : checker.kinds.contains slot.kind = true) :
    (checker.inspect source slot.position).Queues source.AsksFor := by
  refine (Audit.compositional_queues _).inspect ?_ ?_
  · exact fun name processor hlookup site block tags =>
      (hqueue name processor hlookup site block tags).of_false
  · refine Audit.queues_perform fun hsucceeds edit hedit => ?_
    obtain ⟨block, hdocuments, hedit⟩ := DocChecker.mem_edits_inspect rfl
      (token?_of_mem_slots hslot) hkind hsucceeds hedit
    exact ⟨slot.position, block, hdocuments, hedit⟩

/-- **So are the edits of a report.** -/
theorem asksFor_of_report {fixing : Bool} {report : Report}
    (hqueue : ∀ checker ∈ checkers, checker.processors.QueueNothing)
    (hreport : source.report (checkers.map DocChecker.toChecker) fixing = .ok report) :
    ∀ edit ∈ report.edits, source.AsksFor edit := by
  intro edit hedit
  have hpass := (Audit.compositional_queues source.AsksFor).pass fun checker hchecker slot =>
    queues_inspect (hqueue checker hchecker)
  rcases hpass _ _ _ (run_of_report hreport) edit hedit with hnone | hasks
  · cases hnone
  · exact hasks

/-- The edits of a report respace texts of the source. -/
theorem respaces_of_report {fixing : Bool} {report : Report}
    (hqueue : ∀ checker ∈ checkers, checker.processors.QueueNothing)
    (hreport : source.report (checkers.map DocChecker.toChecker) fixing = .ok report) :
    ∀ edit ∈ report.edits, edit.Respaces source := by
  intro edit hedit
  obtain ⟨position, block, hdocuments, hedit⟩ := asksFor_of_report hqueue hreport edit hedit
  obtain ⟨opener, hreads⟩ := hdocuments.reads
  exact Block.respaces_of_mem_spacingEdits hreads.stands hedit

/-- Edits count from the front where the lists of tags do. -/
theorem AsksFor.inside {edit : Edit}
    (hfront : ∀ slot ∈ source.slots, ∀ position ∈ slot.token.tagPositions, 0 ≤ position)
    (hasks : source.AsksFor edit) : 0 ≤ edit.position ∧ edit.position < source.size := by
  obtain ⟨position, block, hdocuments, hedit⟩ := hasks
  obtain ⟨token, hreads⟩ := hdocuments.reads
  obtain ⟨slot, hslot, rfl, -⟩ := exists_slot_of_token? hreads.token?
  apply hreads.bounds_of_mem_spacingEdits _ hedit
  intro tag htag
  obtain ⟨place, stop, hbounds, hread⟩ := hreads.exists_bounds htag
  obtain ⟨_, -, -, rfl⟩ := Tag.read_eq_ok_iff.mp hread
  rw [Tag.position_ofTexts]
  exact hfront slot hslot place (List.of_mem_zip hbounds).1

/-- **Edits never conflict.** Whatever the references of a source, the configurations and the
signatures, if no check of single tags queues edits: every edit of a report is aimed at a text
token, possibly counted from the back, and writes the fields of that token's own text again. So
edits of one token agree, and applying them never fails because of a conflict. Where all lists of
tags count from the front, the edits do so too and can be applied. -/
theorem edits_never_conflict {checkers : List (DocChecker Audit)} {source : Source}
    {report : Report} (hqueue : ∀ checker ∈ checkers, checker.processors.QueueNothing)
    (hreport : source.report (checkers.map DocChecker.toChecker) true = .ok report) :
    (∀ edit ∈ report.edits, ∃ token, source.token? edit.position = some token ∧
        token.kind = .docString ∧ edit.content = (ParamText.parse token.content).canonical) ∧
      (∀ edit ∈ report.edits, ∀ other ∈ report.edits, edit.position = other.position →
        edit.content = other.content) ∧
      (∀ position first second,
        source.apply report.edits ≠ .error (.editConflict position first second)) ∧
      ((∀ slot ∈ source.slots, ∀ position ∈ slot.token.tagPositions, 0 ≤ position) →
        (∀ edit ∈ report.edits, 0 ≤ edit.position ∧ edit.position < source.size) ∧
          ∃ fixed, source.apply report.edits = .ok fixed) := by
  have hrespaces := respaces_of_report hqueue hreport
  have hagree := Edit.agree_of_respaces hrespaces
  refine ⟨?_, hagree, ?_, ?_⟩
  · intro edit hedit
    obtain ⟨token, hat, hkind, -, hcontent⟩ := hrespaces edit hedit
    exact ⟨token, hat, hkind, hcontent⟩
  · intro position first second hconflict
    rw [apply] at hconflict
    cases hfault : Edit.firstFault? source.size [] report.edits with
    | none => simp [hfault] at hconflict
    | some fault =>
      rw [hfault] at hconflict
      rw [Except.error.inj hconflict] at hfault
      have hnone : Edit.Agree ([] ++ report.edits) := hagree
      exact Edit.firstFault?_ne_conflict hnone position first second hfault
  · intro hfront
    have hinside : Edit.Inside source.size report.edits := fun edit hedit =>
      (asksFor_of_report hqueue hreport edit hedit).inside hfront
    exact ⟨hinside, _, apply_eq_ok_iff.mpr ⟨⟨hinside, hagree⟩, rfl⟩⟩

/-! ## Fixing -/

/-- **One pass changes blanks only.** -/
theorem rewrites_sameInk_of_apply {report : Report}
    (hqueue : ∀ checker ∈ checkers, checker.processors.QueueNothing)
    (hreport : source.report (checkers.map DocChecker.toChecker) true = .ok report)
    (happly : source.apply report.edits = .ok fixed) : source.Rewrites SameInk fixed := by
  rw [(apply_eq_ok_iff.mp happly).2]
  apply (rewrites_edited (respaces_of_report hqueue hreport)).mono
  intro slot content hwrites
  exact withoutBlanks_of_respaced hwrites.1

/-- **So does any number of passes.** -/
theorem rewrites_sameInk_of_fix {passes : Nat} {report : Report}
    (hqueue : ∀ checker ∈ checkers, checker.processors.QueueNothing)
    (hfix : Source.fix (checkers.map DocChecker.toChecker) passes source = .ok (fixed, report)) :
    source.Rewrites SameInk fixed := by
  induction passes generalizing source with
  | zero =>
    obtain ⟨last, -, hlast⟩ := except_bind_eq_ok_iff.mp hfix
    cases hlast
    exact rewrites_refl SameInk _
  | succ passes ih =>
    obtain ⟨first, hfirst, hrest⟩ := except_bind_eq_ok_iff.mp hfix
    by_cases hnone : first.edits.isEmpty = true
    · rw [if_pos hnone] at hrest
      cases hrest
      exact rewrites_refl SameInk _
    · rw [if_neg hnone] at hrest
      obtain ⟨next, happly, hnext⟩ := except_bind_eq_ok_iff.mp hrest
      exact (rewrites_sameInk_of_apply hqueue hfirst happly).trans_sameInk (ih hnext)

/-- **Fixing touches nothing but blanks.** Whatever the source, the configurations, the signatures
and the number of passes, if no check of single tags queues edits: when fixing has a result, it has
the tokens of the source with their kinds, lines and references. Only text tokens may have a new
text, every token shows the ink that it showed, and so does the source as a whole. -/
theorem fixing_touches_only_blanks {checkers : List (DocChecker Audit)} {source fixed : Source}
    {passes : Nat} {report : Report}
    (hqueue : ∀ checker ∈ checkers, checker.processors.QueueNothing)
    (hfix : Source.fix (checkers.map DocChecker.toChecker) passes source = .ok (fixed, report)) :
    fixed.size = source.size ∧
      (∀ position token, source.token? position = some token →
        ∃ token', fixed.token? position = some token' ∧
          token' = { token with content := token'.content } ∧
          (token'.content ≠ token.content → token.kind = .docString) ∧
          Text.withoutBlanks token'.content = Text.withoutBlanks token.content) ∧
      Text.withoutBlanks fixed.render = Text.withoutBlanks source.render := by
  have hrewrites := rewrites_sameInk_of_fix hqueue hfix
  refine ⟨hrewrites.size_eq, ?_, hrewrites.withoutBlanks_render⟩
  intro position token hat
  obtain ⟨token', hat', hslot⟩ := hrewrites.token? position token hat
  refine ⟨token', hat', ?_⟩
  rcases hslot with hsame | ⟨hkind, content, hcontent, hnew⟩
  · cases hsame
    exact ⟨rfl, fun hne => absurd rfl hne, rfl⟩
  · cases hnew
    exact ⟨rfl, fun _ => hkind, hcontent⟩

/-! ## A comment that is respaced -/

/-- A function with one parameter, documented with blanks that should not be there. The comment
lists its tags at the given positions. -/
def wideParam (tagPositions : List Int) : Source :=
  ⟨#[⟨.docOpen, "/**", 1, none, some 4, tagPositions⟩, ⟨.docString, "Adds.", 2, none, none, []⟩,
    ⟨.docTag, "@param", 4, none, none, []⟩,
    ⟨.docString, " int   $x  The number.\n", 4, none, none, []⟩,
    ⟨.docClose, "*/", 5, some 0, none, []⟩, ⟨.function, "function", 6, none, none, []⟩,
    ⟨.openParenthesis, "(", 6, none, some 8, []⟩, ⟨.variableName, "$x", 6, none, none, []⟩,
    ⟨.closeParenthesis, ")", 6, some 6, none, []⟩]⟩

/-- The checker of the house style, twice. -/
def twoCheckers : List (DocChecker Audit) :=
  [.ofConfig {}, .ofConfig {}]

theorem queueNothing_twoCheckers : ∀ checker ∈ twoCheckers, checker.processors.QueueNothing := by
  intro checker hchecker
  obtain rfl : checker = .ofConfig {} := by simpa [twoCheckers] using hchecker
  exact Processors.queueNothing_builtIn

/-- Four edits of one token agree and can be applied. Where the tag is listed a second time, counted
from the back, the edits agree as well, but they are aimed at no token. -/
theorem wideParam_agrees :
    (∃ report fixed,
      (wideParam [2]).report (twoCheckers.map DocChecker.toChecker) true = .ok report ∧
        report.edits = List.replicate 4 ⟨3, "int $x The number."⟩ ∧
        (wideParam [2]).apply report.edits = .ok fixed) ∧
      ∃ report,
        (wideParam [2, -7]).report (twoCheckers.map DocChecker.toChecker) true = .ok report ∧
          report.edits = List.replicate 4 ⟨-6, "int $x The number."⟩ ∧
          (wideParam [2, -7]).apply report.edits = .error (.editOutside (-6)) ∧
          ∀ position first second,
            (wideParam [2, -7]).apply report.edits ≠
              .error (.editConflict position first second) := by
  constructor
  · have hedits : ((wideParam [2]).report (twoCheckers.map DocChecker.toChecker) true).map
        Report.edits = .ok (List.replicate 4 ⟨3, "int $x The number."⟩) := by decide +kernel
    obtain ⟨report, hreport, hedits⟩ := except_map_eq_ok_iff.mp hedits
    obtain ⟨-, -, -, happly⟩ := edits_never_conflict queueNothing_twoCheckers hreport
    obtain ⟨-, fixed, hfixed⟩ := happly (by decide)
    exact ⟨report, fixed, hreport, hedits, hfixed⟩
  · have hedits : ((wideParam [2, -7]).report (twoCheckers.map DocChecker.toChecker) true).map
        Report.edits = .ok (List.replicate 4 ⟨-6, "int $x The number."⟩) := by decide +kernel
    obtain ⟨report, hreport, hedits⟩ := except_map_eq_ok_iff.mp hedits
    obtain ⟨-, -, hconflict, -⟩ := edits_never_conflict queueNothing_twoCheckers hreport
    refine ⟨report, hreport, hedits, ?_, hconflict⟩
    rw [hedits]
    rfl

/-- The text of the parameter tag is respaced, and the source shows the ink that it showed. -/
theorem wideParam_respaced :
    ∃ fixed report,
      Source.fix (twoCheckers.map DocChecker.toChecker) 1 (wideParam [2]) = .ok (fixed, report) ∧
        (fixed.token? 3).map Token.content = some "int $x The number." ∧
        Text.withoutBlanks fixed.render = Text.withoutBlanks (wideParam [2]).render := by
  have hcontent : (Source.fix (twoCheckers.map DocChecker.toChecker) 1 (wideParam [2])).map
      (fun result => (result.1.token? 3).map Token.content) =
        .ok (some "int $x The number.") := by decide +kernel
  obtain ⟨⟨fixed, report⟩, hfix, hcontent⟩ := except_map_eq_ok_iff.mp hcontent
  obtain ⟨-, -, hrender⟩ := fixing_touches_only_blanks queueNothing_twoCheckers hfix
  exact ⟨fixed, report, hfix, hcontent, hrender⟩

/-! ## Checks that queue edits of their own -/

/-- A file comment with a license tag. -/
def licensedFile : Source :=
  ⟨#[⟨.openTag, "<?php\n", 1, none, none, []⟩, ⟨.docOpen, "/**", 2, none, some 5, [3]⟩,
    ⟨.docString, "Adds.", 3, none, none, []⟩, ⟨.docTag, "@license", 5, none, none, []⟩,
    ⟨.docString, "BSD two clauses", 5, none, none, []⟩, ⟨.docClose, "*/", 6, some 1, none, []⟩]⟩

end Source

/-- The check that tags have a certain text, which is written where they have another one. -/
def TagProcessor.rewriting (text : String) : TagProcessor Audit := fun site _ tags =>
  tags.forM fun tag =>
    match tag.inline? with
    | none => pure ()
    | some inline =>
      if inline.text = text then pure ()
      else Check.post site.source ⟨.error, "Expected %s", tag.position, "WrongText", [.text text],
        site.origin, some ⟨inline.position, text⟩⟩

/-- The checker of the house style that expects a certain license. -/
def DocChecker.licensing (license : String) : DocChecker Audit :=
  { ofConfig {} with processors := [("@license", .rewriting license)] }

namespace Source

/-- Two checkers that expect different licenses have one token rewritten in two ways, and so their
edits cannot be applied. -/
theorem licensedFile_conflicts :
    ∃ report,
      licensedFile.report
          ([DocChecker.licensing "MIT", .licensing "ISC"].map DocChecker.toChecker) true =
        .ok report ∧
      report.edits = [⟨4, "MIT"⟩, ⟨4, "ISC"⟩] ∧
      licensedFile.apply report.edits = .error (.editConflict 4 "MIT" "ISC") := by
  have hedits : (licensedFile.report
      ([DocChecker.licensing "MIT", .licensing "ISC"].map DocChecker.toChecker) true).map
        Report.edits = .ok [⟨4, "MIT"⟩, ⟨4, "ISC"⟩] := by decide +kernel
  obtain ⟨report, hreport, hedits⟩ := except_map_eq_ok_iff.mp hedits
  refine ⟨report, hreport, hedits, ?_⟩
  rw [hedits]
  rfl

/-- A checker that expects a license writes it into the comment, in place of other words. -/
theorem licensedFile_rewritten :
    ∃ fixed report,
      Source.fix ([DocChecker.licensing "MIT"].map DocChecker.toChecker) 1 licensedFile =
        .ok (fixed, report) ∧
      Text.withoutBlanks fixed.render = "<?php/**Adds.@licenseMIT*/" ∧
      Text.withoutBlanks licensedFile.render = "<?php/**Adds.@licenseBSDtwoclauses*/" := by
  have hrender : (Source.fix ([DocChecker.licensing "MIT"].map DocChecker.toChecker) 1
      licensedFile).map (fun result => Text.withoutBlanks result.1.render) =
        .ok "<?php/**Adds.@licenseMIT*/" := by decide +kernel
  obtain ⟨⟨fixed, report⟩, hfix, hrender⟩ := except_map_eq_ok_iff.mp hrender
  exact ⟨fixed, report, hfix, hrender, by decide +kernel⟩

end Source

end DocLint

import DocLint.Proofs.Inspection

/-!
# What reviews may find

A rule that is violated reports it in one way: it names the violation, blames a position, and may
add an edit. Such a report is a `Finding`, and its diagnostic words it with the line of the token
that stands at the position.

This module follows every rule once and lists what it may find and where. The lists say nothing
about when something is found; they bound what can be. Other modules read off them which family a
diagnostic belongs to, where it may stand, and which codes can occur together.

Where a rule can be followed exactly, `Check.Finds` lists what it finds in order, with nothing left
out.
-/

namespace DocLint

open Check

/-- A violation, the position that is blamed for it, and the edit that repairs it. -/
structure Finding where
  /-- The position that is blamed. -/
  position : Int
  /-- What is wrong there. -/
  violation : Violation
  /-- The edit that repairs it, if there is one. -/
  edit? : Option Edit

/-- The diagnostic words the finding: it adds the line of the token at the position. -/
structure Finding.WordedAs (site : Site) (finding : Finding) (diagnostic : Diagnostic) : Prop where
  /-- The line is that of the token. -/
  line : site.source.line finding.position = .ok diagnostic.line
  /-- Everything else is the finding's. -/
  eq : diagnostic = finding.violation.diagnostic site.origin finding.position diagnostic.line
    finding.edit?

namespace Finding.WordedAs

variable {site : Site} {finding : Finding} {diagnostic : Diagnostic}
variable (hworded : finding.WordedAs site diagnostic)

include hworded

theorem position_eq : diagnostic.position = finding.position := by
  rw [hworded.eq]
  rfl

theorem code_eq : diagnostic.code = finding.violation.code := by
  rw [hworded.eq]
  rfl

theorem origin_eq : diagnostic.origin = site.origin := by
  rw [hworded.eq]
  rfl

theorem edit?_eq : diagnostic.edit? = finding.edit? := by
  rw [hworded.eq]
  rfl

end Finding.WordedAs

/-! ## Checks that find only certain things -/

namespace Check

variable {α β : Type} {site : Site} {allowed : Finding → Prop}

/-- All that the check reports are findings of a certain sort. -/
def FindsOnly (site : Site) (allowed : Finding → Prop) (check : Check α) : Prop :=
  ∀ diagnostic ∈ check.diagnostics, ∃ finding, allowed finding ∧ finding.WordedAs site diagnostic

theorem FindsOnly.mono {allowed' : Finding → Prop} {check : Check α}
    (hcheck : check.FindsOnly site allowed)
    (hweaker : ∀ finding, allowed finding → allowed' finding) :
    check.FindsOnly site allowed' := by
  intro diagnostic hdiagnostic
  obtain ⟨finding, hallowed, hworded⟩ := hcheck diagnostic hdiagnostic
  exact ⟨finding, hweaker finding hallowed, hworded⟩

/-- A check that reports nothing finds nothing of another sort. -/
theorem findsOnly_of_silent {check : Check α} (hsilent : check.diagnostics = []) :
    check.FindsOnly site allowed := by
  intro diagnostic hdiagnostic
  rw [hsilent] at hdiagnostic
  cases hdiagnostic

theorem findsOnly_done (value : α) : (done value).FindsOnly site allowed :=
  findsOnly_of_silent rfl

theorem findsOnly_ofExcept (result : Except Fault α) : (ofExcept result).FindsOnly site allowed :=
  findsOnly_of_silent rfl

theorem findsOnly_require (value? : Option α) (fault : Fault) :
    (require value? fault).FindsOnly site allowed := by
  apply findsOnly_of_silent
  cases value? <;> rfl

/-- A sequence finds what its parts find. -/
theorem FindsOnly.bind {check : Check α} {next : α → Check β}
    (hcheck : check.FindsOnly site allowed)
    (hnext : ∀ value, check.outcome = .ok value → (next value).FindsOnly site allowed) :
    (check >>= next).FindsOnly site allowed := by
  intro diagnostic hdiagnostic
  rcases mem_diagnostics_bind hdiagnostic with hfirst | ⟨value, hvalue, hlater⟩
  · exact hcheck diagnostic hfirst
  · exact hnext value hvalue diagnostic hlater

/-- A loop finds what its body finds. -/
theorem findsOnly_forM {items : List α} {body : α → Check Unit}
    (hbody : ∀ item ∈ items, (body item).FindsOnly site allowed) :
    (items.forM body).FindsOnly site allowed := by
  intro diagnostic hdiagnostic
  obtain ⟨item, hitem, hfinds⟩ := exists_of_mem_diagnostics_forM hdiagnostic
  exact hbody item hitem diagnostic hfinds

/-- The check finds things of a certain sort, and it may end with a last finding. -/
def FindsUntil (site : Site) (allowed : Finding → Prop) (last : Finding) (check : Check α) :
    Prop :=
  ∃ front back, check.diagnostics = front ++ back ∧
    (∀ diagnostic ∈ front, ∃ finding, allowed finding ∧ finding.WordedAs site diagnostic) ∧
    (back = [] ∨ ∃ diagnostic, back = [diagnostic] ∧ last.WordedAs site diagnostic)

theorem FindsOnly.findsUntil {last : Finding} {check : Check α}
    (hcheck : check.FindsOnly site allowed) : check.FindsUntil site allowed last :=
  ⟨check.diagnostics, [], (List.append_nil _).symm, hcheck, Or.inl rfl⟩

/-- The last finding counted in. -/
theorem FindsUntil.findsOnly {allowed' : Finding → Prop} {last : Finding} {check : Check α}
    (hcheck : check.FindsUntil site allowed last)
    (hweaker : ∀ finding, allowed finding → allowed' finding) (hlast : allowed' last) :
    check.FindsOnly site allowed' := by
  obtain ⟨front, back, hsplit, hfront, hback⟩ := hcheck
  intro diagnostic hdiagnostic
  rw [hsplit] at hdiagnostic
  rcases List.mem_append.mp hdiagnostic with hearlier | hlater
  · obtain ⟨finding, hallowed, hworded⟩ := hfront diagnostic hearlier
    exact ⟨finding, hweaker finding hallowed, hworded⟩
  · rcases hback with rfl | ⟨final, rfl, hworded⟩
    · cases hlater
    · obtain rfl := List.mem_singleton.mp hlater
      exact ⟨last, hlast, hworded⟩

/-- What comes before a last finding only adds to what is found before it. -/
theorem FindsOnly.bind_findsUntil {last : Finding} {check : Check α} {next : α → Check β}
    (hcheck : check.FindsOnly site allowed)
    (hnext : ∀ value, (next value).FindsUntil site allowed last) :
    (check >>= next).FindsUntil site allowed last := by
  rcases check with ⟨diagnostics, fault | value⟩
  · exact hcheck.findsUntil
  · obtain ⟨front, back, hsplit, hfront, hback⟩ := hnext value
    refine ⟨diagnostics ++ front, back, ?_, ?_, hback⟩
    · rw [bind_ok, hsplit, List.append_assoc]
    · intro diagnostic hdiagnostic
      rcases List.mem_append.mp hdiagnostic with hearlier | hlater
      · exact hcheck diagnostic hearlier
      · exact hfront diagnostic hlater

end Check

namespace Site

variable {site : Site} {allowed : Finding → Prop} {position : Int} {violation : Violation}

theorem findsOnly_line : (site.line position).FindsOnly site allowed :=
  findsOnly_ofExcept _

/-- A report is one finding, if it is made at all. -/
theorem blame_eq_fail_or_found (site : Site) (position : Int) (violation : Violation)
    (edit? : Option Edit) :
    (∃ fault, site.blame position violation edit? = fail fault) ∨
      ∃ diagnostic, site.blame position violation edit? = found diagnostic ∧
        (Finding.mk position violation edit?).WordedAs site diagnostic := by
  rw [blame_eq]
  cases hline : site.source.line position with
  | error fault => exact Or.inl ⟨fault, rfl⟩
  | ok line => exact Or.inr ⟨_, rfl, hline, rfl⟩

theorem findsOnly_blame {edit? : Option Edit} (hfinding : allowed ⟨position, violation, edit?⟩) :
    (site.blame position violation edit?).FindsOnly site allowed := by
  rcases site.blame_eq_fail_or_found position violation edit? with
    ⟨fault, hblame⟩ | ⟨diagnostic, hblame, hworded⟩
  · rw [hblame]
    exact findsOnly_of_silent rfl
  · rw [hblame]
    intro other hother
    obtain rfl := List.mem_singleton.mp hother
    exact ⟨_, hfinding, hworded⟩

theorem findsOnly_expectOrEdit {condition : Bool} {edit? : Option Edit}
    (hfinding : allowed ⟨position, violation, edit?⟩) :
    (site.expectOrEdit condition position violation edit?).FindsOnly site allowed := by
  rw [expectOrEdit]
  split
  · exact findsOnly_done ()
  · exact findsOnly_blame hfinding

theorem findsOnly_expect {condition : Bool} (hfinding : allowed ⟨position, violation, none⟩) :
    (site.expect condition position violation).FindsOnly site allowed :=
  findsOnly_expectOrEdit hfinding

end Site

/-! ## Checks that find exactly certain things -/

namespace Check

variable {site : Site} {findings more : List Finding}

/-- The check ends well and reports the given findings, in order and nothing else. -/
structure Finds (site : Site) (findings : List Finding) (check : Check Unit) : Prop where
  /-- It ends well. -/
  succeeds : check.Succeeds
  /-- Its diagnostics word the findings one by one. -/
  worded : List.Forall₂ (Finding.WordedAs site) findings check.diagnostics

theorem finds_done : (done ()).Finds site [] :=
  ⟨succeeds_done (), .nil⟩

/-- A sequence finds what its parts find, one after the other. -/
theorem Finds.bind {check : Check Unit} {next : Unit → Check Unit}
    (hcheck : check.Finds site findings) (hnext : (next ()).Finds site more) :
    (check >>= next).Finds site (findings ++ more) := by
  refine ⟨hcheck.succeeds.bind fun _ _ => hnext.succeeds, ?_⟩
  rw [diagnostics_bind (succeeds_iff_outcome.mp hcheck.succeeds)]
  exact List.rel_append hcheck.worded hnext.worded

end Check

/-- A violated condition is one finding where a token stands. -/
theorem Site.finds_expectOrEdit {site : Site} {position : Int} (hholds : site.source.Holds position)
    (condition : Bool) (violation : Violation) (edit? : Option Edit) :
    (site.expectOrEdit condition position violation edit?).Finds site
      (if condition then [] else [⟨position, violation, edit?⟩]) := by
  cases condition with
  | true => exact finds_done
  | false =>
    refine ⟨Site.succeeds_expectOrEdit hholds _ _ _, ?_⟩
    obtain ⟨token, hat⟩ := hholds
    rw [expectOrEdit, if_neg Bool.false_ne_true, blame_eq, Source.line_of_token? hat]
    exact .cons ⟨Source.line_of_token? hat, rfl⟩ .nil

theorem Site.finds_expect {site : Site} {position : Int} (hholds : site.source.Holds position)
    (condition : Bool) (violation : Violation) :
    (site.expect condition position violation).Finds site
      (if condition then [] else [⟨position, violation, none⟩]) :=
  Site.finds_expectOrEdit hholds condition violation none

/-! ## Gates

A review goes through a gate only if a condition holds. Otherwise the violation of the condition is
the last thing that it finds.
-/

namespace Check

variable {α : Type} {site : Site} {allowed : Finding → Prop} {last : Finding}

/-- The check lets a review go on, or it reports one finding and stops it, or it breaks off. -/
def IsGate (site : Site) (last : Finding) (check : Check Bool) : Prop :=
  (∃ fault, check = fail fault) ∨ check = done true ∨
    ∃ diagnostic, check = ⟨[diagnostic], .ok false⟩ ∧ last.WordedAs site diagnostic

/-- A condition whose answer is passed on is a gate. -/
theorem isGate_expect {condition : Bool} {position : Int} {violation : Violation} :
    (site.expect condition position violation >>= fun _ => pure condition).IsGate site
      ⟨position, violation, none⟩ := by
  cases condition with
  | true => exact Or.inr (Or.inl rfl)
  | false =>
    have hexpect : site.expect false position violation = site.blame position violation none := rfl
    rw [hexpect]
    rcases site.blame_eq_fail_or_found position violation none with
      ⟨fault, hblame⟩ | ⟨diagnostic, hblame, hworded⟩
    · rw [hblame]
      exact Or.inl ⟨fault, rfl⟩
    · rw [hblame]
      exact Or.inr (Or.inr ⟨diagnostic, rfl, hworded⟩)

/-- A gate finds one thing at most. -/
theorem IsGate.findsOnly {gate : Check Bool} (hgate : gate.IsGate site last)
    (hlast : allowed last) : gate.FindsOnly site allowed := by
  rcases hgate with ⟨fault, rfl⟩ | rfl | ⟨diagnostic, rfl, hworded⟩
  · exact findsOnly_of_silent rfl
  · exact findsOnly_done true
  · intro other hother
    obtain rfl := List.mem_singleton.mp hother
    exact ⟨last, hlast, hworded⟩

/-- What is looked up before a gate belongs to it. -/
theorem isGate_ofExcept_bind {result : Except Fault α} {next : α → Check Bool}
    (hnext : ∀ value, (next value).IsGate site last) :
    (ofExcept result >>= next).IsGate site last := by
  cases result with
  | error fault => exact Or.inl ⟨fault, rfl⟩
  | ok value =>
    rw [ofExcept_ok_bind]
    exact hnext value

theorem isGate_require_bind {value? : Option α} {fault : Fault} {next : α → Check Bool}
    (hnext : ∀ value, (next value).IsGate site last) :
    (require value? fault >>= next).IsGate site last := by
  cases value? with
  | none => exact Or.inl ⟨fault, rfl⟩
  | some value =>
    rw [require_some_bind]
    exact hnext value

/-- Beyond a gate a review goes on, or it ends with what the gate has found. -/
theorem IsGate.findsUntil_or_ends {gate : Check Bool} {next : Bool → Check Unit} {final : Finding}
    (hgate : gate.IsGate site last) (hstop : next false = done ())
    (hnext : (next true).FindsUntil site allowed final) :
    (gate >>= next).FindsUntil site allowed final ∨
      ∃ diagnostic, (gate >>= next).diagnostics = [diagnostic] ∧
        last.WordedAs site diagnostic := by
  rcases hgate with ⟨fault, rfl⟩ | rfl | ⟨diagnostic, rfl, hworded⟩
  · exact Or.inl (findsOnly_of_silent rfl).findsUntil
  · rw [done_bind]
    exact Or.inl hnext
  · refine Or.inr ⟨diagnostic, ?_, hworded⟩
    rw [bind_ok, hstop]
    rfl

theorem IsGate.findsUntil_bind {gate : Check Bool} {next : Bool → Check Unit}
    (hgate : gate.IsGate site last) (hstop : next false = done ())
    (hnext : (next true).FindsOnly site allowed) :
    (gate >>= next).FindsUntil site allowed last := by
  rcases hgate.findsUntil_or_ends hstop hnext.findsUntil with huntil | ⟨diagnostic, hends, hworded⟩
  · exact huntil
  · exact ⟨[], [diagnostic], hends, nofun, Or.inr ⟨diagnostic, rfl, hworded⟩⟩

end Check

/-! ## Rules -/

namespace Rule

variable {site : Site} {block : Block} {allowed : Finding → Prop}

theorem findsOnly_firstLine (hfinding : allowed ⟨block.opener + 1, .spacingBeforeShort, none⟩) :
    (firstLine site block).FindsOnly site allowed := by
  apply (findsOnly_require _ _).bind
  intro _ _
  apply Site.findsOnly_line.bind
  intro _ _
  exact Site.findsOnly_expect hfinding

theorem findsOnly_shortCapital {policy : Capitalization}
    (hfinding : ∀ short ∈ block.short?, allowed ⟨short.first.position, .shortNotCapital, none⟩) :
    (shortCapital site block policy).FindsOnly site allowed := by
  rw [shortCapital]
  split
  · exact findsOnly_done ()
  · rename_i short hshort
    exact Site.findsOnly_expect (hfinding short hshort)

theorem findsOnly_shortFullStop (hfinding : allowed ⟨block.opener, .missingShortFullStop, none⟩) :
    (shortFullStop site block).FindsOnly site allowed := by
  rw [shortFullStop]
  split
  · exact findsOnly_done ()
  · exact Site.findsOnly_expect hfinding

theorem findsOnly_shortOnOneLine
    (hfinding : allowed ⟨block.opener + 1, .shortSingleLine, none⟩) :
    (shortOnOneLine site block).FindsOnly site allowed := by
  rw [shortOnOneLine]
  split
  · exact findsOnly_done ()
  · exact Site.findsOnly_expect hfinding

theorem findsOnly_longDescription {policy : Capitalization}
    (hspacing : ∀ long ∈ block.long?,
      allowed ⟨long.first.position, .spacingBetweenDescriptions, none⟩)
    (hcapital : ∀ long ∈ block.long?, allowed ⟨long.first.position, .longNotCapital, none⟩)
    (hstop : allowed ⟨block.opener, .missingLongFullStop, none⟩) :
    (longDescription site block policy).FindsOnly site allowed := by
  rw [longDescription.eq_def]
  split
  · rename_i short long _ hlong
    apply (Site.findsOnly_expect (hspacing long hlong)).bind
    intro _ _
    apply (Site.findsOnly_expect (hcapital long hlong)).bind
    intro _ _
    exact Site.findsOnly_expect hstop
  · exact findsOnly_done ()

theorem findsOnly_blankLineBefore {tag : Tag} {violation : Violation}
    (hfinding : allowed ⟨tag.position, violation, none⟩) :
    (blankLineBefore site block tag violation).FindsOnly site allowed := by
  apply (findsOnly_require _ _).bind
  intro _ _
  exact Site.findsOnly_expect hfinding

theorem findsOnly_blankLineBeforeTags
    (hfinding : ∀ tag ∈ block.tags, allowed ⟨tag.position, .spacingBeforeTags, none⟩) :
    (blankLineBeforeTags site block).FindsOnly site allowed := by
  rw [blankLineBeforeTags]
  split
  · exact findsOnly_done ()
  · rename_i tag rest htags
    split
    · exact findsOnly_done ()
    · apply findsOnly_blankLineBefore
      apply hfinding
      rw [htags]
      exact List.mem_cons_self

theorem findsOnly_blankLineBeforeParams
    (hfinding : ∀ tag ∈ block.tags, allowed ⟨tag.position, .spacingBeforeFirstParam, none⟩) :
    (blankLineBeforeParams site block).FindsOnly site allowed := by
  rw [blankLineBeforeParams]
  split
  · exact findsOnly_done ()
  · rename_i param rest hparams
    split
    · exact findsOnly_done ()
    · have hparam : param ∈ block.tagsNamed "@param" := by
        rw [hparams]
        exact List.mem_cons_self
      apply findsOnly_blankLineBefore
      exact hfinding param (Block.mem_tagsNamed.mp hparam).1

theorem isGate_shortDescription {present : Bool} {construct : String} :
    (shortDescription site block present construct).IsGate site
      ⟨block.opener, .missingShortDescription construct, none⟩ :=
  isGate_expect

/-! ### Layout -/

theorem isGate_closerAlone :
    (closerAlone site block).IsGate site ⟨block.opener, .closeTagOwnLine, none⟩ :=
  isGate_require_bind fun _ => isGate_ofExcept_bind fun _ => isGate_expect

theorem findsOnly_noBlankBeforeCloser
    (hfinding : allowed ⟨block.closer, .spacingBeforeClose, none⟩) :
    (noBlankBeforeCloser site block).FindsOnly site allowed := by
  apply Site.findsOnly_line.bind
  intro _ _
  apply (findsOnly_require _ _).bind
  intro _ _
  exact Site.findsOnly_expect hfinding

theorem findsOnly_noBlankAfterComment {construct : String}
    (hfinding : allowed ⟨block.closer, .spacingAfter construct, none⟩) :
    (noBlankAfterComment site block construct).FindsOnly site allowed := by
  apply Site.findsOnly_line.bind
  intro _ _
  apply Site.findsOnly_line.bind
  intro _ _
  exact Site.findsOnly_expect hfinding

theorem findsOnly_rightBelowOpenTag
    (hfinding : allowed ⟨belowOpenTag site.source site.anchor, .spacingBeforeComment, none⟩) :
    (rightBelowOpenTag site block).FindsOnly site allowed := by
  apply Site.findsOnly_line.bind
  intro _ _
  apply Site.findsOnly_line.bind
  intro _ _
  exact Site.findsOnly_expect hfinding

theorem findsOnly_blankLineAfterFileComment
    (hfinding : allowed ⟨block.closer + 1, .spacingAfterComment, none⟩) :
    (blankLineAfterFileComment site block).FindsOnly site allowed := by
  rw [blankLineAfterFileComment]
  split
  · exact findsOnly_done ()
  · apply Site.findsOnly_line.bind
    intro _ _
    exact Site.findsOnly_expect hfinding

/-! ### The table of tags -/

/-- What the rules about the table of tags may find. -/
inductive TableFinding (block : Block) (construct : String) : Finding → Prop
  /-- A tag is present again. -/
  | duplicate {tag : Tag} (htag : tag ∈ block.tags) :
    TableFinding block construct ⟨tag.position, .duplicateTag tag.name construct, none⟩
  /-- A tag has no text. -/
  | empty {tag : Tag} (htag : tag ∈ block.tags) :
    TableFinding block construct ⟨tag.position, .emptyTag tag.name construct, none⟩
  /-- A required tag is not present. -/
  | missing (name : String) :
    TableFinding block construct ⟨block.closer, .missingTag name construct, none⟩
  /-- A tag is out of order. -/
  | order {tag : Tag} (htag : tag ∈ block.tags) (place : Nat) (name : String) :
    TableFinding block construct ⟨tag.position, .tagOrder place name, none⟩
  /-- The last copyright tag is blamed for all of them. -/
  | copyright {tag : Tag} (htag : tag ∈ block.tags) (startYear : Int) (currentYear? : Option Int)
      (holder : String) :
    TableFinding block construct
      ⟨tag.position, .incorrectCopyright startYear currentYear? holder, none⟩
  /-- A license tag is incomplete. -/
  | license {tag : Tag} (htag : tag ∈ block.tags) :
    TableFinding block construct ⟨tag.position, .incompleteLicense, none⟩

/-- Tags that are looked at one by one may be present again or have no text. -/
theorem findsOnly_tagOccurrences {construct : String} {tags : List Tag}
    (hduplicate : ∀ tag ∈ tags, allowed ⟨tag.position, .duplicateTag tag.name construct, none⟩)
    (hempty : ∀ tag ∈ tags, allowed ⟨tag.position, .emptyTag tag.name construct, none⟩)
    (specs : List TagSpec) (earlier : List Tag) :
    (tagOccurrences site specs construct earlier tags).FindsOnly site allowed := by
  induction tags generalizing earlier with
  | nil => exact findsOnly_done ()
  | cons tag rest ih =>
    have hfirst : (tagOccurrence site specs construct earlier tag).FindsOnly site allowed := by
      apply (Site.findsOnly_expect (hduplicate tag List.mem_cons_self)).bind
      intro _ _
      exact Site.findsOnly_expect (hempty tag List.mem_cons_self)
    apply hfirst.bind
    intro _ _
    exact ih (fun other hother => hduplicate other (List.mem_cons_of_mem tag hother))
      (fun other hother => hempty other (List.mem_cons_of_mem tag hother)) _

theorem findsOnly_copyright {tags : List Tag}
    (hfinding : ∀ tag ∈ tags, ∀ startYear currentYear? holder,
      allowed ⟨tag.position, .incorrectCopyright startYear currentYear? holder, none⟩) :
    (copyright site block tags).FindsOnly site allowed := by
  rw [copyright]
  split
  · exact findsOnly_done ()
  · apply (findsOnly_require _ _).bind
    intro last hlast
    have hmem : last ∈ tags := by
      cases htail : tags.getLast? with
      | none =>
        rw [htail] at hlast
        cases hlast
      | some tag =>
        rw [htail] at hlast
        obtain rfl := Except.ok.inj hlast
        exact List.mem_of_getLast? htail
    exact Site.findsOnly_blame (hfinding last hmem _ _ _)

theorem findsOnly_license {tags : List Tag}
    (hfinding : ∀ tag ∈ tags, allowed ⟨tag.position, .incompleteLicense, none⟩) :
    (license site block tags).FindsOnly site allowed := by
  apply findsOnly_forM
  intro tag htag
  split
  · exact findsOnly_done ()
  · exact Site.findsOnly_expect (hfinding tag htag)

theorem findsOnly_processTags {tags : List Tag}
    (hcopyright : ∀ tag ∈ tags, ∀ startYear currentYear? holder,
      allowed ⟨tag.position, .incorrectCopyright startYear currentYear? holder, none⟩)
    (hlicense : ∀ tag ∈ tags, allowed ⟨tag.position, .incompleteLicense, none⟩) (name : String) :
    (processTags site block .builtIn name tags).FindsOnly site allowed := by
  rw [processTags, Processors.builtIn]
  simp only [List.lookup_cons, List.lookup_nil]
  cases name == "@copyright" with
  | true => exact findsOnly_copyright hcopyright
  | false =>
    cases name == "@license" with
    | true => exact findsOnly_license hlicense
    | false => exact findsOnly_done ()

section Table

variable {construct : String}
variable (hallowed : ∀ finding, TableFinding block construct finding → allowed finding)

include hallowed

theorem findsOnly_tagOrder {rest : List Tag} (hrest : ∀ tag ∈ rest, tag ∈ block.tags) (place : Nat)
    (specs : List TagSpec) :
    (tagOrder site block construct .builtIn place rest specs).FindsOnly site allowed := by
  induction specs generalizing place rest with
  | nil => exact findsOnly_done ()
  | cons spec specs ih =>
    rw [tagOrder.eq_def]
    dsimp only
    split
    · apply (Site.findsOnly_expect (hallowed _ (.missing spec.name))).bind
      intro _ _
      exact ih hrest place
    · have hnamed : ∀ tag ∈ block.tagsNamed spec.name, tag ∈ block.tags :=
        fun tag htag => (Block.mem_tagsNamed.mp htag).1
      have hprocess : (processTags site block .builtIn spec.name
          (block.tagsNamed spec.name)).FindsOnly site allowed := by
        apply findsOnly_processTags
        · intro tag htag _ _ _
          exact hallowed _ (.copyright (hnamed tag htag) _ _ _)
        · intro tag htag
          exact hallowed _ (.license (hnamed tag htag))
      apply hprocess.bind
      intro _ _
      cases rest with
      | nil => exact findsOnly_done ()
      | cons tag others =>
        have htag := hrest tag List.mem_cons_self
        apply (Site.findsOnly_expect (hallowed _ (.order htag (place + 1) spec.name))).bind
        intro _ _
        apply ih
        intro other hother
        exact hrest other (List.mem_cons_of_mem tag ((List.dropWhile_sublist _).mem hother))

theorem findsOnly_tagTable (specs : List TagSpec) :
    (tagTable site block specs construct .builtIn).FindsOnly site allowed := by
  have htable : ∀ tag ∈ tableTags specs block, tag ∈ block.tags :=
    fun tag htag => (List.mem_filter.mp htag).1
  apply (findsOnly_tagOccurrences (fun tag htag => hallowed _ (.duplicate (htable tag htag)))
    (fun tag htag => hallowed _ (.empty (htable tag htag))) specs []).bind
  intro _ _
  exact findsOnly_tagOrder hallowed htable 0 specs

end Table

/-! ### Tags of a function comment -/

theorem findsOnly_see (hfinding : ∀ tag ∈ block.tags, allowed ⟨tag.position, .emptySees, none⟩) :
    (see site block).FindsOnly site allowed := by
  apply findsOnly_forM
  intro tag htag
  exact Site.findsOnly_expect (hfinding tag (Block.mem_tagsNamed.mp htag).1)

/-- What the rule about throws tags may find for one of them. -/
inductive ThrowsFinding (tag : Tag) : Finding → Prop
  /-- The tag names no exception. -/
  | invalid : ThrowsFinding tag ⟨tag.position, .invalidThrows, none⟩
  /-- The tag has no comment. -/
  | empty : ThrowsFinding tag ⟨tag.position, .emptyThrows, none⟩
  /-- The comment begins wrongly. -/
  | capital {inline : Inline} (hinline : tag.inline? = some inline) :
    ThrowsFinding tag ⟨inline.position, .throwsNotCapital, none⟩
  /-- The comment ends wrongly. -/
  | fullStop {inline : Inline} (hinline : tag.inline? = some inline) :
    ThrowsFinding tag ⟨inline.position, .throwsMissingFullStop, none⟩

theorem findsOnly_throwsTag {policy : Capitalization} {tag : Tag}
    (hallowed : ∀ finding, ThrowsFinding tag finding → allowed finding) :
    (throwsTag site policy tag).FindsOnly site allowed := by
  rw [throwsTag.eq_def]
  split
  · rename_i inline text hinline _
    split
    · exact Site.findsOnly_blame (hallowed _ .empty)
    · apply (Site.findsOnly_expect (hallowed _ (.capital hinline))).bind
      intro _ _
      exact Site.findsOnly_expect (hallowed _ (.fullStop hinline))
  · exact Site.findsOnly_blame (hallowed _ .invalid)

theorem findsOnly_throws {policy : Capitalization}
    (hallowed : ∀ tag ∈ block.tagsNamed "@throws", ∀ finding, ThrowsFinding tag finding →
      allowed finding) :
    (throws site block policy).FindsOnly site allowed := by
  apply findsOnly_forM
  intro tag htag
  exact findsOnly_throwsTag (hallowed tag htag)

/-- What the rule about return tags may find. Which of the two it is depends on their number. -/
inductive ReturnFinding (block : Block) : Finding → Prop
  /-- The only return tag names no type. -/
  | untyped {tag : Tag} (hreturns : block.tagsNamed "@return" = [tag]) :
    ReturnFinding block ⟨tag.position, .missingReturnType, none⟩
  /-- There is a second return tag. -/
  | second {first second : Tag} {rest : List Tag}
      (hreturns : block.tagsNamed "@return" = first :: second :: rest) :
    ReturnFinding block ⟨second.position, .duplicateReturn, none⟩

theorem findsOnly_returns {name? : Option String}
    (hallowed : ∀ finding, ReturnFinding block finding → allowed finding) :
    (returns site block name?).FindsOnly site allowed := by
  rw [returns]
  split
  · exact findsOnly_done ()
  · split
    · exact findsOnly_done ()
    · rename_i hreturns
      exact Site.findsOnly_expect (hallowed _ (.untyped hreturns))
    · rename_i hreturns
      exact Site.findsOnly_blame (hallowed _ (.second hreturns))

/-! ### Parameter tags -/

/-- What the rules about parameter tags may find. -/
inductive ParamFinding (block : Block) : Finding → Prop
  /-- A tag names no type. -/
  | untyped {tag : Tag} (htag : tag ∈ block.tagsNamed "@param") :
    ParamFinding block ⟨tag.position, .missingParamType, none⟩
  /-- A tag names no variable. -/
  | unnamed {tag : Tag} (htag : tag ∈ block.tagsNamed "@param") :
    ParamFinding block ⟨tag.position, .missingParamName, none⟩
  /-- The blanks around the type are wrong; the edit respaces the text on the tag's line. -/
  | typeSpace {tag : Tag} (htag : tag ∈ block.tagsNamed "@param") (actual : Nat) :
    ParamFinding block ⟨tag.position, .spacingAfterParamType ParamText.fieldSpace actual,
      (ParamTag.ofTag tag).canonicalEdit?⟩
  /-- The blanks after the variable are wrong; the edit respaces the text on the tag's line. -/
  | nameSpace {tag : Tag} (htag : tag ∈ block.tagsNamed "@param") (actual : Nat) :
    ParamFinding block ⟨tag.position, .spacingAfterParamName ParamText.fieldSpace actual,
      (ParamTag.ofTag tag).canonicalEdit?⟩
  /-- The variable is the declared one in other letter case. -/
  | otherCase {tag : Tag} (htag : tag ∈ block.tagsNamed "@param") (documented declared : String) :
    ParamFinding block ⟨tag.position, .paramNameNoCaseMatch documented declared, none⟩
  /-- The variable is another one than declared. -/
  | otherName {tag : Tag} (htag : tag ∈ block.tagsNamed "@param") (documented declared : String) :
    ParamFinding block ⟨tag.position, .paramNameNoMatch documented declared, none⟩
  /-- No parameter is left for the tag. -/
  | extra {tag : Tag} (htag : tag ∈ block.tagsNamed "@param") :
    ParamFinding block ⟨tag.position, .extraParamComment, none⟩
  /-- A parameter has no tag, for which the opener is blamed. -/
  | undocumented (declared : String) :
    ParamFinding block ⟨block.opener, .missingParamTag declared, none⟩

section Params

variable (hallowed : ∀ finding, ParamFinding block finding → allowed finding)

include hallowed

theorem findsOnly_param {tag : Tag} (htag : tag ∈ block.tagsNamed "@param")
    (declared? : Option String) :
    (param site declared? (.ofTag tag)).FindsOnly site allowed := by
  have hname : (paramName site declared? (.ofTag tag)).FindsOnly site allowed := by
    rw [paramName.eq_def]
    split
    · apply Site.findsOnly_expect
      rw [nameMismatch]
      split
      · exact hallowed _ (.otherCase htag _ _)
      · exact hallowed _ (.otherName htag _ _)
    · exact Site.findsOnly_expect (hallowed _ (.extra htag))
  rw [param]
  split
  · apply (Site.findsOnly_expectOrEdit (hallowed _ (.typeSpace htag _))).bind
    intro _ _
    apply hname.bind
    intro _ _
    exact Site.findsOnly_expectOrEdit (hallowed _ (.nameSpace htag _))
  · exact findsOnly_done ()

theorem findsOnly_paramPairs {tags : List Tag}
    (htags : ∀ tag ∈ tags, tag ∈ block.tagsNamed "@param") (declared : List String) :
    (paramPairs site declared (tags.map .ofTag)).FindsOnly site allowed := by
  induction tags generalizing declared with
  | nil => exact findsOnly_done ()
  | cons tag rest ih =>
    rw [List.map_cons, paramPairs]
    apply (findsOnly_param hallowed (htags tag List.mem_cons_self) _).bind
    intro _ _
    exact ih (fun other hother => htags other (List.mem_cons_of_mem tag hother)) _

theorem findsOnly_params : (params site block).FindsOnly site allowed := by
  have hfields : ((paramTags block).forM (paramFields site)).FindsOnly site allowed := by
    apply findsOnly_forM
    intro param hparam
    obtain ⟨tag, htag, rfl⟩ := List.mem_map.mp hparam
    apply (Site.findsOnly_expect (hallowed _ (.untyped htag))).bind
    intro _ _
    exact Site.findsOnly_expect (hallowed _ (.unnamed htag))
  rw [params]
  apply hfields.bind
  intro _ _
  apply (findsOnly_ofExcept _).bind
  intro declared _
  apply (findsOnly_paramPairs hallowed (fun _ htag => htag) declared).bind
  intro _ _
  split
  · apply findsOnly_forM
    intro name _
    exact Site.findsOnly_expect (hallowed _ (.undocumented name))
  · exact findsOnly_done ()

end Params

end Rule

end DocLint

import DocLint.Proofs.Inspection
import DocLint.Proofs.References

/-!
# Violations are never faults

A violated rule is reported and the checks go on. This module shows that nothing else happens
either: where the references of a source are right as far as they are present, a pass and the whole
of fixing end, unless a reference is missing that a check needs. Then the fault says which one. So
no rule looks where no token stands, no search comes back empty where a token is needed, every
message can be written, every walk ends and no two edits disagree. If nothing is missing, every pass
has a report and fixing has a result.

Rules look around the comment that they check: at its ends, at the token after its opener, at what
stands before a tag. `Block.Framed` is what they need to know, and it holds of every comment that is
found.
-/

namespace DocLint

open Check

/-! ## Checks that break off for one reason only -/

namespace Check

variable {α β : Type} {allowed : Fault → Prop}

/-- The check breaks off with faults of a certain sort only. -/
def FailsOnly (allowed : Fault → Prop) (check : Check α) : Prop :=
  ∀ fault, check.outcome = .error fault → allowed fault

theorem Succeeds.failsOnly {check : Check α} (hsucceeds : check.Succeeds) :
    check.FailsOnly allowed := by
  intro fault hfault
  obtain ⟨value, hvalue⟩ := hsucceeds
  rw [hvalue] at hfault
  cases hfault

theorem FailsOnly.bind {check : Check α} {next : α → Check β} (hcheck : check.FailsOnly allowed)
    (hnext : ∀ value, check.outcome = .ok value → (next value).FailsOnly allowed) :
    (check >>= next).FailsOnly allowed := by
  intro fault hfault
  rcases check with ⟨diagnostics, broken | value⟩
  · rw [bind_error] at hfault
    exact hcheck fault (congrArg Except.error (Except.error.inj hfault))
  · rw [bind_ok] at hfault
    exact hnext value rfl fault hfault

theorem failsOnly_forM {items : List α} {body : α → Check Unit}
    (hbody : ∀ item ∈ items, (body item).FailsOnly allowed) :
    (items.forM body).FailsOnly allowed := by
  induction items with
  | nil => exact (succeeds_done ()).failsOnly
  | cons item items ih =>
    apply (hbody item List.mem_cons_self).bind
    intro _ _
    exact ih fun other hother => hbody other (List.mem_cons_of_mem item hother)

end Check

/-! ## Around a comment -/

namespace Block.Framed

variable {source : Source} {block : Block} (hframed : block.Framed source)

include hframed

theorem front : 0 ≤ block.opener := by
  obtain ⟨slot, hslot, hposition, -⟩ := hframed.opens
  rw [← hposition]
  exact (Source.bounds_of_mem_slots hslot).1

/-- A token stands at every position of the comment. -/
theorem holds {position : Int} (hlow : block.opener ≤ position) (hhigh : position ≤ block.closer) :
    source.Holds position := by
  have hfront := hframed.front
  have hinside := hframed.inside
  have hsize : position < source.size := by omega
  exact Source.exists_token?_of_lt_size (by omega) hsize

theorem holds_opener : source.Holds block.opener :=
  hframed.holds (Int.le_refl _) (Int.le_of_lt hframed.before)

theorem holds_closer : source.Holds block.closer :=
  hframed.holds (Int.le_of_lt hframed.before) (Int.le_refl _)

theorem holds_afterOpener : source.Holds (block.opener + 1) :=
  hframed.holds (by omega) hframed.before

/-- Before every position of the comment there is content, for its opener is. -/
theorem isSome_contentBefore? {site : Site} (hsource : site.source = source) {position : Int}
    (hafter : block.opener < position) :
    (Rule.contentBefore? site block position).isSome = true := by
  obtain ⟨slot, hslot, hposition, hkind⟩ := hframed.opens
  rw [Option.isSome_iff_ne_none]
  intro hnone
  rw [Rule.contentBefore?, hsource] at hnone
  have hfiller := Source.prev?_eq_none_iff.mp hnone slot hslot (Int.le_of_eq hposition.symm)
    (by omega)
  rw [hkind] at hfiller
  cases hfiller

end Block.Framed

section Framed

variable {site : Site} {block : Block} (hstands : block.Stands site.source)
variable (hframed : block.Framed site.source)

/-! ## Rules -/

namespace Rule

include hstands hframed

theorem succeeds_blankLineBefore_of_mem {tag : Tag} (htag : tag ∈ block.tags)
    (violation : Violation) : (blankLineBefore site block tag violation).Succeeds :=
  succeeds_blankLineBefore violation (hframed.isSome_contentBefore? rfl (hframed.tags tag htag))
    (hstands.tags tag htag).position

theorem succeeds_blankLineBeforeTags : (blankLineBeforeTags site block).Succeeds := by
  rw [blankLineBeforeTags]
  split
  · exact succeeds_done ()
  · rename_i tag rest htags
    split
    · exact succeeds_done ()
    · apply succeeds_blankLineBefore_of_mem hstands hframed
      rw [htags]
      exact List.mem_cons_self

theorem succeeds_blankLineBeforeParams : (blankLineBeforeParams site block).Succeeds := by
  rw [blankLineBeforeParams]
  split
  · exact succeeds_done ()
  · rename_i tag rest htags
    split
    · exact succeeds_done ()
    · apply succeeds_blankLineBefore_of_mem hstands hframed
      have hmem : tag ∈ block.tagsNamed "@param" := htags ▸ List.mem_cons_self
      exact (Block.mem_tagsNamed.mp hmem).1

theorem succeeds_tagOrder (construct : String) (place : Nat) {rest : List Tag}
    (hrest : ∀ tag ∈ rest, tag.Stands site.source) (specs : List TagSpec) :
    (tagOrder site block construct .builtIn place rest specs).Succeeds := by
  induction specs generalizing place rest with
  | nil => exact succeeds_done ()
  | cons spec specs ih =>
    have hnamed : ∀ tag ∈ block.tagsNamed spec.name, tag.Stands site.source :=
      fun tag htag => hstands.tags tag (Block.mem_tagsNamed.mp htag).1
    rw [tagOrder.eq_def]
    dsimp only
    split
    · apply (Site.succeeds_expect hframed.holds_closer _ _).bind
      intro _ _
      exact ih place hrest
    · rename_i tags hsome
      apply (succeeds_processTags hnamed hsome spec.name).bind
      intro _ _
      cases rest with
      | nil => exact succeeds_done ()
      | cons first others =>
        apply (Site.succeeds_expect (hrest first List.mem_cons_self).position _ _).bind
        intro _ _
        apply ih
        intro tag htag
        exact hrest tag (List.mem_cons_of_mem first ((List.dropWhile_sublist _).mem htag))

theorem succeeds_tagTable (specs : List TagSpec) (construct : String) :
    (tagTable site block specs construct .builtIn).Succeeds := by
  have htable : ∀ tag ∈ tableTags specs block, tag.Stands site.source :=
    fun tag htag => hstands.tags tag (List.mem_filter.mp htag).1
  apply (succeeds_tagOccurrences specs construct [] htable).bind
  intro _ _
  exact succeeds_tagOrder hstands hframed construct 0 htable specs

end Rule

/-! ## Reviews -/

namespace Review

include hstands hframed

/-- The review of a file comment ends. -/
theorem succeeds_file (hfront : 0 ≤ site.anchor) (hanchor : site.source.Holds site.anchor) :
    (file site .builtIn block).Succeeds := by
  have hcloser := Int.le_of_lt (Int.lt_of_le_of_lt hframed.front hframed.before)
  apply (Rule.succeeds_rightBelowOpenTag hfront hframed.holds_opener hanchor).bind
  intro _ _
  apply (Rule.succeeds_blankLineAfterFileComment hcloser hframed.holds_closer).bind
  intro _ _
  apply (Rule.succeeds_shortDescription hframed.holds_opener _ _).bind
  intro described _
  split
  · exact Rule.succeeds_tagTable hstands hframed _ _
  · exact succeeds_done ()

theorem succeeds_classBody (hanchor : site.source.Holds site.anchor)
    (hfirst : block.firstContent?.isSome = true) (construct : String) :
    (classBody site block construct).Succeeds := by
  have hlast : (Rule.lastContent? site block).isSome = true :=
    hframed.isSome_contentBefore? rfl hframed.before
  apply (Rule.succeeds_firstLine hfirst hframed.holds_opener hframed.holds_afterOpener).bind
  intro _ _
  apply (Rule.succeeds_shortOnOneLine hframed.holds_afterOpener).bind
  intro _ _
  apply (Rule.succeeds_shortCapital hstands _).bind
  intro _ _
  apply (Rule.succeeds_shortFullStop hframed.holds_opener).bind
  intro _ _
  apply (Rule.succeeds_longDescription hstands _).bind
  intro _ _
  apply (succeeds_noTags hstands).bind
  intro _ _
  apply (Rule.succeeds_noBlankBeforeCloser hlast hframed.holds_closer).bind
  intro _ _
  exact Rule.succeeds_noBlankAfterComment hframed.holds_closer hanchor construct

/-- The review of a class comment ends. A short description begins with the first content, so there
is content where there is one. -/
theorem succeeds_classLike (hanchor : site.source.Holds site.anchor)
    (hfirst : block.short?.isSome = true → block.firstContent?.isSome = true) :
    (classLike site block).Succeeds := by
  have hlast : (Rule.lastContent? site block).isSome = true :=
    hframed.isSome_contentBefore? rfl hframed.before
  have htoken : (Check.ofExcept (site.source.get site.anchor)).Succeeds := by
    obtain ⟨token, hat⟩ := hanchor
    exact ⟨token, Source.get_eq_ok_iff.mpr hat⟩
  apply htoken.bind
  intro token _
  apply (Rule.succeeds_closerAlone hlast hframed.holds_opener hframed.holds_closer).bind
  intro alone _
  cases alone with
  | false => exact succeeds_done ()
  | true =>
    apply (Rule.succeeds_shortDescription hframed.holds_opener _ _).bind
    intro described hdescribed
    obtain rfl := Rule.outcome_shortDescription hdescribed
    split
    · rename_i hshort
      exact succeeds_classBody hstands hframed hanchor (hfirst hshort) _
    · exact succeeds_done ()

variable {allowed : Fault → Prop}
variable (hname : ∀ fault, site.signatures.name? site.source site.anchor = .error fault →
  allowed fault)
variable (hparameters : ∀ fault, site.signatures.parameters site.source site.anchor = .error fault →
  allowed fault)

include hname hparameters

omit hframed hname in
theorem failsOnly_params : (Rule.params site block).FailsOnly allowed := by
  cases hdeclared : site.signatures.parameters site.source site.anchor with
  | ok declared => exact (Rule.succeeds_params hstands hdeclared).failsOnly
  | error fault =>
    have hfields : ((Rule.paramTags block).forM (Rule.paramFields site)).Succeeds :=
      succeeds_forM_iff.mpr fun param hparam =>
        Rule.succeeds_paramFields (Rule.stands_of_mem_paramTags hstands hparam)
    refine hfields.failsOnly.bind ?_
    intro _ _
    refine FailsOnly.bind hparameters ?_
    intro declared hvalue
    rw [Check.ofExcept, hdeclared] at hvalue
    cases hvalue

theorem failsOnly_functionTags : (functionTags site block).FailsOnly allowed := by
  refine (Rule.succeeds_see hstands).failsOnly.bind ?_
  intro _ _
  refine (Rule.succeeds_blankLineBeforeTags hstands hframed).failsOnly.bind ?_
  intro _ _
  refine (Rule.succeeds_blankLineBeforeParams hstands hframed).failsOnly.bind ?_
  intro _ _
  refine FailsOnly.bind hname ?_
  intro name? _
  refine (Rule.succeeds_returns hstands name?).failsOnly.bind ?_
  intro _ _
  refine (Rule.succeeds_throws hstands _).failsOnly.bind ?_
  intro _ _
  exact failsOnly_params hstands hparameters

theorem failsOnly_functionBody (hfirst : block.firstContent?.isSome = true) :
    (functionBody site block).FailsOnly allowed := by
  have hstop : (functionFullStop site block).Succeeds := by
    rw [functionFullStop]
    split
    · exact Rule.succeeds_shortFullStop hframed.holds_opener
    · exact succeeds_done ()
  have hline := Rule.succeeds_firstLine hfirst hframed.holds_opener hframed.holds_afterOpener
  rw [functionBody_eq]
  refine hline.failsOnly.bind ?_
  intro _ _
  refine (Rule.succeeds_shortCapital hstands _).failsOnly.bind ?_
  intro _ _
  refine hstop.failsOnly.bind ?_
  intro _ _
  split
  · exact (succeeds_done ()).failsOnly
  · exact failsOnly_functionTags hstands hframed hname hparameters

/-- **The review of a function comment** breaks off only where the signature cannot be read. -/
theorem failsOnly_function (hanchor : site.source.Holds site.anchor) :
    (function site block).FailsOnly allowed := by
  have hblank := Rule.succeeds_noBlankAfterComment hframed.holds_closer hanchor "function"
  refine hblank.failsOnly.bind ?_
  intro _ _
  refine (Rule.succeeds_shortDescription hframed.holds_opener _ _).failsOnly.bind ?_
  intro described hdescribed
  obtain rfl := Rule.outcome_shortDescription hdescribed
  split
  · rename_i hfirst
    exact failsOnly_functionBody hstands hframed hname hparameters hfirst
  · exact (succeeds_done ()).failsOnly

end Review

end Framed

/-! ## Inspections -/

/-- A short description begins with the first content. -/
theorem Block.Reads.isSome_first {source : Source} {token : Token} {block : Block}
    (hreads : block.Reads source token) (hshort : block.short?.isSome = true) :
    block.firstContent?.isSome = true := by
  obtain ⟨short, hsome⟩ := Option.isSome_iff_exists.mp hshort
  have hread := hreads.short
  rw [hsome] at hread
  rw [first_of_description? hread]
  rfl

/-- Only the keyword of a function declares one. -/
theorem Subject.kind_of_function {kind : Kind} (hsubject : Subject.ofKind? kind = some .function) :
    kind = .function := by
  cases kind with
  | function => rfl
  | _ => cases hsubject

namespace DocChecker

variable {source : Source} (hrefers : source.RefersRightly) (config : Config)

include hrefers

/-- The review of the comment of a declaration breaks off only where a reference is missing. -/
theorem failsOnly_review {slot : Slot} (hslot : slot ∈ source.slots) {subject : Subject}
    (hsubject : Subject.ofKind? slot.kind = some subject) {block : Block} {token : Token}
    (hreads : block.Reads source token) (hframed : block.Framed source) :
    (subject.review ((ofConfig config).site source slot.position subject) .builtIn block).FailsOnly
      source.Misses := by
  have hanchor : source.Holds slot.position := ⟨slot.token, Source.token?_of_mem_slots hslot⟩
  have hfront := (Source.bounds_of_mem_slots hslot).1
  have hstands := hreads.stands
  cases subject with
  | file => exact (Review.succeeds_file hstands hframed hfront hanchor).failsOnly
  | classLike =>
    exact (Review.succeeds_classLike hstands hframed hanchor hreads.isSome_first).failsOnly
  | function =>
    have hkind : slot.kind = .function := Subject.kind_of_function hsubject
    exact Review.failsOnly_function hstands hframed
      (fun fault => SignatureReader.misses_of_nameFromTokens hslot hkind)
      (fun fault => SignatureReader.misses_of_parametersFromTokens hslot hkind hrefers) hanchor

/-- **An inspection** breaks off only where a reference is missing. -/
theorem failsOnly_inspect {slot : Slot} (hslot : slot ∈ source.slots)
    (hkind : (ofConfig config).kinds.contains slot.kind = true) :
    ((ofConfig config).inspect source slot.position).FailsOnly source.Misses := by
  obtain ⟨subject, hsubject⟩ := exists_subject_of_mem_kinds hkind
  have hat := Source.token?_of_mem_slots hslot
  have hanchor : source.Holds slot.position := ⟨slot.token, hat⟩
  have hplaces := Source.places_locate hrefers hat hsubject
  have hblame : ∀ violation, (((ofConfig config).site source slot.position subject).blame
      (missingPosition subject source slot.position) violation none).FailsOnly source.Misses := by
    intro violation
    have hmissing : source.Holds (missingPosition subject source slot.position) := by
      cases subject with
      | file => exact Rule.holds_belowOpenTag (Source.bounds_of_mem_slots hslot).1 hanchor
      | classLike => exact hanchor
      | function => exact hanchor
    exact (Site.succeeds_blame hmissing violation none).failsOnly
  rw [inspect_eq hat hsubject]
  refine FailsOnly.bind hplaces.misses ?_
  intro placement? hplacement
  cases placement? with
  | none => exact (succeeds_done ()).failsOnly
  | some placement =>
    cases placement with
    | absent => exact hblame _
    | ordinaryBelow start => exact hblame _
    | ordinaryAbove stop => exact hblame _
    | ordinaryOfFile => exact hblame _
    | doc owner opener closer =>
      simp only [inspectPlacement]
      split
      · obtain ⟨begins, hbegins, rfl, hopens⟩ := hplaces.opens owner opener closer hplacement
        refine FailsOnly.bind (fun fault => Block.misses_of_read hrefers hbegins hopens) ?_
        intro block hread
        have hframed := Block.framed_of_read hrefers hbegins hopens hread
        obtain ⟨-, token, hreads⟩ := Block.read_eq_ok_iff.mp hread
        exact failsOnly_review hrefers config hslot hsubject hreads hframed
      · exact hblame _

end DocChecker

/-! ## Edits -/

/-- The text on the line of a tag comes after the tag. -/
theorem Tag.lt_position_inline {source : Source} {position stop : Int} {tag : Tag}
    (hread : Tag.read source position stop = .ok tag) {inline : Inline}
    (hinline : tag.inline? = some inline) : tag.position < inline.position := by
  obtain ⟨token, -, -, rfl⟩ := Tag.read_eq_ok_iff.mp hread
  obtain ⟨first, rest, htexts, -, rfl⟩ := inline?_ofTexts_eq_some _ _ _ _ hinline
  have hfirst : first ∈ texts source position stop := htexts ▸ List.mem_cons_self
  have hlow := (Source.mem_stretch (List.mem_filter.mp hfirst).1).2.1
  rw [Tag.position_ofTexts]
  show position < first.position
  omega

/-- The edits of a comment are aimed at tokens if its tags count from the front. -/
theorem Block.Reads.bounds_of_mem_spacingEdits {source : Source} {block : Block} {token : Token}
    (hreads : block.Reads source token) (hfront : ∀ tag ∈ block.tags, 0 ≤ tag.position)
    {edit : Edit} (hedit : edit ∈ block.spacingEdits) :
    0 ≤ edit.position ∧ edit.position < source.size := by
  obtain ⟨hold, hat, -⟩ := Block.respaces_of_mem_spacingEdits hreads.stands hedit
  obtain ⟨tag, htag, hedit⟩ := Block.exists_param_of_mem_spacingEdits hedit
  have hmem := (Block.mem_tagsNamed.mp htag).1
  obtain ⟨position, stop, -, hread⟩ := hreads.exists_bounds hmem
  obtain ⟨inline, hinline, -, rfl⟩ := ParamTag.eq_of_mem_edits hedit
  have htag := hfront tag hmem
  have hinline := Tag.lt_position_inline hread hinline
  have hposition : 0 ≤ inline.position := by omega
  exact ⟨hposition, Source.lt_size_of_token? hposition hat⟩

/-- So are the edits of a comment that lies in the source. -/
theorem Block.Framed.bounds_of_mem_spacingEdits {source : Source} {block : Block} {token : Token}
    (hframed : block.Framed source) (hreads : block.Reads source token) {edit : Edit}
    (hedit : edit ∈ block.spacingEdits) : 0 ≤ edit.position ∧ edit.position < source.size := by
  apply hreads.bounds_of_mem_spacingEdits _ hedit
  intro tag htag
  exact Int.le_of_lt (Int.lt_of_le_of_lt hframed.front (hframed.tags tag htag))

/-! ## Passes -/

/-- The checkers that configurations set up. -/
def Config.checkers (configs : List Config) : List (Checker Check) :=
  (configs.map DocChecker.ofConfig).map DocChecker.toChecker

namespace Source

section

variable {source : Source} (hrefers : source.RefersRightly) (configs : List Config)

include hrefers

/-- The comment of a declaration lies in the source. -/
theorem framed_of_documents {position : Int} {subject : Subject} {block : Block}
    (hdocuments : block.Documents source position subject) : block.Framed source := by
  obtain ⟨token, hat, hsubject⟩ := hdocuments.declares
  obtain ⟨closer, hlocate⟩ := hdocuments.located
  obtain ⟨slot, hslot, hposition, hkind⟩ :=
    (places_locate hrefers hat hsubject).opens subject block.opener closer hlocate
  have hread : Block.read source slot.position = .ok block :=
    Block.read_eq_ok_iff.mpr ⟨hposition.symm, hdocuments.reads⟩
  exact Block.framed_of_read hrefers hslot hkind hread

/-- **A pass** breaks off only where a reference is missing. -/
theorem misses_of_report {fixing : Bool} {fault : Fault}
    (hfault : source.report (Config.checkers configs) fixing = .error fault) :
    source.Misses fault := by
  have hfails : (source.inspect (Config.checkers configs)).FailsOnly source.Misses := by
    refine failsOnly_forM ?_
    intro slot hslot
    refine failsOnly_forM ?_
    intro checker hchecker
    obtain ⟨docChecker, hmem, rfl⟩ := List.mem_map.mp hchecker
    obtain ⟨config, -, rfl⟩ := List.mem_map.mp hmem
    split
    · rename_i hkind
      exact DocChecker.failsOnly_inspect hrefers config hslot hkind
    · exact (succeeds_done ()).failsOnly
  apply hfails
  rw [report_eq_map] at hfault
  generalize (source.inspect (Config.checkers configs)).outcome = outcome at hfault ⊢
  cases outcome with
  | error broken => exact congrArg Except.error (Except.error.inj hfault)
  | ok value => cases hfault

/-- **The edits of a report** can be applied, and they rewrite texts only. -/
theorem apply_of_report {report : Report}
    (hreport : source.report (Config.checkers configs) true = .ok report) :
    source.apply report.edits = .ok (source.edited report.edits) ∧
      source.Rewrites (Edit.Writes report.edits) (source.edited report.edits) := by
  obtain ⟨hsucceeds, rfl⟩ := report_eq_ok_iff.mp hreport
  have hprocessors : ∀ checker ∈ configs.map DocChecker.ofConfig,
      checker.processors = .builtIn := by
    intro checker hchecker
    obtain ⟨config, -, rfl⟩ := List.mem_map.mp hchecker
    rfl
  have hrespaces : ∀ edit ∈ (source.inspect (Config.checkers configs)).edits,
      edit.Respaces source :=
    fun edit hedit => respaces_of_mem_edits hprocessors hsucceeds hedit
  refine ⟨apply_eq_ok_iff.mpr ⟨⟨?_, Edit.agree_of_respaces hrespaces⟩, rfl⟩,
    rewrites_edited hrespaces⟩
  intro edit hedit
  obtain ⟨position, block, hdocuments, hedit⟩ :=
    exists_comment_of_mem_edits hprocessors hsucceeds hedit
  obtain ⟨opener, hreads⟩ := hdocuments.reads
  exact (framed_of_documents hrefers hdocuments).bounds_of_mem_spacingEdits hreads hedit

/-- **Fixing** breaks off only where a reference is missing, whatever the number of passes. -/
theorem misses_of_fix (passes : Nat) {fault : Fault}
    (hfault : Source.fix (Config.checkers configs) passes source = .error fault) :
    source.Misses fault := by
  induction passes generalizing source with
  | zero =>
    rcases except_bind_eq_error_iff.mp hfault with hreport | ⟨report, -, hfault⟩
    · exact misses_of_report hrefers configs hreport
    · cases hfault
  | succ passes ih =>
    rcases except_bind_eq_error_iff.mp hfault with hreport | ⟨report, hreport, hfault⟩
    · exact misses_of_report hrefers configs hreport
    · obtain ⟨happly, hrewrites⟩ := apply_of_report hrefers configs hreport
      split at hfault
      · cases hfault
      · rw [happly] at hfault
        -- References stay as they are, so what the next pass misses this one misses.
        exact (ih (hrefers.of_rewrites hrewrites) hfault).of_rewrites hrewrites

end

/-- **Violations are never faults.** Let the references of a source be right as far as they are
present, and take the checkers of any configurations. If a pass breaks off, or fixing does with any
number of passes, the fault names a reference that is missing. If none is missing, every pass has a
report and fixing has a result. -/
theorem violations_are_never_faults {source : Source} (hrefers : source.RefersRightly)
    (configs : List Config) :
    (∀ fixing fault, source.report (Config.checkers configs) fixing = .error fault →
        source.Misses fault) ∧
      (∀ passes fault, Source.fix (Config.checkers configs) passes source = .error fault →
        source.Misses fault) ∧
      (source.RefersFully →
        (∀ fixing, ∃ report, source.report (Config.checkers configs) fixing = .ok report) ∧
          ∀ passes, ∃ fixed report,
            Source.fix (Config.checkers configs) passes source = .ok (fixed, report)) := by
  refine ⟨?_, ?_, ?_⟩
  · intro fixing fault
    exact misses_of_report hrefers configs
  · intro passes fault
    exact misses_of_fix hrefers configs passes
  · intro hfull
    refine ⟨?_, ?_⟩
    · intro fixing
      cases hreport : source.report (Config.checkers configs) fixing with
      | ok report => exact ⟨report, rfl⟩
      | error fault =>
        exact absurd (misses_of_report hrefers configs hreport) (hfull.not_misses fault)
    · intro passes
      cases hfix : Source.fix (Config.checkers configs) passes source with
      | ok result => exact ⟨result.1, result.2, rfl⟩
      | error fault =>
        exact absurd (misses_of_fix hrefers configs passes hfix) (hfull.not_misses fault)

/-- A function after a comment that does not know its beginning. -/
def halfAComment : Source :=
  ⟨#[⟨.docClose, "*/", 1, none, none, []⟩, ⟨.function, "function", 2, none, none, []⟩]⟩

/-- A file whose only comment is empty and stands before a function without parameters. -/
def emptyComment : Source :=
  ⟨#[⟨.openTag, "<?php", 1, none, none, []⟩, ⟨.docOpen, "/**", 2, none, some 2, []⟩,
    ⟨.docClose, "*/", 2, some 1, none, []⟩, ⟨.function, "function", 3, none, none, []⟩,
    ⟨.openParenthesis, "(", 3, none, some 5, []⟩, ⟨.closeParenthesis, ")", 3, some 4, none, []⟩]⟩

/-- Half a comment makes a pass break off, and the fault says what is missing. An empty comment
violates rules, as a comment of the file and as one of the function, and is reported. -/
theorem emptyComment_reported :
    (halfAComment.RefersRightly ∧
        halfAComment.report (Config.checkers [{}]) true = .error (.closerWithoutOpener 0) ∧
        halfAComment.Misses (.closerWithoutOpener 0)) ∧
      emptyComment.RefersRightly ∧ emptyComment.RefersFully ∧
      (∃ report, emptyComment.report (Config.checkers [{}]) false = .ok report ∧
        report.codes =
          ["SpacingAfterComment", "MissingShortDescription", "MissingShortDescription"]) ∧
      ∃ fixed report, Source.fix (Config.checkers [{}]) 3 emptyComment = .ok (fixed, report) := by
  have hhalf : halfAComment.RefersRightly :=
    ⟨by decide, by decide, by decide, by decide⟩
  have hempty : emptyComment.RefersRightly :=
    ⟨by decide, by decide, by decide, by decide⟩
  have hfull : emptyComment.RefersFully := ⟨by decide, by decide, by decide⟩
  obtain ⟨hmisses, -, -⟩ := violations_are_never_faults hhalf [{}]
  obtain ⟨-, -, hends⟩ := violations_are_never_faults hempty [{}]
  exact ⟨⟨hhalf, rfl, hmisses true _ rfl⟩, hempty, hfull, ⟨_, rfl, rfl⟩, (hends hfull).2 3⟩

end Source

end DocLint

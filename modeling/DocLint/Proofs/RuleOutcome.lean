import DocLint.Proofs.BlockReading
import DocLint.Review

/-!
# When rules end, and which of them ask for edits

A rule breaks off only where it has to look at a token that is not there. For each rule this module
says what is enough for it to end with a value. Rules that look at the texts of a comment always do,
because those texts stand in the source; rules about the layout of a comment also look around it.

Only the two rules about the blanks in a parameter tag carry edits. All others carry none, whether
they end or break off.
-/

namespace DocLint

/-- The tags of a name are those tags of the comment that have it. -/
theorem Block.mem_tagsNamed {block : Block} {name : String} {tag : Tag} :
    tag ∈ block.tagsNamed name ↔ tag ∈ block.tags ∧ tag.name = name := by
  simp [Block.tagsNamed, List.mem_filter]

/-- None of the checks of single tags asks for edits. -/
def Processors.EditFree (processors : Processors Check) : Prop :=
  ∀ name processor, processors.lookup name = some processor →
    ∀ site block tags, (processor site block tags).edits = []

namespace Rule

open Check

variable {site : Site} {block : Block}

/-! ## Descriptions -/

theorem succeeds_firstLine (hfirst : block.firstContent?.isSome = true)
    (hopener : site.source.Holds block.opener) (hinside : site.source.Holds (block.opener + 1)) :
    (firstLine site block).Succeeds := by
  obtain ⟨first, hfirst⟩ := Option.isSome_iff_exists.mp hfirst
  unfold firstLine
  rw [hfirst]
  refine (succeeds_done first).bind fun _ _ => ?_
  exact (Site.succeeds_line hopener).bind fun _ _ => Site.succeeds_expect hinside _ _

theorem succeeds_shortCapital (hstands : block.Stands site.source) (policy : Capitalization) :
    (shortCapital site block policy).Succeeds := by
  unfold shortCapital
  cases hshort : block.short? with
  | none => exact succeeds_done ()
  | some short => exact Site.succeeds_expect (hstands.short short hshort) _ _

theorem succeeds_shortFullStop (hopener : site.source.Holds block.opener) :
    (shortFullStop site block).Succeeds := by
  unfold shortFullStop
  split
  · exact succeeds_done ()
  · exact Site.succeeds_expect hopener _ _

theorem succeeds_shortOnOneLine (hinside : site.source.Holds (block.opener + 1)) :
    (shortOnOneLine site block).Succeeds := by
  unfold shortOnOneLine
  split
  · exact succeeds_done ()
  · exact Site.succeeds_expect hinside _ _

theorem succeeds_longDescription (hstands : block.Stands site.source) (policy : Capitalization) :
    (longDescription site block policy).Succeeds := by
  unfold longDescription
  split
  · rename_i short long hshort hlong
    have hfirst := hstands.long long hlong
    refine (Site.succeeds_expect hfirst _ _).bind fun _ _ => ?_
    refine (Site.succeeds_expect hfirst _ _).bind fun _ _ => ?_
    exact Site.succeeds_expect hstands.opener _ _
  · exact succeeds_done ()

theorem succeeds_blankLineBefore {tag : Tag} (violation : Violation)
    (hbefore : (contentBefore? site block tag.position).isSome = true)
    (htag : site.source.Holds tag.position) :
    (blankLineBefore site block tag violation).Succeeds := by
  obtain ⟨before, hbefore⟩ := Option.isSome_iff_exists.mp hbefore
  unfold blankLineBefore
  rw [hbefore]
  exact (succeeds_done before).bind fun _ _ => Site.succeeds_expect htag _ _

theorem succeeds_shortDescription (hopener : site.source.Holds block.opener) (present : Bool)
    (construct : String) : (shortDescription site block present construct).Succeeds :=
  (Site.succeeds_expect hopener _ _).bind fun _ _ => succeeds_done present

/-- The answer about the short description is the one that was passed in. -/
theorem outcome_shortDescription {present described : Bool} {construct : String}
    (houtcome : (shortDescription site block present construct).outcome = .ok described) :
    described = present := by
  obtain ⟨_, _, hvalue⟩ := bind_outcome_eq_ok.mp houtcome
  exact (Except.ok.inj hvalue).symm

@[simp]
theorem edits_firstLine : (firstLine site block).edits = [] :=
  edits_bind_eq_nil (edits_require _ _) fun _ =>
    edits_bind_eq_nil (Site.edits_line _ _) fun _ => Site.edits_expect _ _

@[simp]
theorem edits_shortCapital (policy : Capitalization) :
    (shortCapital site block policy).edits = [] := by
  unfold shortCapital
  split
  · rfl
  · exact Site.edits_expect _ _

@[simp]
theorem edits_shortFullStop : (shortFullStop site block).edits = [] := by
  unfold shortFullStop
  split
  · rfl
  · exact Site.edits_expect _ _

@[simp]
theorem edits_shortOnOneLine : (shortOnOneLine site block).edits = [] := by
  unfold shortOnOneLine
  split
  · rfl
  · exact Site.edits_expect _ _

@[simp]
theorem edits_longDescription (policy : Capitalization) :
    (longDescription site block policy).edits = [] := by
  unfold longDescription
  split
  · exact edits_bind_eq_nil (Site.edits_expect _ _) fun _ =>
      edits_bind_eq_nil (Site.edits_expect _ _) fun _ => Site.edits_expect _ _
  · rfl

@[simp]
theorem edits_blankLineBefore (tag : Tag) (violation : Violation) :
    (blankLineBefore site block tag violation).edits = [] :=
  edits_bind_eq_nil (edits_require _ _) fun _ => Site.edits_expect _ _

@[simp]
theorem edits_blankLineBeforeTags : (blankLineBeforeTags site block).edits = [] := by
  unfold blankLineBeforeTags
  split
  · rfl
  · split
    · rfl
    · exact edits_blankLineBefore _ _

@[simp]
theorem edits_blankLineBeforeParams : (blankLineBeforeParams site block).edits = [] := by
  unfold blankLineBeforeParams
  split
  · rfl
  · split
    · rfl
    · exact edits_blankLineBefore _ _

@[simp]
theorem edits_shortDescription (present : Bool) (construct : String) :
    (shortDescription site block present construct).edits = [] :=
  edits_bind_eq_nil (Site.edits_expect _ _) fun _ => edits_pure present

/-! ## Layout -/

theorem succeeds_closerAlone (hlast : (lastContent? site block).isSome = true)
    (hopener : site.source.Holds block.opener) (hcloser : site.source.Holds block.closer) :
    (closerAlone site block).Succeeds := by
  obtain ⟨last, hlast⟩ := Option.isSome_iff_exists.mp hlast
  unfold closerAlone
  rw [hlast]
  refine (succeeds_done last).bind fun _ _ => ?_
  refine (Site.succeeds_line hcloser).bind fun _ _ => ?_
  exact (Site.succeeds_expect hopener _ _).bind fun _ _ => succeeds_done _

theorem succeeds_noBlankBeforeCloser (hlast : (lastContent? site block).isSome = true)
    (hcloser : site.source.Holds block.closer) : (noBlankBeforeCloser site block).Succeeds := by
  obtain ⟨last, hlast⟩ := Option.isSome_iff_exists.mp hlast
  unfold noBlankBeforeCloser
  rw [hlast]
  refine (Site.succeeds_line hcloser).bind fun _ _ => ?_
  exact (succeeds_done last).bind fun _ _ => Site.succeeds_expect hcloser _ _

theorem succeeds_noBlankAfterComment (hcloser : site.source.Holds block.closer)
    (hanchor : site.source.Holds site.anchor) (construct : String) :
    (noBlankAfterComment site block construct).Succeeds :=
  (Site.succeeds_line hcloser).bind fun _ _ =>
    (Site.succeeds_line hanchor).bind fun _ _ => Site.succeeds_expect hcloser _ _

/-- A token stands where the place of a file comment is blamed. -/
theorem holds_belowOpenTag {source : Source} {anchor : Int} (hfront : 0 ≤ anchor)
    (hanchor : source.Holds anchor) : source.Holds (belowOpenTag source anchor) := by
  unfold belowOpenTag
  split
  · rename_i hsize
    exact Source.exists_token?_of_lt_size (by omega) hsize
  · exact hanchor

theorem succeeds_rightBelowOpenTag (hfront : 0 ≤ site.anchor)
    (hopener : site.source.Holds block.opener) (hanchor : site.source.Holds site.anchor) :
    (rightBelowOpenTag site block).Succeeds :=
  (Site.succeeds_line hopener).bind fun _ _ =>
    (Site.succeeds_line hanchor).bind fun _ _ =>
      Site.succeeds_expect (holds_belowOpenTag hfront hanchor) _ _

theorem succeeds_blankLineAfterFileComment (hfront : 0 ≤ block.closer)
    (hcloser : site.source.Holds block.closer) :
    (blankLineAfterFileComment site block).Succeeds := by
  unfold blankLineAfterFileComment
  split
  · exact succeeds_done ()
  · rename_i following hfollowing
    obtain ⟨hslot, hafter, -⟩ := Source.next?_eq_some_iff.mp hfollowing
    have hbounds := Source.bounds_of_mem_slots hslot
    have hnext : site.source.Holds (block.closer + 1) :=
      Source.exists_token?_of_lt_size (by omega) (by omega)
    exact (Site.succeeds_line hcloser).bind fun _ _ => Site.succeeds_expect hnext _ _

@[simp]
theorem edits_closerAlone : (closerAlone site block).edits = [] :=
  edits_bind_eq_nil (edits_require _ _) fun _ =>
    edits_bind_eq_nil (Site.edits_line _ _) fun _ =>
      edits_bind_eq_nil (Site.edits_expect _ _) fun _ => edits_pure _

@[simp]
theorem edits_noBlankBeforeCloser : (noBlankBeforeCloser site block).edits = [] :=
  edits_bind_eq_nil (Site.edits_line _ _) fun _ =>
    edits_bind_eq_nil (edits_require _ _) fun _ => Site.edits_expect _ _

@[simp]
theorem edits_noBlankAfterComment (construct : String) :
    (noBlankAfterComment site block construct).edits = [] :=
  edits_bind_eq_nil (Site.edits_line _ _) fun _ =>
    edits_bind_eq_nil (Site.edits_line _ _) fun _ => Site.edits_expect _ _

@[simp]
theorem edits_rightBelowOpenTag : (rightBelowOpenTag site block).edits = [] :=
  edits_bind_eq_nil (Site.edits_line _ _) fun _ =>
    edits_bind_eq_nil (Site.edits_line _ _) fun _ => Site.edits_expect _ _

@[simp]
theorem edits_blankLineAfterFileComment : (blankLineAfterFileComment site block).edits = [] := by
  unfold blankLineAfterFileComment
  split
  · rfl
  · exact edits_bind_eq_nil (Site.edits_line _ _) fun _ => Site.edits_expect _ _

/-! ## The table of tags -/

section Tags

variable {tags : List Tag}

theorem succeeds_copyright (htags : ∀ tag ∈ tags, tag.Stands site.source) (hsome : tags ≠ []) :
    (copyright site block tags).Succeeds := by
  unfold copyright
  dsimp only
  split
  · exact succeeds_done ()
  · rw [List.getLast?_eq_some_getLast hsome]
    refine (succeeds_done _).bind fun last hlast => ?_
    obtain rfl := Except.ok.inj hlast
    exact Site.succeeds_blame (htags _ (List.getLast_mem hsome)).position _ _

theorem succeeds_license (htags : ∀ tag ∈ tags, tag.Stands site.source) :
    (license site block tags).Succeeds := by
  refine succeeds_forM_iff.mpr fun tag htag => ?_
  split
  · exact succeeds_done ()
  · exact Site.succeeds_expect (htags tag htag).position _ _

/-- The built-in checks of single tags end for every tag that is there. -/
theorem succeeds_processTags (htags : ∀ tag ∈ tags, tag.Stands site.source) (hsome : tags ≠ [])
    (name : String) : (processTags site block .builtIn name tags).Succeeds := by
  unfold processTags Processors.builtIn
  simp only [List.lookup_cons, List.lookup_nil]
  by_cases hcopyright : name == "@copyright"
  · simp only [hcopyright]
    exact succeeds_copyright htags hsome
  · by_cases hlicense : name == "@license"
    · simp only [hcopyright, hlicense]
      exact succeeds_license htags
    · simp only [hcopyright, hlicense]
      exact succeeds_done ()

theorem succeeds_tagOccurrences (specs : List TagSpec) (construct : String) (earlier : List Tag)
    (htags : ∀ tag ∈ tags, tag.Stands site.source) :
    (tagOccurrences site specs construct earlier tags).Succeeds := by
  induction tags generalizing earlier with
  | nil => exact succeeds_done ()
  | cons tag rest ih =>
    have htag := (htags tag List.mem_cons_self).position
    refine Succeeds.bind ?_ fun _ _ => ih _ fun other hother =>
      htags other (List.mem_cons_of_mem tag hother)
    exact (Site.succeeds_expect htag _ _).bind fun _ _ => Site.succeeds_expect htag _ _

theorem edits_copyright : (copyright site block tags).edits = [] := by
  unfold copyright
  dsimp only
  split
  · rfl
  · exact edits_bind_eq_nil (edits_require _ _) fun _ => Site.edits_blame_none _

theorem edits_license : (license site block tags).edits = [] := by
  refine edits_forM_eq_nil fun tag _ => ?_
  split
  · rfl
  · exact Site.edits_expect _ _

theorem editFree_builtIn : Processors.builtIn.EditFree := by
  intro name processor hlookup site block tags
  simp only [Processors.builtIn, List.lookup_cons, List.lookup_nil] at hlookup
  split at hlookup
  · obtain rfl := Option.some.inj hlookup
    exact edits_copyright
  · split at hlookup
    · obtain rfl := Option.some.inj hlookup
      exact edits_license
    · cases hlookup

theorem edits_processTags {processors : Processors Check} (hfree : processors.EditFree)
    (name : String) : (processTags site block processors name tags).edits = [] := by
  unfold processTags
  cases hlookup : processors.lookup name with
  | none => rfl
  | some processor => exact hfree name processor hlookup site block tags

@[simp]
theorem edits_tagOccurrences (specs : List TagSpec) (construct : String) (earlier : List Tag) :
    (tagOccurrences site specs construct earlier tags).edits = [] := by
  induction tags generalizing earlier with
  | nil => rfl
  | cons tag rest ih =>
    refine edits_bind_eq_nil ?_ fun _ => ih _
    exact edits_bind_eq_nil (Site.edits_expect _ _) fun _ => Site.edits_expect _ _

theorem edits_tagOrder {processors : Processors Check} (hfree : processors.EditFree)
    (construct : String) (place : Nat) (rest : List Tag) (specs : List TagSpec) :
    (tagOrder site block construct processors place rest specs).edits = [] := by
  induction specs generalizing place rest with
  | nil => rfl
  | cons spec specs ih =>
    unfold tagOrder
    split
    · exact edits_bind_eq_nil (Site.edits_expect _ _) fun _ => ih _ _
    · refine edits_bind_eq_nil (edits_processTags hfree _) fun _ => ?_
      split
      · rfl
      · exact edits_bind_eq_nil (Site.edits_expect _ _) fun _ => ih _ _

end Tags

/-! ## Tags of a function comment -/

theorem succeeds_see (hstands : block.Stands site.source) : (see site block).Succeeds := by
  refine succeeds_forM_iff.mpr fun tag htag => ?_
  exact Site.succeeds_expect (hstands.tags tag (Block.mem_tagsNamed.mp htag).1).position _ _

theorem succeeds_returns (hstands : block.Stands site.source) (name? : Option String) :
    (returns site block name?).Succeeds := by
  have htags : ∀ tag ∈ block.tagsNamed "@return", site.source.Holds tag.position :=
    fun tag htag => (hstands.tags tag (Block.mem_tagsNamed.mp htag).1).position
  unfold returns
  split
  · exact succeeds_done ()
  · cases hreturns : block.tagsNamed "@return" with
    | nil => exact succeeds_done ()
    | cons first rest =>
      rw [hreturns] at htags
      cases rest with
      | nil => exact Site.succeeds_expect (htags first (by simp)) _ _
      | cons second rest => exact Site.succeeds_blame (htags second (by simp)) _ _

theorem succeeds_throws (hstands : block.Stands site.source) (policy : Capitalization) :
    (throws site block policy).Succeeds := by
  refine succeeds_forM_iff.mpr fun tag htag => ?_
  have htag := hstands.tags tag (Block.mem_tagsNamed.mp htag).1
  unfold throwsTag
  split
  · rename_i inline text hinline _
    obtain ⟨token, hat, -⟩ := htag.inline inline hinline
    have hholds : site.source.Holds inline.position := ⟨token, hat⟩
    split
    · exact Site.succeeds_blame htag.position _ _
    · exact (Site.succeeds_expect hholds _ _).bind fun _ _ => Site.succeeds_expect hholds _ _
  · exact Site.succeeds_blame htag.position _ _

@[simp]
theorem edits_see : (see site block).edits = [] :=
  edits_forM_eq_nil fun _ _ => Site.edits_expect _ _

@[simp]
theorem edits_returns (name? : Option String) : (returns site block name?).edits = [] := by
  unfold returns
  split
  · rfl
  · split
    · rfl
    · exact Site.edits_expect _ _
    · exact Site.edits_blame_none _

@[simp]
theorem edits_throws (policy : Capitalization) : (throws site block policy).edits = [] := by
  refine edits_forM_eq_nil fun tag _ => ?_
  unfold throwsTag
  split
  · split
    · exact Site.edits_blame_none _
    · exact edits_bind_eq_nil (Site.edits_expect _ _) fun _ => Site.edits_expect _ _
  · exact Site.edits_blame_none _

/-! ## Parameter tags -/

/-- The parameter tags stand where the tags of the comment do. -/
theorem stands_of_mem_paramTags (hstands : block.Stands site.source) {param : ParamTag}
    (hparam : param ∈ paramTags block) : param.tag.Stands site.source := by
  obtain ⟨tag, htag, rfl⟩ := List.mem_map.mp hparam
  exact hstands.tags tag (Block.mem_tagsNamed.mp htag).1

theorem succeeds_paramFields {param : ParamTag} (hparam : param.tag.Stands site.source) :
    (paramFields site param).Succeeds :=
  (Site.succeeds_expect hparam.position _ _).bind fun _ _ =>
    Site.succeeds_expect hparam.position _ _

theorem succeeds_param {param : ParamTag} (hparam : param.tag.Stands site.source)
    (declared? : Option String) : (Rule.param site declared? param).Succeeds := by
  unfold Rule.param
  split
  · refine (Site.succeeds_expectOrEdit hparam.position _ _ _).bind fun _ _ => ?_
    refine Succeeds.bind ?_ fun _ _ => Site.succeeds_expectOrEdit hparam.position _ _ _
    unfold paramName
    split <;> exact Site.succeeds_expect hparam.position _ _
  · exact succeeds_done ()

theorem succeeds_paramPairs {params : List ParamTag}
    (hparams : ∀ param ∈ params, param.tag.Stands site.source) (declared : List String) :
    (paramPairs site declared params).Succeeds := by
  induction params generalizing declared with
  | nil => exact succeeds_done ()
  | cons param rest ih =>
    refine (succeeds_param (hparams param List.mem_cons_self) _).bind fun _ _ => ?_
    exact ih (fun other hother => hparams other (List.mem_cons_of_mem param hother)) _

theorem succeeds_paramsDocumented (hopener : site.source.Holds block.opener)
    (declared : List String) (params : List ParamTag) :
    (paramsDocumented site block declared params).Succeeds :=
  succeeds_forM_iff.mpr fun _ _ => Site.succeeds_expect hopener _ _

/-- The rules about parameter tags end if the function's parameters can be read. -/
theorem succeeds_params (hstands : block.Stands site.source) {declared : List String}
    (hdeclared : site.signatures.parameters site.source site.anchor = .ok declared) :
    (params site block).Succeeds := by
  have hparams : ∀ param ∈ paramTags block, param.tag.Stands site.source :=
    fun param hparam => stands_of_mem_paramTags hstands hparam
  unfold params
  refine Succeeds.bind ?_ fun _ _ => ?_
  · exact succeeds_forM_iff.mpr fun param hparam => succeeds_paramFields (hparams param hparam)
  · refine Succeeds.bind ⟨declared, hdeclared⟩ fun _ _ => ?_
    refine (succeeds_paramPairs hparams _).bind fun _ _ => ?_
    split
    · exact succeeds_paramsDocumented hstands.opener _ _
    · exact succeeds_done ()

end Rule

/-! ## Reviews -/

namespace Review

open Check

variable {site : Site} {block : Block}

theorem succeeds_noTags (hstands : block.Stands site.source) : (noTags site block).Succeeds :=
  succeeds_forM_iff.mpr fun tag htag =>
    Site.succeeds_blame (hstands.tags tag htag).position _ _

/-- The review of a file comment asks for no edits, if none of the checks of single tags does. -/
theorem edits_file {processors : Processors Check} (hfree : processors.EditFree) :
    (file site processors block).edits = [] := by
  unfold file
  refine edits_bind_eq_nil Rule.edits_rightBelowOpenTag fun _ => ?_
  refine edits_bind_eq_nil Rule.edits_blankLineAfterFileComment fun _ => ?_
  refine edits_bind_eq_nil (Rule.edits_shortDescription _ _) fun _ => ?_
  split
  · exact edits_bind_eq_nil (Rule.edits_tagOccurrences _ _ _) fun _ =>
      Rule.edits_tagOrder hfree _ _ _ _
  · rfl

/-- The review of a class comment asks for no edits. -/
theorem edits_classLike : (classLike site block).edits = [] := by
  unfold classLike
  refine edits_bind_eq_nil (edits_ofExcept _) fun _ => ?_
  refine edits_bind_eq_nil Rule.edits_closerAlone fun _ => ?_
  split
  · refine edits_bind_eq_nil (Rule.edits_shortDescription _ _) fun _ => ?_
    split
    · refine edits_bind_eq_nil Rule.edits_firstLine fun _ => ?_
      refine edits_bind_eq_nil Rule.edits_shortOnOneLine fun _ => ?_
      refine edits_bind_eq_nil (Rule.edits_shortCapital _) fun _ => ?_
      refine edits_bind_eq_nil Rule.edits_shortFullStop fun _ => ?_
      refine edits_bind_eq_nil (Rule.edits_longDescription _) fun _ => ?_
      refine edits_bind_eq_nil (edits_forM_eq_nil fun _ _ => Site.edits_blame_none _) fun _ => ?_
      exact edits_bind_eq_nil Rule.edits_noBlankBeforeCloser fun _ =>
        Rule.edits_noBlankAfterComment _
    · rfl
  · rfl

end Review

end DocLint

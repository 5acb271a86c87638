import DocLint.Proofs.PartialRepair

/-!
# What is left of a review after repairs

A comment some of whose parameter tags were respaced is reviewed again. This module compares the two
reviews rule by rule. `Check.without` is what is left of a check after repairs: all that was found,
except what the edits repair. It goes through sequences and loops, and it leaves a check alone that
carries no edits. So for every rule but those about the blanks of a parameter tag it is enough that
the rule finds the same in the repaired comment.
-/

namespace DocLint

open Check

/-- Whether the edits repair what the diagnostic is about: its own edit is aimed at a token that one
of them edits. -/
def Diagnostic.repairedBy (edits : List Edit) (diagnostic : Diagnostic) : Bool :=
  diagnostic.edit?.any fun edit => Edit.aimAt edits edit.position

/-! ## What is left of a check -/

namespace Check

variable {α β : Type} {edits : List Edit}

/-- The check without the diagnostics that edits repair. -/
def without (edits : List Edit) (check : Check α) : Check α :=
  ⟨check.diagnostics.filter fun diagnostic => !diagnostic.repairedBy edits, check.outcome⟩

theorem without_bind (check : Check α) (next : α → Check β) :
    (check >>= next).without edits =
      check.without edits >>= fun value => (next value).without edits := by
  rcases check with ⟨diagnostics, _ | value⟩
  · rfl
  · simp only [without, bind_ok, List.filter_append]

/-- A check stays as it is if its edits are aimed elsewhere. -/
theorem without_eq_self {check : Check α}
    (hedits : ∀ edit ∈ check.edits, Edit.aimAt edits edit.position = false) :
    check.without edits = check := by
  rcases check with ⟨diagnostics, outcome⟩
  have hall : ∀ diagnostic ∈ diagnostics, (!diagnostic.repairedBy edits) = true := by
    intro diagnostic hdiagnostic
    rw [Diagnostic.repairedBy, Bool.not_eq_true']
    cases hedit : diagnostic.edit? with
    | none => rfl
    | some edit => exact hedits edit (List.mem_filterMap.mpr ⟨diagnostic, hdiagnostic, hedit⟩)
  rw [without, List.filter_eq_self.mpr hall]

/-- A check that carries no edits stays as it is. -/
theorem eq_without {check check' : Check α} (hsame : check' = check) (hedits : check.edits = []) :
    check' = check.without edits := by
  rw [hsame, without_eq_self]
  intro edit hedit
  rw [hedits] at hedit
  cases hedit

/-- What is left of a sequence is left of its parts. -/
theorem bind_eq_without {check check' : Check α} {next next' : α → Check β}
    (hcheck : check' = check.without edits)
    (hnext : ∀ value, next' value = (next value).without edits) :
    check' >>= next' = (check >>= next).without edits := by
  rw [without_bind, hcheck, funext hnext]

/-- What is left of a loop is left of its body, over corresponding items. -/
theorem forM_eq_without {γ : Type} {rel : α → γ → Prop} {items : List α} {items' : List γ}
    {body : α → Check Unit} {body' : γ → Check Unit} (hitems : List.Forall₂ rel items items')
    (hbody : ∀ item ∈ items, ∀ item', rel item item' → body' item' = (body item).without edits) :
    items'.forM body' = (items.forM body).without edits := by
  induction hitems with
  | nil => rfl
  | @cons item item' rest rest' hitem _ ih =>
    apply bind_eq_without (hbody item List.mem_cons_self item' hitem)
    intro _
    exact ih fun other hother => hbody other (List.mem_cons_of_mem item hother)

/-- Loops over corresponding items are equal if their bodies are. -/
theorem forM_eq_forM {γ : Type} {rel : α → γ → Prop} {items : List α} {items' : List γ}
    {body : α → Check Unit} {body' : γ → Check Unit} (hitems : List.Forall₂ rel items items')
    (hbody : ∀ item ∈ items, ∀ item', rel item item' → body' item' = body item) :
    items'.forM body' = items.forM body := by
  induction hitems with
  | nil => rfl
  | @cons item item' rest rest' hitem _ ih =>
    have ih := ih fun other hother => hbody other (List.mem_cons_of_mem item hother)
    exact congrArg₂ (· >>= ·) (hbody item List.mem_cons_self item' hitem) (funext fun _ => ih)

end Check

/-- Nothing is left of a violation that was repaired. -/
theorem Site.without_expectOrEdit {site : Site} {position : Int}
    (hholds : site.source.Holds position) (condition : Bool) (violation : Violation)
    {edits : List Edit} {edit : Edit} (haim : Edit.aimAt edits edit.position = true) :
    (site.expectOrEdit condition position violation (some edit)).without edits = .done () := by
  obtain ⟨token, hat⟩ := hholds
  rw [expectOrEdit]
  split
  · rfl
  · rw [blame_eq, Source.line_of_token? hat]
    have hrepaired : ∀ diagnostic : Diagnostic, diagnostic.edit? = some edit →
        (found diagnostic).without edits = .done () := by
      intro diagnostic hedit
      simp [without, found, done, Diagnostic.repairedBy, hedit, haim]
    exact hrepaired _ rfl

section Repaired

variable {site : Site} {source' : Source} {edits : List Edit}
variable (halike : site.source.Alike source')
variable {block block' : Block} (hrepaired : Block.Repaired edits block block')

/-! ## Rules that find the same -/

namespace Rule

include halike hrepaired

theorem shortCapital_on (policy : Capitalization) :
    shortCapital (site.on source') block' policy = shortCapital site block policy := by
  simp only [shortCapital, hrepaired.short_eq, Site.expect_on halike, Site.letters_on]

theorem shortFullStop_on : shortFullStop (site.on source') block' = shortFullStop site block := by
  simp only [shortFullStop, hrepaired.short_eq, hrepaired.rewrites.opener_eq,
    Site.expect_on halike]

theorem longDescription_on (policy : Capitalization) :
    longDescription (site.on source') block' policy = longDescription site block policy := by
  simp only [longDescription, hrepaired.short_eq, hrepaired.long_eq, hrepaired.rewrites.opener_eq,
    Site.expect_on halike, Site.letters_on]

theorem see_on : see (site.on source') block' = see site block := by
  simp only [see, hrepaired.tagsNamed_eq (show "@see" ≠ "@param" by decide),
    Site.expect_on halike]

theorem returns_on (name? : Option String) :
    returns (site.on source') block' name? = returns site block name? := by
  simp only [returns, hrepaired.tagsNamed_eq (show "@return" ≠ "@param" by decide),
    Site.expect_on halike, Site.blame_on halike, Site.config_on]

theorem throws_on (policy : Capitalization) :
    throws (site.on source') block' policy = throws site block policy := by
  have htag : throwsTag (site.on source') policy = throwsTag site policy := by
    funext tag
    simp only [throwsTag, throwsComment, Site.expect_on halike, Site.blame_on halike,
      Site.letters_on]
  rw [throws, throws, htag, hrepaired.tagsNamed_eq (show "@throws" ≠ "@param" by decide)]

/-! ## The table of tags -/

omit hrepaired in
theorem tagOccurrences_on (specs : List TagSpec) (construct : String)
    {earlier earlier' tags tags' : List Tag}
    (hearlier : List.Forall₂ (Tag.Repaired edits) earlier earlier')
    (htags : List.Forall₂ (Tag.Repaired edits) tags tags') :
    tagOccurrences (site.on source') specs construct earlier' tags' =
      tagOccurrences site specs construct earlier tags := by
  induction htags generalizing earlier earlier' with
  | nil => rfl
  | @cons tag tag' rest rest' htag _ ih =>
    have hany : ∀ name : String, (earlier'.any fun other => other.name == name) =
        earlier.any fun other => other.name == name := by
      intro name
      clear ih
      induction hearlier with
      | nil => rfl
      | cons hother _ ih => rw [List.any_cons, List.any_cons, ih, hother.name_eq]
    have hfirst : tagOccurrence (site.on source') specs construct earlier' tag' =
        tagOccurrence site specs construct earlier tag := by
      simp only [tagOccurrence, Site.expect_on halike, htag.name_eq, htag.position_eq,
        htag.isSome_inline, hany]
    rw [tagOccurrences, tagOccurrences, hfirst,
      ih (List.rel_append hearlier (List.Forall₂.cons htag .nil))]

/-- The checks of single tags look at copyrights and licenses only, which stay. -/
theorem processTags_on (name : String) :
    processTags (site.on source') block' .builtIn name (block'.tagsNamed name) =
      processTags site block .builtIn name (block.tagsNamed name) := by
  by_cases hname : name = "@param"
  · subst hname
    rfl
  · rw [hrepaired.tagsNamed_eq hname]
    simp only [processTags, Processors.builtIn, List.lookup_cons, List.lookup_nil]
    cases name == "@copyright" with
    | true => simp only [copyright, Site.config_on, Site.blame_on halike]
    | false =>
      cases name == "@license" with
      | true => simp only [license, Site.expect_on halike]
      | false => rfl

theorem tagOrder_on (construct : String) {place : Nat} {rest rest' : List Tag}
    (hrest : List.Forall₂ (Tag.Repaired edits) rest rest') (specs : List TagSpec) :
    tagOrder (site.on source') block' construct .builtIn place rest' specs =
      tagOrder site block construct .builtIn place rest specs := by
  induction specs generalizing place rest rest' with
  | nil => rfl
  | cons spec specs ih =>
    have hnamed := hrepaired.tagsNamed spec.name
    have hprocess := processTags_on halike hrepaired spec.name
    rw [tagOrder.eq_def, tagOrder.eq_def _ block]
    dsimp only
    generalize block.tagsNamed spec.name = tags, block'.tagsNamed spec.name = tags'
      at hnamed hprocess ⊢
    cases hnamed with
    | nil =>
      dsimp only
      rw [hrepaired.rewrites.closer_eq, Site.expect_on halike, ih hrest]
    | cons htag htags =>
      dsimp only
      rw [hprocess]
      cases hrest with
      | nil => rfl
      | @cons first first' others others' hfirst hothers =>
        have hsame : ∀ tag tag' : Tag, Tag.Repaired edits tag tag' →
            (tag'.name == spec.name) = (tag.name == spec.name) := by
          intro tag tag' htag
          rw [htag.name_eq]
        have hlength : (others'.takeWhile fun other => other.name == spec.name).length =
            (others.takeWhile fun other => other.name == spec.name).length :=
          length_takeWhile_of_forall₂ hsame hothers
        dsimp only
        rw [hfirst.position_eq, hfirst.name_eq, Site.expect_on halike, hlength,
          ih (forall₂_dropWhile hsame hothers)]

theorem tagTable_on (specs : List TagSpec) (construct : String) :
    tagTable (site.on source') block' specs construct .builtIn =
      tagTable site block specs construct .builtIn := by
  have htable : List.Forall₂ (Tag.Repaired edits) (tableTags specs block)
      (tableTags specs block') := by
    apply List.rel_filter _ hrepaired.tags
    intro tag tag' htag
    simp only [htag.name_eq]
  rw [tagTable, tagTable, tagOccurrences_on halike specs construct .nil htable,
    tagOrder_on halike hrepaired construct htable specs]

end Rule

/-! ## Parameter tags -/

namespace ParamTag

/-- The fields of a parameter tag stay, whether its blanks are repaired or not. -/
theorem fields_ofTag {tag tag' : Tag} (htag : Tag.Repaired edits tag tag') :
    (ofTag tag').fields.type = (ofTag tag).fields.type ∧
      (ofTag tag').fields.variableName = (ofTag tag).fields.variableName ∧
      (ofTag tag').fields.comment = (ofTag tag).fields.comment := by
  cases htag with
  | kept => exact ⟨rfl, rfl, rfl⟩
  | respaced _ hinline _ hvariable =>
    simp [ofTag, Tag.withInline, hinline, ParamText.ofInline, ParamText.parse_canonical hvariable]

theorem isNamed_ofTag_eq {tag tag' : Tag} (htag : Tag.Repaired edits tag tag') :
    (ofTag tag').isNamed = (ofTag tag).isNamed := by
  rw [isNamed, isNamed, (fields_ofTag htag).2.1]

end ParamTag

namespace Rule

theorem paramTypeSpace_eq_done {param : ParamTag} (hspaced : param.typeSpaced = true) :
    paramTypeSpace site param = .done () :=
  if_pos hspaced

theorem paramNameSpace_eq_done {param : ParamTag} (hspaced : param.nameSpaced = true) :
    paramNameSpace site param = .done () :=
  if_pos hspaced

include halike

theorem paramFields_on {tag tag' : Tag} (htag : Tag.Repaired edits tag tag') :
    paramFields (site.on source') (.ofTag tag') = paramFields site (.ofTag tag) := by
  simp only [paramFields, Site.expect_on halike, (ParamTag.fields_ofTag htag).1,
    ParamTag.isNamed_ofTag_eq htag,
    show (ParamTag.ofTag tag').tag.position = _ from htag.position_eq]
  rfl

theorem paramName_on (declared? : Option String) {tag tag' : Tag}
    (htag : Tag.Repaired edits tag tag') :
    paramName (site.on source') declared? (.ofTag tag') =
      paramName site declared? (.ofTag tag) := by
  have hposition : (ParamTag.ofTag tag').tag.position = (ParamTag.ofTag tag).tag.position :=
    htag.position_eq
  simp only [paramName, Site.expect_on halike, (ParamTag.fields_ofTag htag).2.1, hposition,
    Site.config_on]

/-- **What is left of the rules about one parameter tag.** Without an edit they find the same; after
an edit the blanks are right. -/
theorem param_on (declared? : Option String) {tag tag' : Tag} (htag : Tag.Repaired edits tag tag')
    (hstands : tag.Stands site.source) :
    Rule.param (site.on source') declared? (.ofTag tag') =
      (Rule.param site declared? (.ofTag tag)).without edits := by
  have hname := paramName_on halike declared? htag
  have hnamed := ParamTag.isNamed_ofTag_eq htag
  cases htag with
  | kept haim =>
    have hsame : Rule.param (site.on source') declared? (.ofTag tag) =
        Rule.param site declared? (.ofTag tag) := by
      simp only [Rule.param, paramTypeSpace, paramNameSpace, Site.expectOrEdit_on halike, hname]
    rw [hsame, without_eq_self]
    intro edit hedit
    rw [edits_param hstands] at hedit
    obtain ⟨inline, hinline, -, rfl⟩ := ParamTag.eq_of_mem_edits hedit
    exact haim inline hinline
  | @respaced inline _ hinline haim hvariable =>
    have hedit : (ParamTag.ofTag tag).canonicalEdit? =
        some ⟨inline.position, (ParamTag.ofTag tag).fields.canonical⟩ := by
      simp [ParamTag.canonicalEdit?, ParamTag.ofTag, hinline]
    have hold : ∀ condition violation,
        (site.expectOrEdit condition (ParamTag.ofTag tag).tag.position violation
          (ParamTag.ofTag tag).canonicalEdit?).without edits = .done () := by
      intro condition violation
      rw [hedit]
      exact Site.without_expectOrEdit hstands.position condition violation haim
    have hinline' : (tag.withInline ⟨inline.position,
        (ParamText.parse inline.text).canonical⟩).inline? = some ⟨inline.position, _⟩ := rfl
    obtain ⟨htype, hspace⟩ := ParamTag.spaced_of_canonical hinline' hvariable rfl
    rw [Rule.param, Rule.param, hnamed]
    cases (ParamTag.ofTag tag).isNamed with
    | false => rfl
    | true =>
      rw [if_pos rfl, if_pos rfl]
      apply bind_eq_without
      · rw [paramTypeSpace_eq_done htype, paramTypeSpace, hold]
      · intro _
        apply bind_eq_without (eq_without hname (edits_paramName _ _))
        intro _
        rw [paramNameSpace_eq_done hspace, paramNameSpace, hold]

theorem paramPairs_on {tags tags' : List Tag}
    (htags : List.Forall₂ (Tag.Repaired edits) tags tags')
    (hstands : ∀ tag ∈ tags, tag.Stands site.source) (declared : List String) :
    paramPairs (site.on source') declared (tags'.map .ofTag) =
      (paramPairs site declared (tags.map .ofTag)).without edits := by
  induction htags generalizing declared with
  | nil => rfl
  | @cons tag tag' rest rest' htag _ ih =>
    rw [List.map_cons, List.map_cons, paramPairs, paramPairs]
    apply bind_eq_without (param_on halike _ htag (hstands tag List.mem_cons_self))
    intro _
    exact ih (fun other hother => hstands other (List.mem_cons_of_mem tag hother)) _

include hrepaired

theorem paramsDocumented_on (declared : List String) :
    paramsDocumented (site.on source') block' declared (paramTags block') =
      paramsDocumented site block declared (paramTags block) := by
  have hany : ∀ name, ((paramTags block').any fun param =>
      param.isNamed && param.fields.variableName == name) =
        (paramTags block).any fun param => param.isNamed && param.fields.variableName == name := by
    intro name
    have htags := hrepaired.tagsNamed "@param"
    rw [paramTags, paramTags]
    generalize block.tagsNamed "@param" = tags, block'.tagsNamed "@param" = tags' at htags ⊢
    induction htags with
    | nil => rfl
    | cons htag _ ih =>
      rw [List.map_cons, List.map_cons, List.any_cons, List.any_cons, ih,
        ParamTag.isNamed_ofTag_eq htag, (ParamTag.fields_ofTag htag).2.1]
  simp only [paramsDocumented, hany, hrepaired.rewrites.opener_eq, Site.expect_on halike]

/-- What is left of the rules about parameter tags. -/
theorem params_on (hstands : block.Stands site.source)
    (hparameters : site.signatures.parameters source' site.anchor =
      site.signatures.parameters site.source site.anchor) :
    params (site.on source') block' = (params site block).without edits := by
  have htags := hrepaired.tagsNamed "@param"
  have hfields : (paramTags block').forM (paramFields (site.on source')) =
      (paramTags block).forM (paramFields site) := by
    have hparams : List.Forall₂ (fun param param' => ∃ tag tag', Tag.Repaired edits tag tag' ∧
        param = ParamTag.ofTag tag ∧ param' = ParamTag.ofTag tag') (paramTags block)
        (paramTags block') :=
      List.forall₂_map_left_iff.mpr (List.forall₂_map_right_iff.mpr
        (htags.imp fun tag tag' htag => ⟨tag, tag', htag, rfl, rfl⟩))
    apply forM_eq_forM hparams
    rintro param - param' ⟨tag, tag', htag, rfl, rfl⟩
    exact paramFields_on halike htag
  rw [params, params]
  apply bind_eq_without (eq_without hfields (edits_forM_paramFields _))
  intro _
  apply bind_eq_without (eq_without (congrArg Check.ofExcept hparameters) rfl)
  intro declared
  apply bind_eq_without
  · apply paramPairs_on halike htags
    intro tag htag
    exact hstands.tags tag (Block.mem_tagsNamed.mp htag).1
  · intro _
    rw [hrepaired.tagsNamed_eq (show "@inheritdoc" ≠ "@param" by decide),
      paramsDocumented_on halike hrepaired]
    apply eq_without rfl
    split
    · exact edits_paramsDocumented _ _
    · rfl

end Rule

/-! ## Reviews -/

namespace Review

include halike hrepaired

theorem noTags_on : noTags (site.on source') block' = noTags site block := by
  apply forM_eq_forM hrepaired.tags
  intro tag _ tag' htag
  rw [Site.blame_on halike, htag.name_eq, htag.position_eq]

theorem file_on : file (site.on source') .builtIn block' = file site .builtIn block := by
  simp only [file, Rule.rightBelowOpenTag_on halike hrepaired.rewrites,
    Rule.blankLineAfterFileComment_on halike hrepaired.rewrites,
    Rule.shortDescription_on halike hrepaired.rewrites, hrepaired.first_eq,
    Rule.tagTable_on halike hrepaired, Site.config_on]

theorem classLike_on (hanchor : source'.get site.anchor = site.source.get site.anchor) :
    classLike (site.on source') block' = classLike site block := by
  simp only [classLike, classBody, Site.source_on, Site.anchor_on, hanchor,
    Rule.closerAlone_on halike hrepaired.rewrites,
    Rule.shortDescription_on halike hrepaired.rewrites, hrepaired.short_eq,
    Rule.firstLine_on halike hrepaired.rewrites,
    Rule.shortOnOneLine_on halike hrepaired.rewrites, Rule.shortCapital_on halike hrepaired,
    Rule.shortFullStop_on halike hrepaired, Rule.longDescription_on halike hrepaired,
    noTags_on halike hrepaired, Rule.noBlankBeforeCloser_on halike hrepaired.rewrites,
    Rule.noBlankAfterComment_on halike hrepaired.rewrites, Site.config_on]

variable (hstands : block.Stands site.source)
variable (hname : site.signatures.name? source' site.anchor =
  site.signatures.name? site.source site.anchor)
variable (hparameters : site.signatures.parameters source' site.anchor =
  site.signatures.parameters site.source site.anchor)

include hstands hname hparameters

theorem functionTags_on :
    functionTags (site.on source') block' = (functionTags site block).without edits := by
  have hparams : List.Forall₂ (fun tag tag' : Tag =>
      tag'.position = tag.position ∧ tag'.line = tag.line) (block.tagsNamed "@param")
      (block'.tagsNamed "@param") :=
    (hrepaired.tagsNamed "@param").imp fun tag tag' htag => ⟨htag.position_eq, htag.line_eq⟩
  rw [functionTags, functionTags]
  apply bind_eq_without (eq_without (Rule.see_on halike hrepaired) Rule.edits_see)
  intro _
  apply bind_eq_without (eq_without (Rule.blankLineBeforeTags_on halike hrepaired.rewrites)
    Rule.edits_blankLineBeforeTags)
  intro _
  apply bind_eq_without (eq_without
    (Rule.blankLineBeforeParams_on halike hrepaired.rewrites hparams)
    Rule.edits_blankLineBeforeParams)
  intro _
  apply bind_eq_without (eq_without (congrArg Check.ofExcept hname) rfl)
  intro name?
  apply bind_eq_without (eq_without (Rule.returns_on halike hrepaired name?)
    (Rule.edits_returns name?))
  intro _
  apply bind_eq_without (eq_without (Rule.throws_on halike hrepaired _) (Rule.edits_throws _))
  intro _
  exact Rule.params_on halike hrepaired hstands hparameters

theorem functionBody_on :
    functionBody (site.on source') block' = (functionBody site block).without edits := by
  have hstop : functionFullStop (site.on source') block' = functionFullStop site block := by
    simp only [functionFullStop, Rule.shortFullStop_on halike hrepaired, Site.config_on]
  rw [functionBody_eq, functionBody_eq]
  apply bind_eq_without (eq_without (Rule.firstLine_on halike hrepaired.rewrites)
    Rule.edits_firstLine)
  intro _
  apply bind_eq_without (eq_without (Rule.shortCapital_on halike hrepaired _)
    (Rule.edits_shortCapital _))
  intro _
  apply bind_eq_without (eq_without hstop edits_functionFullStop)
  intro _
  rw [hrepaired.inherits_eq]
  cases block.inheritsDoc with
  | true => rfl
  | false => exact functionTags_on halike hrepaired hstands hname hparameters

/-- **What is left of the review of a function comment.** -/
theorem function_on :
    function (site.on source') block' = (function site block).without edits := by
  rw [function, function]
  apply bind_eq_without (eq_without (Rule.noBlankAfterComment_on halike hrepaired.rewrites _)
    (Rule.edits_noBlankAfterComment _))
  intro _
  rw [hrepaired.first_eq]
  apply bind_eq_without (eq_without (Rule.shortDescription_on halike hrepaired.rewrites _ _)
    (Rule.edits_shortDescription _ _))
  intro described
  cases described with
  | false => rfl
  | true => exact functionBody_on halike hrepaired hstands hname hparameters

end Review

end Repaired

end DocLint

import DocLint.Proofs.Applying
import DocLint.Proofs.BlockRewriting

/-!
# Which edits are asked for

All edits come from the parameter tags of function comments, and every one of them respaces the text
on the line of such a tag. This module says exactly which edits a review asks for, and then what
becomes of a declaration when it is inspected: its comment is reviewed, or the outcome has nothing
to do with the texts of comments.
-/

namespace DocLint

open Check

/-! ## Parameter tags -/

namespace ParamTag

/-- Whether the blanks after the type are right. -/
def typeSpaced (param : ParamTag) : Bool :=
  param.fields.type.isEmpty || param.fields.typeSpace == ParamText.fieldSpace

/-- Whether the blanks after the variable are right. -/
def nameSpaced (param : ParamTag) : Bool :=
  param.fields.comment.isEmpty || param.fields.variableSpace == ParamText.fieldSpace

/-- The edits that a parameter tag gives rise to: one for each wrong number of blanks. -/
def edits (param : ParamTag) : List Edit :=
  if param.isNamed then
    (if param.typeSpaced then [] else param.canonicalEdit?.toList) ++
      (if param.nameSpaced then [] else param.canonicalEdit?.toList)
  else []

/-- A tag asks for no edits if it names no variable or its blanks are right. -/
theorem edits_eq_nil_of_spaced {param : ParamTag}
    (hspaced : param.isNamed = true → param.typeSpaced = true ∧ param.nameSpaced = true) :
    param.edits = [] := by
  unfold edits
  split
  · rename_i hnamed
    obtain ⟨htype, hname⟩ := hspaced hnamed
    simp [htype, hname]
  · rfl

/-- The variable of a tag is the one of the text on its line. -/
theorem isNamed_ofTag {tag : Tag} (hnamed : (ofTag tag).isNamed = true) :
    ∃ inline, tag.inline? = some inline ∧ (ofTag tag).fields = ParamText.parse inline.text ∧
      (ParamText.parse inline.text).variableName ≠ "" := by
  unfold isNamed ofTag at hnamed
  cases hinline : tag.inline? with
  | none =>
    rw [hinline] at hnamed
    cases hnamed
  | some inline =>
    rw [hinline] at hnamed
    refine ⟨inline, rfl, by simp [ofTag, hinline, ParamText.ofInline], ?_⟩
    simpa [ParamText.ofInline, String.isEmpty_iff] using hnamed

/-- The edit of a tag writes the fields of the text on the tag's line again. -/
theorem eq_of_canonicalEdit? {tag : Tag} {edit : Edit}
    (hedit : (ofTag tag).canonicalEdit? = some edit) :
    ∃ inline, tag.inline? = some inline ∧
      edit = ⟨inline.position, (ParamText.parse inline.text).canonical⟩ := by
  obtain ⟨inline, hinline, rfl⟩ := Option.map_eq_some_iff.mp hedit
  have hinline : tag.inline? = some inline := hinline
  exact ⟨inline, hinline, by simp [ofTag, hinline, ParamText.ofInline]⟩

/-- It is asked for only where the text names a variable. -/
theorem eq_of_mem_edits {tag : Tag} {edit : Edit} (hedit : edit ∈ (ofTag tag).edits) :
    ∃ inline, tag.inline? = some inline ∧ (ParamText.parse inline.text).variableName ≠ "" ∧
      edit = ⟨inline.position, (ParamText.parse inline.text).canonical⟩ := by
  unfold edits at hedit
  split at hedit
  · rename_i hnamed
    obtain ⟨named, hnamed, -, hvariable⟩ := isNamed_ofTag hnamed
    have hcanonical : edit ∈ (ofTag tag).canonicalEdit?.toList := by
      rcases List.mem_append.mp hedit with hedit | hedit <;>
      · split at hedit
        · cases hedit
        · exact hedit
    obtain ⟨inline, hinline, rfl⟩ := eq_of_canonicalEdit? (Option.mem_toList.mp hcanonical)
    obtain rfl := Option.some.inj (hnamed.symm.trans hinline)
    exact ⟨named, hinline, hvariable, rfl⟩
  · cases hedit

/-- **Edits respace texts.** -/
theorem respaces_of_mem_edits {source : Source} {tag : Tag} (hstands : tag.Stands source)
    {edit : Edit} (hedit : edit ∈ (ofTag tag).edits) : edit.Respaces source := by
  obtain ⟨inline, hinline, hvariable, rfl⟩ := eq_of_mem_edits hedit
  obtain ⟨token, hat, hkind, hcontent⟩ := hstands.inline inline hinline
  refine ⟨token, hat, hkind, ?_⟩
  rw [← hcontent] at hvariable ⊢
  exact ⟨hvariable, rfl⟩

/-- The blanks of a text that was respaced are right. -/
theorem spaced_of_canonical {tag : Tag} {inline : Inline} (hinline : tag.inline? = some inline)
    {text : String} (hvariable : (ParamText.parse text).variableName ≠ "")
    (htext : inline.text = (ParamText.parse text).canonical) :
    (ofTag tag).typeSpaced = true ∧ (ofTag tag).nameSpaced = true := by
  have hfields : (ofTag tag).fields = ParamText.parse (ParamText.parse text).canonical := by
    simp [ofTag, hinline, ParamText.ofInline, htext]
  rw [typeSpaced, nameSpaced, hfields, ParamText.parse_canonical hvariable]
  refine ⟨?_, ?_⟩
  · cases htype : (ParamText.parse text).type.isEmpty <;> simp
  · cases hcomment : (ParamText.parse text).comment.isEmpty <;> simp

/-- A text that was respaced asks for no further edit. -/
theorem edits_eq_nil_of_respaced {tag : Tag} {inline : Inline} (hinline : tag.inline? = some inline)
    {slot : Slot} (hrespaced : Respaced slot inline.text) : (ofTag tag).edits = [] :=
  edits_eq_nil_of_spaced fun _ => spaced_of_canonical hinline hrespaced.1 hrespaced.2

end ParamTag

/-! ## Rules and reviews -/

namespace Rule

variable {site : Site} {block : Block}

theorem edits_paramName (declared? : Option String) (param : ParamTag) :
    (paramName site declared? param).edits = [] := by
  unfold paramName
  split <;> exact Site.edits_expect _ _

theorem edits_param {param : ParamTag} (hparam : param.tag.Stands site.source)
    (declared? : Option String) : (Rule.param site declared? param).edits = param.edits := by
  have htype : (paramTypeSpace site param).Succeeds :=
    Site.succeeds_expectOrEdit hparam.position _ _ _
  have hsucceeds : (paramName site declared? param).Succeeds := by
    unfold paramName
    split <;> exact Site.succeeds_expect hparam.position _ _
  unfold Rule.param ParamTag.edits
  split
  · rw [edits_bind (succeeds_iff_outcome.mp htype), edits_bind (succeeds_iff_outcome.mp hsucceeds),
      edits_paramName, List.nil_append]
    exact congrArg₂ (· ++ ·) (Site.edits_expectOrEdit hparam.position _ _ _)
      (Site.edits_expectOrEdit hparam.position _ _ _)
  · rfl

theorem edits_paramPairs {params : List ParamTag}
    (hparams : ∀ param ∈ params, param.tag.Stands site.source) (declared : List String) :
    (paramPairs site declared params).edits = params.flatMap ParamTag.edits := by
  induction params generalizing declared with
  | nil => rfl
  | cons param rest ih =>
    have hparam := hparams param List.mem_cons_self
    unfold paramPairs
    rw [edits_bind (succeeds_iff_outcome.mp (succeeds_param hparam _)), edits_param hparam,
      ih (fun other hother => hparams other (List.mem_cons_of_mem param hother)),
      List.flatMap_cons]

theorem edits_forM_paramFields (params : List ParamTag) :
    (params.forM (paramFields site)).edits = [] :=
  edits_forM_eq_nil fun _ _ =>
    edits_bind_eq_nil (Site.edits_expect _ _) fun _ => Site.edits_expect _ _

theorem edits_paramsDocumented (declared : List String) (params : List ParamTag) :
    (paramsDocumented site block declared params).edits = [] :=
  edits_forM_eq_nil fun _ _ => Site.edits_expect _ _

/-- The rules about parameter tags ask for the edits of all parameter tags. -/
theorem edits_params (hstands : block.Stands site.source)
    (hsucceeds : (params site block).Succeeds) :
    (params site block).edits = (paramTags block).flatMap ParamTag.edits := by
  have hparams : ∀ param ∈ paramTags block, param.tag.Stands site.source :=
    fun param hparam => stands_of_mem_paramTags hstands hparam
  unfold params at hsucceeds ⊢
  obtain ⟨_, hfields, hsucceeds⟩ := succeeds_bind_iff.mp hsucceeds
  obtain ⟨declared, hdeclared, hsucceeds⟩ := succeeds_bind_iff.mp hsucceeds
  obtain ⟨_, hpairs, hsucceeds⟩ := succeeds_bind_iff.mp hsucceeds
  rw [edits_bind hfields, edits_bind hdeclared, edits_bind hpairs, edits_paramPairs hparams]
  have hlast : (if (block.tagsNamed "@inheritdoc").isEmpty then
      paramsDocumented site block declared (paramTags block) else pure ()).edits = [] := by
    split
    · exact edits_paramsDocumented _ _
    · rfl
  rw [edits_forM_paramFields, hlast, edits_ofExcept, List.nil_append, List.nil_append,
    List.append_nil]

end Rule

/-- The edits that the review of a function comment asks for, if it ends. -/
def Block.spacingEdits (block : Block) : List Edit :=
  if block.firstContent?.isSome && !block.inheritsDoc then
    (Rule.paramTags block).flatMap ParamTag.edits
  else []

namespace Review

variable {site : Site} {block : Block}

theorem edits_functionTags (hstands : block.Stands site.source)
    (hsucceeds : (functionTags site block).Succeeds) :
    (functionTags site block).edits = (Rule.paramTags block).flatMap ParamTag.edits := by
  unfold functionTags at hsucceeds ⊢
  obtain ⟨_, hsee, hsucceeds⟩ := succeeds_bind_iff.mp hsucceeds
  obtain ⟨_, htags, hsucceeds⟩ := succeeds_bind_iff.mp hsucceeds
  obtain ⟨_, hbefore, hsucceeds⟩ := succeeds_bind_iff.mp hsucceeds
  obtain ⟨_, hname, hsucceeds⟩ := succeeds_bind_iff.mp hsucceeds
  obtain ⟨_, hreturns, hsucceeds⟩ := succeeds_bind_iff.mp hsucceeds
  obtain ⟨_, hthrows, hsucceeds⟩ := succeeds_bind_iff.mp hsucceeds
  rw [edits_bind hsee, edits_bind htags, edits_bind hbefore, edits_bind hname, edits_bind hreturns,
    edits_bind hthrows, Rule.edits_params hstands hsucceeds]
  simp

/-- The rule about the full stop of a function's short description, where it applies. -/
def functionFullStop (site : Site) (block : Block) : Check Unit :=
  if site.config.function.requireShortFullStop then Rule.shortFullStop site block else .done ()

theorem edits_functionFullStop : (functionFullStop site block).edits = [] := by
  unfold functionFullStop
  split
  · exact Rule.edits_shortFullStop
  · rfl

/-- The rules of a function comment in sequence. -/
theorem functionBody_eq (site : Site) (block : Block) :
    functionBody site block =
      Rule.firstLine site block >>= fun _ =>
        Rule.shortCapital site block site.config.function.shortPolicy >>= fun _ =>
          functionFullStop site block >>= fun _ =>
            if block.inheritsDoc then .done () else functionTags site block := by
  unfold functionBody functionFullStop
  cases site.config.function.requireShortFullStop <;> rfl

theorem edits_functionBody (hstands : block.Stands site.source)
    (hsucceeds : (functionBody site block).Succeeds) :
    (functionBody site block).edits =
      if block.inheritsDoc then [] else (Rule.paramTags block).flatMap ParamTag.edits := by
  rw [functionBody_eq] at hsucceeds ⊢
  obtain ⟨_, hfirst, hsucceeds⟩ := succeeds_bind_iff.mp hsucceeds
  obtain ⟨_, hcapital, hsucceeds⟩ := succeeds_bind_iff.mp hsucceeds
  obtain ⟨_, hfullStop, hsucceeds⟩ := succeeds_bind_iff.mp hsucceeds
  rw [edits_bind hfirst, edits_bind hcapital, edits_bind hfullStop, edits_functionFullStop,
    Rule.edits_firstLine, Rule.edits_shortCapital]
  split at hsucceeds
  · rename_i hinherits
    simp [hinherits]
  · rename_i hinherits
    simp [hinherits, edits_functionTags hstands hsucceeds]

/-- **The edits of a function comment.** The review asks for the edits of the parameter tags, unless
it ends before it comes to them. -/
theorem edits_function (hstands : block.Stands site.source)
    (hsucceeds : (function site block).Succeeds) :
    (function site block).edits = block.spacingEdits := by
  unfold function at hsucceeds ⊢
  obtain ⟨_, hblank, hsucceeds⟩ := succeeds_bind_iff.mp hsucceeds
  obtain ⟨described, hdescribed, hsucceeds⟩ := succeeds_bind_iff.mp hsucceeds
  obtain rfl := Rule.outcome_shortDescription hdescribed
  rw [edits_bind hblank, edits_bind hdescribed, Rule.edits_noBlankAfterComment,
    Rule.edits_shortDescription, List.nil_append, List.nil_append]
  unfold Block.spacingEdits
  split at hsucceeds
  · rename_i hsome
    rw [if_pos hsome, edits_functionBody hstands hsucceeds, hsome, Bool.true_and]
    cases block.inheritsDoc <;> rfl
  · rename_i hsome
    simp [hsome, Check.edits]

end Review

/-- What a review asks for: nothing, unless it is about a function. -/
theorem Subject.edits_review {subject : Subject} {site : Site} {block : Block}
    (hstands : block.Stands site.source)
    (hsucceeds : (subject.review site .builtIn block).Succeeds) :
    (subject.review site .builtIn block).edits =
      if subject = .function then block.spacingEdits else [] := by
  cases subject with
  | file => exact Review.edits_file Rule.editFree_builtIn
  | classLike => exact Review.edits_classLike
  | function => exact Review.edits_function hstands hsucceeds

end DocLint

import DocLint.Proofs.SpacingEdits

/-!
# When parameter tags fit the parameters

The rules about parameter tags compare the tags with the declared parameters place by place, and
then look for parameters that no tag names. This module says exactly when they find nothing: every
tag is well written, and the documented names are the declared ones, followed at most by names that
end in the way reserved for further arguments.

For the one direction nothing is assumed. The other one needs that the declared names are distinct:
a single tag would otherwise speak for several parameters.
-/

namespace DocLint

open Check

/-- A parameter tag has a type and a variable, and its blanks are right. -/
structure ParamTag.WellWritten (param : ParamTag) : Prop where
  type : param.fields.type ≠ ""
  named : param.isNamed = true
  typeSpaced : param.typeSpaced = true
  nameSpaced : param.nameSpaced = true

/-- The variables of parameter tags, in order. -/
def ParamTag.names (params : List ParamTag) : List String :=
  params.map fun param => param.fields.variableName

/-- The documented names are the declared ones, and what follows ends with the suffix. -/
def NamesFit (suffix : String) (declared documented : List String) : Prop :=
  ∃ extra, documented = declared ++ extra ∧ ∀ name ∈ extra, Text.endsWith name suffix = true

/-- The names agree as far as both lists go, and what goes beyond the declared ones ends with the
suffix. -/
def PlacesFit (suffix : String) (declared documented : List String) : Prop :=
  documented <+: declared ∨ NamesFit suffix declared documented

theorem placesFit_nil {suffix : String} {documented : List String} :
    PlacesFit suffix [] documented ↔ ∀ name ∈ documented, Text.endsWith name suffix = true := by
  rw [PlacesFit, NamesFit, List.prefix_nil]
  refine ⟨?_, ?_⟩
  · rintro (rfl | ⟨extra, rfl, hextra⟩)
    · exact fun _ hname => absurd hname List.not_mem_nil
    · exact hextra
  · exact fun hdocumented => Or.inr ⟨documented, rfl, hdocumented⟩

theorem placesFit_cons {suffix name name' : String} {declared documented : List String} :
    PlacesFit suffix (name :: declared) (name' :: documented) ↔
      name = name' ∧ PlacesFit suffix declared documented := by
  simp only [PlacesFit, NamesFit, List.cons_prefix_cons, List.cons_append, List.cons.injEq]
  refine ⟨?_, ?_⟩
  · rintro (⟨rfl, hpre⟩ | ⟨extra, ⟨rfl, hnames⟩, hextra⟩)
    · exact ⟨rfl, Or.inl hpre⟩
    · exact ⟨rfl, Or.inr ⟨extra, hnames, hextra⟩⟩
  · rintro ⟨rfl, hpre | ⟨extra, hnames, hextra⟩⟩
    · exact Or.inl ⟨rfl, hpre⟩
    · exact Or.inr ⟨extra, ⟨rfl, hnames⟩, hextra⟩

/-- If no declared name is left out, and none is declared twice, the names fit. -/
theorem PlacesFit.namesFit {suffix : String} {declared documented : List String}
    (hplaces : PlacesFit suffix declared documented) (hdistinct : declared.Nodup)
    (hall : ∀ name ∈ declared, name ∈ documented) : NamesFit suffix declared documented := by
  rcases hplaces with ⟨missing, rfl⟩ | hfit
  · cases missing with
    | nil => exact ⟨[], by simp, by simp⟩
    | cons name rest =>
      have hname : name ∈ documented := hall name (by simp)
      exact absurd rfl ((List.nodup_append.mp hdistinct).2.2 name hname name (by simp))
  · exact hfit

namespace Rule

variable {site : Site} {block : Block} {declared : List String}

theorem paramFields_eq_done_iff {param : ParamTag} :
    paramFields site param = .done () ↔ param.fields.type ≠ "" ∧ param.isNamed = true := by
  rw [paramFields, seq_eq_done_iff, Site.expect_eq_done_iff, Site.expect_eq_done_iff,
    Bool.not_eq_true', ← Bool.not_eq_true, String.isEmpty_iff]

theorem paramTypeSpace_eq_done_iff {param : ParamTag} :
    paramTypeSpace site param = .done () ↔ param.typeSpaced = true :=
  Site.expectOrEdit_eq_done_iff

theorem paramNameSpace_eq_done_iff {param : ParamTag} :
    paramNameSpace site param = .done () ↔ param.nameSpaced = true :=
  Site.expectOrEdit_eq_done_iff

/-- One tag that names a variable, beside the parameter at its place. -/
theorem param_eq_done_iff {param : ParamTag} (hnamed : param.isNamed = true)
    {declared? : Option String} :
    Rule.param site declared? param = .done () ↔
      (param.typeSpaced = true ∧ param.nameSpaced = true) ∧
        paramName site declared? param = .done () := by
  rw [Rule.param, if_pos hnamed, seq_eq_done_iff, seq_eq_done_iff, paramTypeSpace_eq_done_iff,
    paramNameSpace_eq_done_iff, and_assoc, and_comm (a := paramName site declared? param = _)]

/-- **Place by place.** -/
theorem paramPairs_eq_done_iff {params : List ParamTag}
    (hnamed : ∀ param ∈ params, param.isNamed = true) :
    paramPairs site declared params = .done () ↔
      (∀ param ∈ params, param.typeSpaced = true ∧ param.nameSpaced = true) ∧
        PlacesFit site.config.function.variadicSuffix declared (ParamTag.names params) := by
  induction params generalizing declared with
  | nil => simp [paramPairs, PlacesFit, ParamTag.names, Check.done]
  | cons param rest ih =>
    have hfirst := hnamed param List.mem_cons_self
    have hrest := fun other hother => hnamed other (List.mem_cons_of_mem param hother)
    have hnames : ParamTag.names (param :: rest) =
        param.fields.variableName :: ParamTag.names rest := rfl
    have hname : paramName site declared.head? param = .done () ∧
        PlacesFit site.config.function.variadicSuffix declared.tail (ParamTag.names rest) ↔
          PlacesFit site.config.function.variadicSuffix declared
            (ParamTag.names (param :: rest)) := by
      cases declared with
      | nil =>
        rw [hnames, List.tail_nil, placesFit_nil, placesFit_nil, List.forall_mem_cons]
        exact and_congr_left' Site.expect_eq_done_iff
      | cons name names =>
        rw [hnames, List.tail_cons, placesFit_cons]
        exact and_congr_left' (Site.expect_eq_done_iff.trans beq_iff_eq)
    rw [paramPairs, seq_eq_done_iff, param_eq_done_iff hfirst, ih hrest, List.forall_mem_cons,
      ← hname]
    exact and_and_and_comm

/-- Tags that all name a variable document the names of their variables. -/
theorem any_documents_iff {params : List ParamTag}
    (hnamed : ∀ param ∈ params, param.isNamed = true) {name : String} :
    (params.any fun param => param.isNamed && param.fields.variableName == name) = true ↔
      name ∈ ParamTag.names params := by
  rw [List.any_eq_true, ParamTag.names, List.mem_map]
  refine exists_congr fun param => and_congr_right fun hparam => ?_
  rw [hnamed param hparam, Bool.true_and, beq_iff_eq]

theorem paramsDocumented_eq_done_iff {params : List ParamTag}
    (hnamed : ∀ param ∈ params, param.isNamed = true) :
    paramsDocumented site block declared params = .done () ↔
      ∀ name ∈ declared, name ∈ ParamTag.names params := by
  rw [paramsDocumented, forM_eq_done_iff]
  refine forall₂_congr fun name _ => ?_
  rw [Site.expect_eq_done_iff, any_documents_iff hnamed]

/-- **Parameters that fit are not reported.** -/
theorem params_eq_done
    (hdeclared : site.signatures.parameters site.source site.anchor = .ok declared)
    (hwell : ∀ param ∈ paramTags block, param.WellWritten)
    (hfit : NamesFit site.config.function.variadicSuffix declared
      (ParamTag.names (paramTags block))) : params site block = .done () := by
  have hnamed : ∀ param ∈ paramTags block, param.isNamed = true :=
    fun param hparam => (hwell param hparam).named
  have hfields : (paramTags block).forM (paramFields site) = .done () :=
    forM_eq_done_iff.mpr fun param hparam =>
      paramFields_eq_done_iff.mpr ⟨(hwell param hparam).type, hnamed param hparam⟩
  have hpairs : paramPairs site declared (paramTags block) = .done () :=
    (paramPairs_eq_done_iff hnamed).mpr
      ⟨fun param hparam => ⟨(hwell param hparam).typeSpaced, (hwell param hparam).nameSpaced⟩,
        Or.inr hfit⟩
  have hdocumented : paramsDocumented site block declared (paramTags block) = .done () := by
    obtain ⟨extra, hnames, -⟩ := hfit
    apply (paramsDocumented_eq_done_iff hnamed).mpr
    intro name hname
    rw [hnames]
    exact List.mem_append_left extra hname
  rw [Rule.params, hfields, done_bind, hdeclared, ofExcept_ok_bind, hpairs, done_bind, hdocumented]
  exact ite_self _

/-- **Parameters that are not reported fit**, where none is declared twice. -/
theorem fit_of_params_eq_done
    (hdeclared : site.signatures.parameters site.source site.anchor = .ok declared)
    (hdistinct : declared.Nodup) (hinherit : block.tagsNamed "@inheritdoc" = [])
    (hparams : params site block = .done ()) :
    (∀ param ∈ paramTags block, param.WellWritten) ∧
      NamesFit site.config.function.variadicSuffix declared
        (ParamTag.names (paramTags block)) := by
  rw [Rule.params, seq_eq_done_iff, forM_eq_done_iff, hdeclared, ofExcept_ok_bind, seq_eq_done_iff,
    hinherit] at hparams
  obtain ⟨hfields, hpairs, hdocumented⟩ := hparams
  have hnamed : ∀ param ∈ paramTags block, param.isNamed = true :=
    fun param hparam => (paramFields_eq_done_iff.mp (hfields param hparam)).2
  obtain ⟨hspaced, hplaces⟩ := (paramPairs_eq_done_iff hnamed).mp hpairs
  have hall := (paramsDocumented_eq_done_iff hnamed).mp hdocumented
  refine ⟨?_, hplaces.namesFit hdistinct hall⟩
  intro param hparam
  exact ⟨(paramFields_eq_done_iff.mp (hfields param hparam)).1, hnamed param hparam,
    (hspaced param hparam).1, (hspaced param hparam).2⟩

end Rule

end DocLint

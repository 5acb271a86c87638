import DocLint.Proofs.Findings
import DocLint.Proofs.ParameterMatching
import Mathlib.Data.List.InsertIdx
import Mathlib.Data.List.Nodup

/-!
# What is reported about parameter tags

The rules about parameter tags accept a comment exactly if its tags are written with single blanks
and name the declared parameters in order, followed at most by names for further arguments. Two
rules work together for this: one compares tags and parameters place by place, the other one looks
for parameters that no tag names, wherever the tag may stand.

If one tag of such a comment is forgotten, the two answer differently. Every later tag moves up by
one place and is compared with the name before its own, so it is blamed although nothing is wrong
with it. The parameter that was forgotten is reported once, at the end.
-/

namespace DocLint

open Check

/-! ## Comments that document the parameters -/

theorem ParamTag.wellWritten_iff {param : ParamTag} :
    param.WellWritten ↔
      param.fields.type ≠ "" ∧ param.fields.typeSpace = 1 ∧ param.fields.variableName ≠ "" ∧
        (param.fields.comment ≠ "" → param.fields.variableSpace = 1) := by
  have hnamed : param.isNamed = true ↔ param.fields.variableName ≠ "" := by
    rw [isNamed, Bool.not_eq_true', ← Bool.not_eq_true, String.isEmpty_iff]
  have htype : param.typeSpaced = true ↔
      (param.fields.type = "" ∨ param.fields.typeSpace = 1) := by
    rw [typeSpaced, Bool.or_eq_true, String.isEmpty_iff, beq_iff_eq, ParamText.fieldSpace]
  have hname : param.nameSpaced = true ↔
      (param.fields.comment ≠ "" → param.fields.variableSpace = 1) := by
    rw [nameSpaced, Bool.or_eq_true, String.isEmpty_iff, beq_iff_eq, ParamText.fieldSpace,
      or_iff_not_imp_left]
  refine ⟨?_, ?_⟩
  · intro hwell
    exact ⟨hwell.type, (htype.mp hwell.typeSpaced).resolve_left hwell.type, hnamed.mp hwell.named,
      hname.mp hwell.nameSpaced⟩
  · rintro ⟨hsome, hspace, hvariable, hcomment⟩
    exact ⟨hsome, hnamed.mpr hvariable, htype.mpr (Or.inr hspace), hname.mpr hcomment⟩

/-- The parameter tags are written as they should be, and they name the declared parameters and
then, at most, further arguments. -/
structure Block.DocumentsParams (suffix : String) (declared : List String) (block : Block) :
    Prop where
  /-- Every tag has a type and a variable; single blanks set these and a comment apart. -/
  written : ∀ param ∈ Rule.paramTags block,
    param.fields.type ≠ "" ∧ param.fields.typeSpace = 1 ∧ param.fields.variableName ≠ "" ∧
      (param.fields.comment ≠ "" → param.fields.variableSpace = 1)
  /-- The variables are the declared names; what follows them ends with the suffix. -/
  names : ∃ further, (Rule.paramTags block).map (fun param => param.fields.variableName) =
    declared ++ further ∧ ∀ name ∈ further, suffix.toList <:+ name.toList

theorem Block.documentsParams_iff {suffix : String} {declared : List String} {block : Block} :
    block.DocumentsParams suffix declared ↔
      (∀ param ∈ Rule.paramTags block, param.WellWritten) ∧
        NamesFit suffix declared (ParamTag.names (Rule.paramTags block)) := by
  have hwritten : (∀ param ∈ Rule.paramTags block, param.WellWritten) ↔ _ :=
    forall₂_congr fun _ _ => ParamTag.wellWritten_iff
  rw [hwritten, NamesFit]
  simp only [Text.endsWith, List.isSuffixOf_iff_suffix]
  exact ⟨fun hdocuments => ⟨hdocuments.written, hdocuments.names⟩,
    fun hdocuments => ⟨hdocuments.1, hdocuments.2⟩⟩

namespace Rule

/-- **Exactly the right comments are accepted.** The rules about parameter tags pass over a comment
in silence if and only if it documents the parameters. On a comment whose tokens exist they always
end, so to report nothing is the same as to accept. -/
theorem params_accepted_iff (site : Site) (block : Block) {declared : List String}
    (hinherit : block.tagsNamed "@inheritdoc" = [])
    (hdeclared : site.signatures.parameters site.source site.anchor = .ok declared)
    (hdistinct : declared.Nodup) :
    (params site block = .done () ↔
        block.DocumentsParams site.config.function.variadicSuffix declared) ∧
      (block.Stands site.source →
        (params site block).Succeeds ∧
          ((params site block).diagnostics = [] ↔
            block.DocumentsParams site.config.function.variadicSuffix declared)) := by
  have haccepted : params site block = .done () ↔
      block.DocumentsParams site.config.function.variadicSuffix declared := by
    rw [Block.documentsParams_iff]
    exact ⟨fit_of_params_eq_done hdeclared hdistinct hinherit,
      fun hdocuments => params_eq_done hdeclared hdocuments.1 hdocuments.2⟩
  refine ⟨haccepted, fun hstands => ?_⟩
  have hsucceeds := succeeds_params hstands hdeclared
  refine ⟨hsucceeds, Iff.trans ?_ haccepted⟩
  exact (eq_done_iff_of_succeeds hsucceeds).symm

end Rule

/-- A function whose comment has three parameter tags with the given texts. -/
def threeParams (first second third : String) : Source :=
  ⟨#[⟨.docOpen, "/**", 1, none, some 7, [1, 3, 5]⟩, ⟨.docTag, "@param", 2, none, none, []⟩,
    ⟨.docString, first, 2, none, none, []⟩, ⟨.docTag, "@param", 3, none, none, []⟩,
    ⟨.docString, second, 3, none, none, []⟩, ⟨.docTag, "@param", 4, none, none, []⟩,
    ⟨.docString, third, 4, none, none, []⟩, ⟨.docClose, "*/", 5, some 0, none, []⟩,
    ⟨.function, "function", 6, none, none, []⟩]⟩

/-- The site of a function with three parameter tags that declares the given parameters. -/
def Site.ofThreeParams (source : Source) (declared : List String) : Site :=
  ⟨source, 8, {}, .fixed none declared, Text.letterClass, "Rules"⟩

/-- Names that differ in case only are accepted in their order, with a tag for further arguments
after them, and rejected in the other order. -/
theorem threeParams_accepted_in_order :
    (∃ block, Block.read (threeParams "int $a" "int $A The other." "mixed $b,...") 0 = .ok block ∧
        block.DocumentsParams ",..." ["$a", "$A"] ∧
        (Rule.params (.ofThreeParams (threeParams "int $a" "int $A The other." "mixed $b,...")
          ["$a", "$A"]) block).diagnostics = []) ∧
      ∃ block, Block.read (threeParams "int $A" "int $a The other." "mixed $b,...") 0 = .ok block ∧
        ¬ block.DocumentsParams ",..." ["$a", "$A"] ∧
        (Rule.params (.ofThreeParams (threeParams "int $A" "int $a The other." "mixed $b,...")
          ["$a", "$A"]) block).diagnostics.map Diagnostic.code =
            ["ParamNameNoCaseMatch", "ParamNameNoCaseMatch"] := by
  have haccepted : ∀ {source : Source} {block : Block}, block.Stands source →
      block.tagsNamed "@inheritdoc" = [] →
      ((Rule.params (.ofThreeParams source ["$a", "$A"]) block).diagnostics = [] ↔
        block.DocumentsParams ",..." ["$a", "$A"]) := by
    intro source block hstands hinherit
    exact ((Rule.params_accepted_iff (.ofThreeParams source ["$a", "$A"]) block hinherit rfl
      (by decide)).2 hstands).2
  refine ⟨⟨_, rfl, ?_⟩, ⟨_, rfl, ?_⟩⟩
  · have hread : Block.read (threeParams "int $a" "int $A The other." "mixed $b,...") 0 = .ok _ :=
      rfl
    obtain ⟨-, token, hreads⟩ := Block.read_eq_ok_iff.mp hread
    exact ⟨(haccepted hreads.stands rfl).mp rfl, rfl⟩
  · have hread : Block.read (threeParams "int $A" "int $a The other." "mixed $b,...") 0 = .ok _ :=
      rfl
    obtain ⟨-, token, hreads⟩ := Block.read_eq_ok_iff.mp hread
    refine ⟨fun hdocuments => ?_, rfl⟩
    exact List.cons_ne_nil _ _ ((haccepted hreads.stands rfl).mpr hdocuments)

/-! ## A tag that is forgotten -/

namespace ParamTag

theorem length_names (params : List ParamTag) : (names params).length = params.length :=
  List.length_map _

theorem names_append (front back : List ParamTag) :
    names (front ++ back) = names front ++ names back :=
  List.map_append

theorem names_take (params : List ParamTag) (count : Nat) :
    names (params.take count) = (names params).take count :=
  List.map_take

theorem names_drop (params : List ParamTag) (count : Nat) :
    names (params.drop count) = (names params).drop count :=
  List.map_drop

end ParamTag

/-- The tags without the one that has the name and comes after `count` others that have it. -/
def Tag.eraseNamed (name : String) : (count : Nat) → List Tag → List Tag
  | _, [] => []
  | count, tag :: rest =>
    if tag.name == name then
      match count with
      | 0 => rest
      | count + 1 => tag :: eraseNamed name count rest
    else tag :: eraseNamed name count rest

namespace Tag

theorem eraseNamed_sublist (name : String) (count : Nat) (tags : List Tag) :
    (eraseNamed name count tags).Sublist tags := by
  fun_induction eraseNamed name count tags with
  | case1 => exact List.Sublist.refl _
  | case2 tag rest => exact List.sublist_cons_self tag rest
  | case3 tag rest _ count ih => exact ih.cons_cons tag
  | case4 count tag rest _ ih => exact ih.cons_cons tag

theorem filter_eraseNamed (name : String) (count : Nat) (tags : List Tag) :
    (eraseNamed name count tags).filter (fun tag => tag.name == name) =
      (tags.filter fun tag => tag.name == name).eraseIdx count := by
  fun_induction eraseNamed name count tags with
  | case1 => rfl
  | case2 tag rest hname => rw [List.filter_cons, if_pos hname, List.eraseIdx_cons_zero]
  | case3 tag rest hname count ih =>
    rw [List.filter_cons, if_pos hname, List.filter_cons, if_pos hname, List.eraseIdx_cons_succ,
      ih]
  | case4 count tag rest hname ih =>
    rw [List.filter_cons, if_neg hname, List.filter_cons, if_neg hname, ih]

end Tag

namespace Block

/-- The comment with one tag less: the parameter tag that comes after `count` others. -/
def forgetParam (block : Block) (count : Nat) : Block :=
  { block with tags := Tag.eraseNamed "@param" count block.tags }

variable {block : Block} {count : Nat}

theorem paramTags_forgetParam (block : Block) (count : Nat) :
    Rule.paramTags (block.forgetParam count) = (Rule.paramTags block).eraseIdx count := by
  rw [Rule.paramTags, Rule.paramTags, List.eraseIdx_map]
  exact congrArg _ (Tag.filter_eraseNamed "@param" count block.tags)

theorem tagsNamed_forgetParam_eq_nil {name : String} (hnone : block.tagsNamed name = []) :
    (block.forgetParam count).tagsNamed name = [] := by
  have hsublist :=
    (Tag.eraseNamed_sublist "@param" count block.tags).filter fun tag => tag.name == name
  exact List.sublist_nil.mp (hnone ▸ hsublist)

theorem Stands.forgetParam {source : Source} (hstands : block.Stands source) :
    (block.forgetParam count).Stands source where
  opener := hstands.opener
  short := hstands.short
  long := hstands.long
  tags tag htag := hstands.tags tag ((Tag.eraseNamed_sublist _ _ _).subset htag)

end Block

/-- What is found in a tag that stands at the place of another parameter. -/
def ParamTag.misplaced (param : ParamTag) (expected : String) : Finding where
  position := param.tag.position
  violation :=
    if Text.toSmall param.fields.variableName = Text.toSmall expected then
      .paramNameNoCaseMatch param.fields.variableName expected
    else .paramNameNoMatch param.fields.variableName expected
  edit? := none

namespace Rule

variable {site : Site} {block : Block}

theorem finds_paramName {param : ParamTag} (hholds : site.source.Holds param.tag.position)
    {expected : String} (hother : expected ≠ param.fields.variableName) :
    (paramName site (some expected) param).Finds site [param.misplaced expected] := by
  have hmismatch : nameMismatch param.fields.variableName expected =
      (param.misplaced expected).violation := by
    rw [nameMismatch, ParamTag.misplaced]
    simp only [eq_comm]
  have hname : paramName site (some expected) param =
      site.expect false param.tag.position (param.misplaced expected).violation := by
    rw [← hmismatch, ← beq_eq_false_iff_ne.mpr hother]
    rfl
  rw [hname]
  exact Site.finds_expect hholds false _

/-- A tag in which only the name is wrong is found once. -/
theorem finds_param {param : ParamTag} (hholds : site.source.Holds param.tag.position)
    (hwell : param.WellWritten) {expected : String}
    (hother : expected ≠ param.fields.variableName) :
    (Rule.param site (some expected) param).Finds site [param.misplaced expected] := by
  rw [Rule.param, if_pos hwell.named, paramTypeSpace_eq_done_iff.mpr hwell.typeSpaced, done_bind,
    paramNameSpace_eq_done_iff.mpr hwell.nameSpaced]
  exact (finds_paramName hholds hother).bind finds_done

/-- Tags that fit the first parameters leave the rest of both lists to be compared. -/
theorem paramPairs_append {front : List ParamTag} (hwell : ∀ param ∈ front, param.WellWritten)
    (declared : List String) (params : List ParamTag) :
    paramPairs site (ParamTag.names front ++ declared) (front ++ params) =
      paramPairs site declared params := by
  induction front with
  | nil => rfl
  | cons param front ih =>
    have hfirst := hwell param List.mem_cons_self
    have hparam : Rule.param site (some param.fields.variableName) param = .done () :=
      (param_eq_done_iff hfirst.named).mpr ⟨⟨hfirst.typeSpaced, hfirst.nameSpaced⟩,
        Site.expect_eq_done_iff.mpr (beq_self_eq_true _)⟩
    have hrest := ih fun other hother => hwell other (List.mem_cons_of_mem param hother)
    rw [← hrest]
    exact congrArg (· >>= _) hparam

/-- **Tags one place too early.** Each is compared with the name before its own, and every one of
them is found. -/
theorem finds_paramPairs {params : List ParamTag}
    (hholds : ∀ param ∈ params, site.source.Holds param.tag.position)
    (hwell : ∀ param ∈ params, param.WellWritten) {expected : String}
    (hdistinct : (expected :: ParamTag.names params).Nodup) :
    (paramPairs site (expected :: ParamTag.names params) params).Finds site
      (List.zipWith ParamTag.misplaced params (expected :: ParamTag.names params)) := by
  induction params generalizing expected with
  | nil => exact finds_done
  | cons param rest ih =>
    have hother : expected ≠ param.fields.variableName :=
      fun heq => (List.nodup_cons.mp hdistinct).1 (heq ▸ List.mem_cons_self)
    have hfirst := finds_param (hholds param List.mem_cons_self)
      (hwell param List.mem_cons_self) hother
    have hrest := ih (fun other hmem => hholds other (List.mem_cons_of_mem param hmem))
      (fun other hmem => hwell other (List.mem_cons_of_mem param hmem))
      (List.nodup_cons.mp hdistinct).2
    exact hfirst.bind hrest

/-- Of distinct names the one that no tag has is reported, and no other. -/
theorem finds_paramsDocumented (hopener : site.source.Holds block.opener)
    {front back : List ParamTag} (hnamed : ∀ param ∈ front ++ back, param.isNamed = true)
    {name : String} (hdistinct : (ParamTag.names front ++ name :: ParamTag.names back).Nodup) :
    (paramsDocumented site block (ParamTag.names front ++ name :: ParamTag.names back)
      (front ++ back)).Finds site [⟨block.opener, .missingParamTag name, none⟩] := by
  have hmissing : name ∉ ParamTag.names (front ++ back) := by
    rw [ParamTag.names_append]
    exact (List.nodup_cons.mp (List.nodup_middle.mp hdistinct)).1
  have hfront : paramsDocumented site block (ParamTag.names front) (front ++ back) = .done () := by
    rw [paramsDocumented_eq_done_iff hnamed, ParamTag.names_append]
    exact fun other hother => List.mem_append_left _ hother
  have hback : paramsDocumented site block (ParamTag.names back) (front ++ back) = .done () := by
    rw [paramsDocumented_eq_done_iff hnamed, ParamTag.names_append]
    exact fun other hother => List.mem_append_right _ hother
  rw [paramsDocumented, List.forM_eq_forM] at hfront hback
  rw [paramsDocumented, List.forM_eq_forM, List.forM_append, List.forM_cons, hfront, done_bind,
    hback, Bool.eq_false_iff.mpr (mt (any_documents_iff hnamed).mp hmissing)]
  exact (Site.finds_expect hopener false (.missingParamTag name)).bind finds_done

/-- **One parameter without a tag.** The tags after the gap are found one by one, and then the
parameter itself. -/
theorem finds_params (hstands : block.Stands site.source)
    (hinherit : block.tagsNamed "@inheritdoc" = []) {front back : List ParamTag}
    (hparams : paramTags block = front ++ back)
    (hwell : ∀ param ∈ paramTags block, param.WellWritten) {name : String}
    (hdeclared : site.signatures.parameters site.source site.anchor =
      .ok (ParamTag.names front ++ name :: ParamTag.names back))
    (hdistinct : (ParamTag.names front ++ name :: ParamTag.names back).Nodup) :
    (params site block : Check Unit).Finds site
      (List.zipWith ParamTag.misplaced back (name :: ParamTag.names back) ++
        [⟨block.opener, .missingParamTag name, none⟩]) := by
  have hholds : ∀ param ∈ paramTags block, site.source.Holds param.tag.position :=
    fun param hparam => (stands_of_mem_paramTags hstands hparam).position
  have hfields : (paramTags block).forM (paramFields site) = .done () :=
    forM_eq_done_iff.mpr fun param hparam =>
      paramFields_eq_done_iff.mpr ⟨(hwell param hparam).type, (hwell param hparam).named⟩
  rw [Rule.params, hfields, done_bind, hdeclared, ofExcept_ok_bind, hinherit]
  rw [hparams] at hholds hwell ⊢
  rw [paramPairs_append fun param hparam => hwell param (List.mem_append_left back hparam)]
  refine Finds.bind (finds_paramPairs ?_ ?_ (List.nodup_append.mp hdistinct).2.1) ?_
  · exact fun param hparam => hholds param (List.mem_append_right front hparam)
  · exact fun param hparam => hwell param (List.mem_append_right front hparam)
  · exact finds_paramsDocumented hstands.opener (fun param hparam => (hwell param hparam).named)
      hdistinct

/-- **A forgotten parameter is reported precisely.** Of a comment that documents `n` parameters the
tag at place `i` is left out. Each later tag is blamed for a name that differs from the one before
its own, in case only or altogether. Then the parameter at place `i` is reported at the opener as
the only one that is missing, which makes `n - i` diagnostics. -/
theorem forgotten_parameter_reported (site : Site) (block : Block)
    (hstands : block.Stands site.source) (hinherit : block.tagsNamed "@inheritdoc" = [])
    {declared : List String}
    (hdeclared : site.signatures.parameters site.source site.anchor = .ok declared)
    (hdistinct : declared.Nodup) (hwell : ∀ param ∈ paramTags block, param.WellWritten)
    (hnames : ParamTag.names (paramTags block) = declared) (i : Nat) (hi : i < declared.length) :
    (params site (block.forgetParam i)).Succeeds ∧
      (params site (block.forgetParam i)).diagnostics.length = declared.length - i ∧
      List.Forall₂ (Finding.WordedAs site)
        (List.zipWith ParamTag.misplaced ((paramTags block).drop (i + 1)) (declared.drop i) ++
          [⟨block.opener, .missingParamTag declared[i], none⟩])
        (params site (block.forgetParam i)).diagnostics := by
  subst hnames
  have hparams : paramTags (block.forgetParam i) =
      (paramTags block).take i ++ (paramTags block).drop (i + 1) := by
    rw [Block.paramTags_forgetParam, List.eraseIdx_eq_take_drop_succ]
  have hdrop : (ParamTag.names (paramTags block)).drop i =
      (ParamTag.names (paramTags block))[i] ::
        ParamTag.names ((paramTags block).drop (i + 1)) := by
    rw [List.drop_eq_getElem_cons hi, ParamTag.names_drop]
  have hsplit : ParamTag.names (paramTags block) =
      ParamTag.names ((paramTags block).take i) ++ (ParamTag.names (paramTags block))[i] ::
        ParamTag.names ((paramTags block).drop (i + 1)) := by
    rw [← hdrop, ParamTag.names_take, List.take_append_drop]
  have hkept : ∀ param ∈ paramTags (block.forgetParam i), param.WellWritten := by
    rw [Block.paramTags_forgetParam]
    exact fun param hparam => hwell param (List.mem_of_mem_eraseIdx hparam)
  have hfinds := finds_params hstands.forgetParam (Block.tagsNamed_forgetParam_eq_nil hinherit)
    hparams hkept (hsplit ▸ hdeclared) (hsplit ▸ hdistinct)
  rw [← hdrop] at hfinds
  refine ⟨hfinds.succeeds, ?_, hfinds.worded⟩
  rw [← hfinds.worded.length_eq, List.length_append, List.length_zipWith, List.length_drop,
    List.length_drop, List.length_singleton]
  rw [ParamTag.length_names] at hi ⊢
  omega

end Rule

/-- The first of three tags is forgotten. The second one now stands for a name that differs in case
only, the third one for another name, and the first parameter is missing. -/
theorem threeParams_first_forgotten :
    ∃ block, Block.read (threeParams "int $a" "int $A The other." "int $b") 0 = .ok block ∧
      ParamTag.names (Rule.paramTags block) = ["$a", "$A", "$b"] ∧
      (Rule.params (.ofThreeParams (threeParams "int $a" "int $A The other." "int $b")
        ["$a", "$A", "$b"]) (block.forgetParam 0)).diagnostics.length = 3 ∧
      (Rule.params (.ofThreeParams (threeParams "int $a" "int $A The other." "int $b")
        ["$a", "$A", "$b"]) (block.forgetParam 0)).diagnostics.map Diagnostic.code =
          ["ParamNameNoCaseMatch", "ParamNameNoMatch", "MissingParamTag"] := by
  refine ⟨_, rfl, rfl, ?_, rfl⟩
  have hread : Block.read (threeParams "int $a" "int $A The other." "int $b") 0 = .ok _ := rfl
  obtain ⟨-, token, hreads⟩ := Block.read_eq_ok_iff.mp hread
  refine (Rule.forgotten_parameter_reported
    (.ofThreeParams (threeParams "int $a" "int $A The other." "int $b") ["$a", "$A", "$b"]) _
    hreads.stands rfl rfl (by decide) ?_ rfl 0 (by decide)).2.1
  refine List.forall_mem_cons.mpr ⟨⟨by decide, rfl, rfl, rfl⟩, ?_⟩
  refine List.forall_mem_cons.mpr ⟨⟨by decide, rfl, rfl, rfl⟩, ?_⟩
  exact List.forall_mem_singleton.mpr ⟨by decide, rfl, rfl, rfl⟩

end DocLint

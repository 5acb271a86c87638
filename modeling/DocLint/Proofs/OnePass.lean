import DocLint.Proofs.Inspection
import DocLint.Proofs.Loading

/-!
# One pass is enough

After the edits of one pass have been applied, a second pass over the same source with the same
checkers asks for no edits. Nothing is assumed about the references of the source.

There are three reasons why a second pass could ask for more, and each is excluded. A respaced text
could need respacing: it does not, because it parses to the same fields with single spaces. A
comment that was passed over as inherited could now be reviewed: it is not, because respacing never
loses the marker. A rule could break off that did not break off before: it does not, because rules
that look at texts never break off, and the others find in the second pass what they found in the
first. The last reason needs that tags keep their names, also where a tag list points at a text
token; they do because respaced texts have a mark and the names of tags have none.
-/

namespace DocLint

open Check

/-! ## Names of tags -/

/-- A name in which no variable begins. -/
def Unmarked (name : String) : Prop :=
  ∀ c ∈ name.toList, ParamText.isMark c = false

instance (name : String) : Decidable (Unmarked name) :=
  List.decidableBAll (ParamText.isMark · = false) name.toList

/-- The names of tags are unmarked. -/
theorem unmarked_of_isTagName {name : String} (hname : isTagName name = true) : Unmarked name := by
  unfold isTagName at hname
  unfold Unmarked
  split at hname
  · rename_i rest hcons
    rw [hcons]
    intro c hc
    rcases List.mem_cons.mp hc with rfl | hc
    · decide
    · rw [Bool.and_eq_true, List.all_eq_true] at hname
      have hword := hname.2 c hc
      unfold ParamText.isMark
      rw [Bool.or_eq_false_iff, beq_eq_false_iff_ne, beq_eq_false_iff_ne]
      refine ⟨?_, ?_⟩ <;> rintro rfl <;> revert hword <;> decide +kernel
  · cases hname

/-- A text and its respaced form both have a mark. -/
theorem not_unmarked_of_respaced {slot : Slot} {content : String}
    (hrespaced : Respaced slot content) : ¬ Unmarked slot.content ∧ ¬ Unmarked content := by
  obtain ⟨hvariable, rfl⟩ := hrespaced
  obtain ⟨reading, htext, -, hcanonical⟩ := ParamText.exists_reading_parse hvariable
  refine ⟨fun hunmarked => ?_, fun hunmarked => ?_⟩
  · have hmark := hunmarked reading.mark (by rw [← htext]; simp [ParamText.Reading.text])
    rw [reading.mark_isMark] at hmark
    cases hmark
  · have hmark := hunmarked reading.mark (by
      rw [hcanonical, String.toList_ofList]
      simp [ParamText.Reading.text, ParamText.Reading.canonical])
    rw [reading.mark_isMark] at hmark
    cases hmark

/-- Respacing makes no difference to whether a tag has a given name. -/
theorem Tag.Rewrites.name_beq {tag tag' : Tag} (htag : Tag.Rewrites Respaced tag tag')
    {name : String} (hname : Unmarked name) : (tag'.name == name) = (tag.name == name) := by
  obtain ⟨slot, slot', hslot, hold, hnew⟩ := htag.name
  rw [← hold, ← hnew]
  rcases hslot with rfl | ⟨-, content, hrespaced, rfl⟩
  · rfl
  · obtain ⟨hmarked, hmarked'⟩ := not_unmarked_of_respaced hrespaced
    have hne : slot.content ≠ name := fun heq => hmarked (heq ▸ hname)
    have hne' : content ≠ name := fun heq => hmarked' (heq ▸ hname)
    rw [show (slot.withText content).content = content from rfl, beq_eq_false_iff_ne.mpr hne,
      beq_eq_false_iff_ne.mpr hne']

/-- The tags of a name correspond. -/
theorem Block.Rewrites.tagsNamed {block block' : Block}
    (hblock : Block.Rewrites Respaced block block') (name : String) (hname : Unmarked name) :
    List.Forall₂ (Tag.Rewrites Respaced) (block.tagsNamed name) (block'.tagsNamed name) := by
  refine List.rel_filter (fun tag tag' htag => ?_) hblock.tags
  simp only [htag.name_beq hname]

/-! ## Rules that end in both passes -/

namespace Check

variable {α β : Type} {check check' : Check α} {next next' : α → Check β}

/-- A sequence ends if another one does that begins with the same check. -/
theorem Succeeds.of_same (hsequence : (check >>= next).Succeeds) (hsame : check' = check)
    (hnext : ∀ value, check.outcome = .ok value → (next value).Succeeds → (next' value).Succeeds) :
    (check' >>= next').Succeeds := by
  obtain ⟨value, hvalue, hrest⟩ := succeeds_bind_iff.mp hsequence
  exact succeeds_bind_iff.mpr ⟨value, hsame ▸ hvalue, hnext value hvalue hrest⟩

/-- A sequence ends if its first check does and the rest does where it did in another one. -/
theorem Succeeds.of_succeeds (hsequence : (check >>= next).Succeeds) (hcheck : check'.Succeeds)
    (hnext : ∀ value value', (next value).Succeeds → (next' value').Succeeds) :
    (check' >>= next').Succeeds := by
  obtain ⟨value, -, hrest⟩ := succeeds_bind_iff.mp hsequence
  obtain ⟨value', hvalue'⟩ := hcheck
  exact succeeds_bind_iff.mpr ⟨value', hvalue', hnext value value' hrest⟩

end Check

section SecondPass

variable {site : Site} {source' : Source}
variable (halike : site.source.Alike source')
variable {block block' : Block} (hblock : Block.Rewrites Respaced block block')
variable (hstands' : block'.Stands source')

namespace Rule

include halike hblock hstands'

/-- The walk through the table ends in the second pass if it did in the first. -/
theorem succeeds_tagOrder_on {specs : List TagSpec} (hspecs : ∀ spec ∈ specs, Unmarked spec.name)
    {construct : String} {place place' : Nat} {rest rest' : List Tag}
    (hrest : List.Forall₂ (Tag.Rewrites Respaced) rest rest')
    (hrests' : ∀ tag ∈ rest', tag.Stands source')
    (hsucceeds : (tagOrder site block construct .builtIn place rest specs).Succeeds) :
    (tagOrder (site.on source') block' construct .builtIn place' rest' specs).Succeeds := by
  induction specs generalizing place place' rest rest' with
  | nil => exact succeeds_done ()
  | cons spec specs ih =>
    have hspec := hspecs spec List.mem_cons_self
    have hothers : ∀ other ∈ specs, Unmarked other.name :=
      fun other hother => hspecs other (List.mem_cons_of_mem spec hother)
    have hnamed := hblock.tagsNamed spec.name hspec
    have hnamed' : ∀ tag ∈ block'.tagsNamed spec.name, tag.Stands source' :=
      fun tag htag => hstands'.tags tag (Block.mem_tagsNamed.mp htag).1
    unfold tagOrder at hsucceeds ⊢
    generalize block.tagsNamed spec.name = tags, block'.tagsNamed spec.name = tags'
      at hnamed hnamed' hsucceeds ⊢
    cases hnamed with
    | nil =>
      refine hsucceeds.of_same ?_ fun _ _ hnext => ih hothers hrest hrests' hnext
      rw [hblock.closer_eq, Site.expect_on halike]
    | cons htag htags =>
      refine hsucceeds.of_succeeds (succeeds_processTags hnamed' (by simp) _) fun _ _ hnext => ?_
      cases hrest with
      | nil => exact succeeds_done ()
      | @cons first first' others others' hfirst hlater =>
        have hfirst' := hrests' first' List.mem_cons_self
        refine hnext.of_succeeds (Site.succeeds_expect hfirst'.position _ _) fun _ _ hnext => ?_
        refine ih hothers ?_ (fun tag htag => ?_) hnext
        · exact forall₂_dropWhile (fun tag tag' htag => htag.name_beq hspec) hlater
        · have hmem : tag ∈ others' := (List.dropWhile_sublist _).mem htag
          exact hrests' tag (List.mem_cons_of_mem first' hmem)

/-- The rules about the table of tags end in the second pass if they did in the first. -/
theorem succeeds_tagTable_on {specs : List TagSpec} (hspecs : ∀ spec ∈ specs, Unmarked spec.name)
    {construct : String} (hsucceeds : (tagTable site block specs construct .builtIn).Succeeds) :
    (tagTable (site.on source') block' specs construct .builtIn).Succeeds := by
  have htable : List.Forall₂ (Tag.Rewrites Respaced) (tableTags specs block)
      (tableTags specs block') := by
    refine List.rel_filter (fun tag tag' htag => ?_) hblock.tags
    simp only [specNamed?, List.find?_isSome]
    refine exists_congr fun spec => and_congr_right fun hspec => ?_
    have hbeq := htag.name_beq (hspecs spec (List.mem_reverse.mp hspec))
    rw [Bool.beq_comm, ← hbeq, Bool.beq_comm]
  have hstands : ∀ tag ∈ tableTags specs block', tag.Stands source' :=
    fun tag htag => hstands'.tags tag (List.mem_filter.mp htag).1
  unfold tagTable at hsucceeds ⊢
  refine hsucceeds.of_succeeds (succeeds_tagOccurrences _ _ _ hstands) fun _ _ hnext => ?_
  exact succeeds_tagOrder_on halike hblock hstands' hspecs htable hstands hnext

end Rule

namespace Review

include halike hblock hstands'

theorem succeeds_file_on (hspecs : ∀ spec ∈ site.config.file.tags, Unmarked spec.name)
    (hsucceeds : (file site .builtIn block).Succeeds) :
    (file (site.on source') .builtIn block').Succeeds := by
  unfold file at hsucceeds ⊢
  rw [hblock.isSome_first]
  refine hsucceeds.of_same (Rule.rightBelowOpenTag_on halike hblock) fun _ _ hsucceeds => ?_
  refine hsucceeds.of_same (Rule.blankLineAfterFileComment_on halike hblock)
    fun _ _ hsucceeds => ?_
  refine hsucceeds.of_same (Rule.shortDescription_on halike hblock _ _)
    fun described _ hsucceeds => ?_
  rw [Site.config_on]
  split at hsucceeds
  · rename_i hchecks
    rw [if_pos hchecks]
    exact Rule.succeeds_tagTable_on halike hblock hstands' hspecs hsucceeds
  · rename_i hchecks
    rw [if_neg hchecks]
    exact succeeds_done ()

theorem succeeds_classBody_on {construct : String}
    (hsucceeds : (classBody site block construct).Succeeds) :
    (classBody (site.on source') block' construct).Succeeds := by
  unfold classBody at hsucceeds ⊢
  refine hsucceeds.of_same (Rule.firstLine_on halike hblock) fun _ _ hsucceeds => ?_
  refine hsucceeds.of_same (Rule.shortOnOneLine_on halike hblock) fun _ _ hsucceeds => ?_
  refine hsucceeds.of_succeeds (Rule.succeeds_shortCapital hstands' _) fun _ _ hsucceeds => ?_
  refine hsucceeds.of_succeeds (Rule.succeeds_shortFullStop hstands'.opener)
    fun _ _ hsucceeds => ?_
  refine hsucceeds.of_succeeds (Rule.succeeds_longDescription hstands' _) fun _ _ hsucceeds => ?_
  refine hsucceeds.of_succeeds (succeeds_noTags hstands') fun _ _ hsucceeds => ?_
  refine hsucceeds.of_same (Rule.noBlankBeforeCloser_on halike hblock) fun _ _ hsucceeds => ?_
  rw [Rule.noBlankAfterComment_on halike hblock]
  exact hsucceeds

theorem succeeds_classLike_on (hanchor : source'.get site.anchor = site.source.get site.anchor)
    (hsucceeds : (classLike site block).Succeeds) :
    (classLike (site.on source') block').Succeeds := by
  unfold classLike at hsucceeds ⊢
  rw [hblock.isSome_short]
  refine hsucceeds.of_same (congrArg Check.ofExcept hanchor) fun token _ hsucceeds => ?_
  refine hsucceeds.of_same (Rule.closerAlone_on halike hblock) fun alone _ hsucceeds => ?_
  cases alone with
  | false => exact succeeds_done ()
  | true =>
    refine hsucceeds.of_same (Rule.shortDescription_on halike hblock _ _)
      fun described _ hsucceeds => ?_
    cases described with
    | false => exact succeeds_done ()
    | true => exact succeeds_classBody_on halike hblock hstands' hsucceeds

theorem succeeds_functionTags_on
    (hname : site.signatures.name? source' site.anchor =
      site.signatures.name? site.source site.anchor)
    (hparameters : site.signatures.parameters source' site.anchor =
      site.signatures.parameters site.source site.anchor)
    (hsucceeds : (functionTags site block).Succeeds) :
    (functionTags (site.on source') block').Succeeds := by
  unfold functionTags at hsucceeds ⊢
  refine hsucceeds.of_succeeds (Rule.succeeds_see hstands') fun _ _ hsucceeds => ?_
  refine hsucceeds.of_same (Rule.blankLineBeforeTags_on halike hblock) fun _ _ hsucceeds => ?_
  have hparams := (hblock.tagsNamed "@param" (by decide)).imp
    fun _ _ (htag : Tag.Rewrites Respaced _ _) => And.intro htag.position_eq htag.line_eq
  refine hsucceeds.of_same (Rule.blankLineBeforeParams_on halike hblock hparams)
    fun _ _ hsucceeds => ?_
  refine hsucceeds.of_same (congrArg Check.ofExcept hname) fun _ _ hsucceeds => ?_
  refine hsucceeds.of_succeeds (Rule.succeeds_returns hstands' _) fun _ _ hsucceeds => ?_
  refine hsucceeds.of_succeeds (Rule.succeeds_throws hstands' _) fun _ _ hsucceeds => ?_
  obtain ⟨_, -, hsucceeds⟩ := succeeds_bind_iff.mp hsucceeds
  obtain ⟨declared, hdeclared, -⟩ := succeeds_bind_iff.mp hsucceeds
  exact Rule.succeeds_params hstands' (hparameters.trans hdeclared)

theorem succeeds_function_on (hinherits : block.inheritsDoc = true → block'.inheritsDoc = true)
    (hname : site.signatures.name? source' site.anchor =
      site.signatures.name? site.source site.anchor)
    (hparameters : site.signatures.parameters source' site.anchor =
      site.signatures.parameters site.source site.anchor)
    (hsucceeds : (function site block).Succeeds) :
    (function (site.on source') block').Succeeds := by
  have hstop : (functionFullStop (site.on source') block').Succeeds := by
    unfold functionFullStop
    split
    · exact Rule.succeeds_shortFullStop hstands'.opener
    · exact succeeds_done ()
  unfold function at hsucceeds ⊢
  rw [hblock.isSome_first]
  refine hsucceeds.of_same (Rule.noBlankAfterComment_on halike hblock _)
    fun _ _ hsucceeds => ?_
  refine hsucceeds.of_same (Rule.shortDescription_on halike hblock _ _)
    fun described _ hsucceeds => ?_
  cases described with
  | false => exact succeeds_done ()
  | true =>
    rw [if_pos rfl, functionBody_eq] at hsucceeds ⊢
    refine hsucceeds.of_same (Rule.firstLine_on halike hblock) fun _ _ hsucceeds => ?_
    refine hsucceeds.of_succeeds (Rule.succeeds_shortCapital hstands' _) fun _ _ hsucceeds => ?_
    refine hsucceeds.of_succeeds hstop fun _ _ hsucceeds => ?_
    cases hskipped : block'.inheritsDoc with
    | true => exact succeeds_done ()
    | false =>
      have hreviewed : block.inheritsDoc = false := by
        cases hold : block.inheritsDoc with
        | false => rfl
        | true => rw [← hskipped, hinherits hold]
      rw [hreviewed] at hsucceeds
      exact succeeds_functionTags_on halike hblock hstands' hname hparameters hsucceeds

end Review

end SecondPass

/-! ## Edits of the second pass -/

/-- **No comment is reviewed anew.** A comment that was inherited still is. -/
theorem Block.inheritsDoc_of_respaced {source source' : Source}
    (hrewrites : Source.Rewrites Respaced source source') {block block' : Block}
    (hblock : Block.Rewrites Respaced block block') {token token' : Token}
    (hreads : block.Reads source token) (hreads' : block'.Reads source' token')
    (hinherits : block.inheritsDoc = true) : block'.inheritsDoc = true := by
  rw [inheritsDoc_eq_true_iff] at hinherits ⊢
  rw [hreads.text] at hinherits
  rw [hreads'.text, hblock.opener_eq, hblock.closer_eq]
  exact hrewrites.marked_text (fun slot content => keepsMarker_of_respaced) hinherits

/-- A parameter tag whose edits are in force asks for no more. -/
theorem ParamTag.edits_eq_nil_of_inForce {source' : Source} {tag tag' : Tag}
    (htag : Tag.Rewrites Respaced tag tag') (hstands' : tag'.Stands source')
    (hforce : Edit.InForce source' (ofTag tag).edits) : (ofTag tag').edits = [] := by
  by_contra hne
  obtain ⟨edit, hedit⟩ := List.exists_mem_of_ne_nil _ hne
  obtain ⟨inline', hnew, hvariable, hcanonical⟩ := eq_of_mem_edits hedit
  obtain ⟨inline, hold, slot, slot', hslot, rfl, rfl⟩ := htag.exists_inline hnew
  rcases hslot with rfl | ⟨-, content, hrespaced, rfl⟩
  · -- The text is the old one. Its edits are in force, so it is its own respaced form.
    have hsame : (ofTag tag').edits = (ofTag tag).edits := by
      unfold edits isNamed typeSpaced nameSpaced canonicalEdit? ofTag
      rw [hold, hnew]
    obtain ⟨token, hat, hcontent⟩ := hforce edit (hsame ▸ hedit)
    obtain ⟨token', hat', -, hcontent'⟩ := hstands'.inline _ hnew
    rw [hcanonical, hat', Option.some.injEq] at hat
    subst hat
    have hrespaced : Respaced slot' slot'.content :=
      ⟨hvariable, hcontent'.symm.trans (hcontent.trans (congrArg Edit.content hcanonical))⟩
    exact hne (edits_eq_nil_of_respaced hnew hrespaced)
  · exact hne (edits_eq_nil_of_respaced hnew hrespaced)

/-- A comment whose edits are in force asks for no more. -/
theorem Block.spacingEdits_eq_nil_of_inForce {source' : Source} {block block' : Block}
    (hblock : Block.Rewrites Respaced block block') (hstands' : block'.Stands source')
    (hinherits : block.inheritsDoc = true → block'.inheritsDoc = true)
    (hforce : Edit.InForce source' block.spacingEdits) : block'.spacingEdits = [] := by
  unfold spacingEdits
  split
  · rename_i hreviewed'
    have hreviewed : (block.firstContent?.isSome && !block.inheritsDoc) = true := by
      rw [hblock.isSome_first, Bool.and_eq_true, Bool.not_eq_true'] at hreviewed'
      rw [Bool.and_eq_true, Bool.not_eq_true', Bool.eq_false_iff]
      refine ⟨hreviewed'.1, fun hold => ?_⟩
      rw [hinherits hold] at hreviewed'
      cases hreviewed'.2
    unfold spacingEdits at hforce
    rw [if_pos hreviewed] at hforce
    refine List.flatMap_eq_nil_iff.mpr fun param hparam => ?_
    obtain ⟨tag', htag', rfl⟩ := List.mem_map.mp hparam
    obtain ⟨tag, htag, hrewrites⟩ :=
      exists_partner_of_forall₂ (hblock.tagsNamed "@param" (by decide)) htag'
    have hstands := hstands'.tags tag' (mem_tagsNamed.mp htag').1
    refine ParamTag.edits_eq_nil_of_inForce hrewrites hstands fun edit hedit => hforce edit ?_
    exact List.mem_flatMap.mpr ⟨_, List.mem_map.mpr ⟨tag, htag, rfl⟩, hedit⟩
  · rfl

/-! ## The second pass -/

namespace DocChecker

/-- A checker as it is set up from a configuration, with signatures from the tokens or from
elsewhere. -/
structure Standard (checker : DocChecker Check) : Prop where
  /-- Signatures are read from the tokens, or without looking at them. -/
  signatures : checker.signatures = .ofTokens ∨ checker.signatures.IgnoresTokens
  /-- The checks of single tags are the built-in ones. -/
  processors : checker.processors = .builtIn
  /-- The table of tags has names of tags. -/
  tagNames : ∀ spec ∈ checker.config.file.tags, isTagName spec.name = true

/-- The checker of a configuration that was loaded is standard. -/
theorem standard_ofConfig {fields : Fields} {config : Config}
    (hload : Config.load fields = .ok config) : (ofConfig config).Standard :=
  ⟨Or.inl rfl, rfl, Config.isTagName_of_load hload⟩

variable {checker : DocChecker Check} {source source' : Source}

/-- Reviews end in the second pass if they did in the first. -/
theorem succeeds_review_on (hstandard : checker.Standard)
    (hrewrites : source.Rewrites Respaced source') {position : Int} {subject : Subject}
    {block block' : Block} (hdocuments : block.Documents source position subject)
    (hdocuments' : block'.Documents source' position subject)
    (hblock : Block.Rewrites Respaced block block')
    (hsucceeds : (subject.review (checker.site source position subject) .builtIn block).Succeeds) :
    (subject.review (checker.site source' position subject) .builtIn block').Succeeds := by
  obtain ⟨token, hat, hsubject⟩ := hdocuments.declares
  obtain ⟨opener, hreads⟩ := hdocuments.reads
  obtain ⟨opener', hreads'⟩ := hdocuments'.reads
  have hsite : (checker.site source position subject).source.Alike source' := hrewrites.alike
  obtain ⟨hname, hparameters⟩ :=
    Source.signature_eq hrewrites.namesAlike hstandard.signatures position
  cases subject with
  | file =>
    refine Review.succeeds_file_on hsite hblock hreads'.stands (fun spec hspec => ?_) hsucceeds
    exact unmarked_of_isTagName (hstandard.tagNames spec hspec)
  | classLike =>
    refine Review.succeeds_classLike_on hsite hblock hreads'.stands ?_ hsucceeds
    have hat' := declaration_on hrewrites hat hsubject
    exact (Source.get_eq_ok_iff.mpr hat').trans (Source.get_eq_ok_iff.mpr hat).symm
  | function =>
    exact Review.succeeds_function_on hsite hblock hreads'.stands
      (Block.inheritsDoc_of_respaced hrewrites hblock hreads hreads') hname hparameters hsucceeds

/-- **The second inspection.** It ends and asks for no edits. -/
theorem second_inspection (hstandard : checker.Standard)
    (hrewrites : source.Rewrites Respaced source') {slot : Slot} (hslot : slot ∈ source.slots)
    (hkind : checker.kinds.contains slot.kind = true)
    (hsucceeds : (checker.inspect source slot.position).Succeeds)
    (hforce : Edit.InForce source' (checker.inspect source slot.position).edits) :
    (checker.inspect source' slot.position).Succeeds ∧
      (checker.inspect source' slot.position).edits = [] := by
  have hat := Source.token?_of_mem_slots hslot
  rcases inspect_rel hrewrites hat hkind hsucceeds with
    ⟨subject, block, block', hdocuments, hdocuments', hblock⟩ | ⟨hsame, hedits⟩
  · obtain ⟨opener, hreads⟩ := hdocuments.reads
    obtain ⟨opener', hreads'⟩ := hdocuments'.reads
    rw [inspect_eq_review hdocuments, hstandard.processors] at hsucceeds hforce
    rw [inspect_eq_review hdocuments', hstandard.processors]
    rw [Subject.edits_review hreads.stands hsucceeds] at hforce
    have hsucceeds' :=
      succeeds_review_on hstandard hrewrites hdocuments hdocuments' hblock hsucceeds
    refine ⟨hsucceeds', ?_⟩
    rw [Subject.edits_review hreads'.stands hsucceeds']
    split
    · rename_i hfunction
      rw [if_pos hfunction] at hforce
      exact Block.spacingEdits_eq_nil_of_inForce hblock hreads'.stands
        (Block.inheritsDoc_of_respaced hrewrites hblock hreads hreads') hforce
    · rfl
  · rw [hsame]
    exact ⟨hsucceeds, hedits⟩

end DocChecker

namespace Source

variable {checkers : List (DocChecker Check)} {source fixed : Source} {report : Report}

/-- A pass over the source ends and asks for no edits. -/
def Settled (source : Source) (checkers : List (Checker Check)) : Prop :=
  (source.inspect checkers).Succeeds ∧ (source.inspect checkers).edits = []

/-- **The second pass** ends and asks for no edits, if the edits of the first are in force. -/
theorem second_pass (hstandard : ∀ checker ∈ checkers, checker.Standard)
    (hrewrites : source.Rewrites Respaced fixed)
    (hsucceeds : (source.inspect (checkers.map DocChecker.toChecker)).Succeeds)
    (hforce : Edit.InForce fixed (source.inspect (checkers.map DocChecker.toChecker)).edits) :
    fixed.Settled (checkers.map DocChecker.toChecker) := by
  have hsecond : ∀ checker slot', fixed.Inspects (checkers.map DocChecker.toChecker) checker slot' →
      (checker.inspect fixed slot'.position).Succeeds ∧
        (checker.inspect fixed slot'.position).edits = [] := by
    intro checker slot' hinspects'
    obtain ⟨docChecker, hchecker, rfl, hslot', hkind⟩ := inspects_map_iff.mp hinspects'
    obtain ⟨slot, hslot, hrel⟩ := exists_partner_of_forall₂ hrewrites.slots_rel hslot'
    rw [hrel.kind_eq] at hkind
    rw [hrel.position_eq]
    have hinspects := inspects_map_iff.mpr ⟨docChecker, hchecker, rfl, hslot, hkind⟩
    have hends := succeeds_inspect_iff.mp hsucceeds docChecker.toChecker slot hinspects
    refine DocChecker.second_inspection (hstandard docChecker hchecker) hrewrites hslot hkind hends
      fun edit hedit => hforce edit ?_
    exact (mem_edits_inspect_iff hsucceeds).mpr ⟨docChecker.toChecker, slot, hinspects, hedit⟩
  have hsucceeds' : (fixed.inspect (checkers.map DocChecker.toChecker)).Succeeds :=
    succeeds_inspect_iff.mpr fun checker slot' hinspects => (hsecond checker slot' hinspects).1
  refine ⟨hsucceeds', List.eq_nil_iff_forall_not_mem.mpr fun edit hedit => ?_⟩
  obtain ⟨checker, slot', hinspects, hedit⟩ := (mem_edits_inspect_iff hsucceeds').mp hedit
  rw [(hsecond checker slot' hinspects).2] at hedit
  cases hedit

/-! ## Fixing -/

/-- The report of a settled source has no edits and nothing that can be repaired. -/
theorem Settled.exists_report {checkers : List (Checker Check)} (hsettled : source.Settled checkers)
    (fixing : Bool) :
    ∃ report, source.report checkers fixing = .ok report ∧ report.edits = [] ∧
      report.fixable = [] := by
  obtain ⟨hsucceeds, hedits⟩ := hsettled
  refine ⟨_, report_eq_ok_iff.mpr ⟨hsucceeds, rfl⟩, ?_, Report.fixable_eq_nil hedits⟩
  cases fixing with
  | false => rfl
  | true => exact hedits

/-- Fixing leaves a settled source as it is. -/
theorem Settled.exists_fix {checkers : List (Checker Check)} (hsettled : source.Settled checkers)
    (passes : Nat) :
    ∃ last, Source.fix checkers passes source = .ok (source, last) ∧ last.edits = [] ∧
      last.fixable = [] := by
  cases passes with
  | zero =>
    obtain ⟨last, hlast, hclean⟩ := hsettled.exists_report false
    refine ⟨last, ?_, hclean⟩
    unfold Source.fix
    rw [hlast]
    rfl
  | succ passes =>
    obtain ⟨last, hlast, hclean⟩ := hsettled.exists_report true
    refine ⟨last, ?_, hclean⟩
    unfold Source.fix
    rw [hlast]
    simp [bind, Except.bind, pure, Except.pure, hclean.1]

/-- The edits of one pass settle the source. -/
theorem settled_of_apply (hstandard : ∀ checker ∈ checkers, checker.Standard)
    (hreport : source.report (checkers.map DocChecker.toChecker) true = .ok report)
    (hfixed : source.apply report.edits = .ok fixed) :
    fixed.Settled (checkers.map DocChecker.toChecker) := by
  obtain ⟨hsucceeds, rfl⟩ := report_eq_ok_iff.mp hreport
  obtain ⟨⟨hinside, hagree⟩, rfl⟩ := apply_eq_ok_iff.mp hfixed
  have hrespaces : ∀ edit ∈ (source.inspect (checkers.map DocChecker.toChecker)).edits,
      edit.Respaces source := by
    intro edit hedit
    exact respaces_of_mem_edits (fun checker hchecker => (hstandard checker hchecker).processors)
      hsucceeds hedit
  have hrewrites := (rewrites_edited hrespaces).mono fun _ _ hwrites => hwrites.1
  exact second_pass hstandard hrewrites hsucceeds (inForce_edited hinside hagree)

/-- **One pass is enough.** For every source, with whatever references, and every list of standard
checkers: once the edits that a pass asks for have been applied, a second pass ends and asks for
none. So fixing with two passes or more ends with exactly that source, and fixing that source
changes nothing. -/
theorem one_pass_is_enough (hstandard : ∀ checker ∈ checkers, checker.Standard)
    (hreport : source.report (checkers.map DocChecker.toChecker) true = .ok report)
    (hfixed : source.apply report.edits = .ok fixed) :
    (∃ second, fixed.report (checkers.map DocChecker.toChecker) true = .ok second ∧
        second.edits = [] ∧ second.fixable = []) ∧
      (∀ passes, 2 ≤ passes →
        ∃ last, Source.fix (checkers.map DocChecker.toChecker) passes source = .ok (fixed, last) ∧
          last.edits = [] ∧ last.fixable = []) ∧
      ∀ passes, ∃ last,
        Source.fix (checkers.map DocChecker.toChecker) passes fixed = .ok (fixed, last) ∧
          last.edits = [] ∧ last.fixable = [] := by
  have hsettled := settled_of_apply hstandard hreport hfixed
  refine ⟨hsettled.exists_report true, fun passes hpasses => ?_, hsettled.exists_fix⟩
  obtain ⟨passes, rfl⟩ : ∃ more, passes = more + 2 := ⟨passes - 2, by omega⟩
  unfold Source.fix
  rw [hreport]
  by_cases hnone : report.edits = []
  · -- The first pass asks for nothing, so the source is settled as it is.
    rw [hnone] at hfixed
    obtain rfl : fixed = source := by
      rw [(apply_eq_ok_iff.mp hfixed).2, edited_nil]
    obtain ⟨last, hlast, hclean⟩ := hsettled.exists_report true
    obtain rfl := Except.ok.inj (hreport.symm.trans hlast)
    exact ⟨report, by simp [bind, Except.bind, pure, Except.pure, hnone], hclean⟩
  · obtain ⟨last, hlast, hclean⟩ := hsettled.exists_fix (passes + 1)
    exact ⟨last, by simp [bind, Except.bind, hnone, hfixed, hlast], hclean⟩

/-- Two functions whose comments overlap: both own the one parameter tag. -/
def overlappingComments : Source :=
  ⟨#[⟨.docOpen, "/**", 1, none, some 5, [3]⟩, ⟨.docOpen, "/**", 1, none, some 5, [3]⟩,
    ⟨.docString, "Adds.", 2, none, none, []⟩, ⟨.docTag, "@param", 4, none, none, []⟩,
    ⟨.docString, "int   $x  The number.", 4, none, none, []⟩,
    ⟨.docClose, "*/", 5, some 0, none, []⟩, ⟨.function, "function", 6, none, none, []⟩,
    ⟨.openParenthesis, "(", 6, none, some 9, []⟩, ⟨.variableName, "$x", 6, none, none, []⟩,
    ⟨.closeParenthesis, ")", 6, some 7, none, []⟩, ⟨.docClose, "*/", 7, some 1, none, []⟩,
    ⟨.function, "function", 8, none, none, []⟩, ⟨.openParenthesis, "(", 8, none, some 14, []⟩,
    ⟨.variableName, "$x", 8, none, none, []⟩, ⟨.closeParenthesis, ")", 8, some 12, none, []⟩]⟩

/-- Each comment asks for two edits of the shared text, and after them it is settled. -/
theorem overlappingComments_settled :
    ∃ config report fixed, Config.load [] = .ok config ∧
      overlappingComments.report [(DocChecker.ofConfig config).toChecker] true = .ok report ∧
      report.edits = List.replicate 4 ⟨4, "int $x The number."⟩ ∧
      overlappingComments.apply report.edits = .ok fixed ∧
      ∃ last, Source.fix [(DocChecker.ofConfig config).toChecker] 2 overlappingComments =
        .ok (fixed, last) ∧ last.edits = [] ∧ last.fixable = [] := by
  have hstandard : ∀ checker ∈ [DocChecker.ofConfig {}], checker.Standard := by
    intro checker hchecker
    obtain rfl := List.mem_singleton.mp hchecker
    have hload : Config.load [] = .ok {} := rfl
    exact DocChecker.standard_ofConfig hload
  refine ⟨{}, _, _, rfl, rfl, rfl, rfl, ?_⟩
  exact (one_pass_is_enough hstandard rfl rfl).2.1 2 (Nat.le_refl 2)

end Source

end DocLint

import DocLint.Proofs.Findings
import DocLint.Proofs.TableWalk

/-!
# When tags are reported as out of order

The tags of a comment are in the order of the table if their places in it never go down. The walk
through the table does not compare neighbours. Each entry that is present wants to find its own tag
in front, and takes the run of such tags. So no tag is misplaced exactly if the tags begin with a
run of each name that is present, in the order of the table, whatever comes after the last of these
runs.

Tags in order begin so, and they are never reported. The converse fails: a tag that comes back after
the run of every other name is passed over. It holds where the tags of each name stand together.
-/

namespace DocLint

/-! ## Order in a table -/

/-- The place of a tag in a table. -/
def tablePlace (specs : List TagSpec) (tag : Tag) : Nat :=
  specs.findIdx fun spec => spec.name == tag.name

/-- The places of the tags in the table never go down. -/
def InTableOrder (specs : List TagSpec) (tags : List Tag) : Prop :=
  (tags.map (tablePlace specs)).Pairwise (· ≤ ·)

instance InTableOrder.decidable (specs : List TagSpec) (tags : List Tag) :
    Decidable (InTableOrder specs tags) :=
  inferInstanceAs (Decidable ((tags.map (tablePlace specs)).Pairwise (· ≤ ·)))

/-- A front part of the tags is in the order of the table, and it has all names that there are. -/
def LedInOrder (specs : List TagSpec) (tags : List Tag) : Prop :=
  ∃ ordered rest, tags = ordered ++ rest ∧ InTableOrder specs ordered ∧
    ∀ tag ∈ rest, ∃ other ∈ ordered, other.name = tag.name

/-- The tags begin with a run of each of the names, in this order. -/
def BeginWithRuns : List String → List Tag → Prop
  | [], _ => True
  | name :: names, tags =>
    ∃ run rest, tags = run ++ rest ∧ run ≠ [] ∧ (∀ tag ∈ run, tag.name = name) ∧
      BeginWithRuns names rest

section Table

variable {spec : TagSpec} {specs : List TagSpec} {tags : List Tag}

theorem tablePlace_cons_self {tag : Tag} (hname : tag.name = spec.name) :
    tablePlace (spec :: specs) tag = 0 := by
  rw [tablePlace, List.findIdx_cons, hname, beq_self_eq_true]
  rfl

theorem tablePlace_cons_of_ne {tag : Tag} (hname : tag.name ≠ spec.name) :
    tablePlace (spec :: specs) tag = tablePlace specs tag + 1 := by
  rw [tablePlace, List.findIdx_cons, beq_false_of_ne hname.symm]
  rfl

theorem inTableOrder_iff :
    InTableOrder specs tags ↔
      tags.Pairwise fun tag later => tablePlace specs tag ≤ tablePlace specs later :=
  List.pairwise_map

/-- An entry that no tag belongs to is of no account. -/
theorem inTableOrder_cons_iff (hother : ∀ tag ∈ tags, tag.name ≠ spec.name) :
    InTableOrder (spec :: specs) tags ↔ InTableOrder specs tags := by
  rw [inTableOrder_iff, inTableOrder_iff]
  apply List.Pairwise.iff_of_mem
  intro tag later htag hlater
  rw [tablePlace_cons_of_ne (hother tag htag), tablePlace_cons_of_ne (hother later hlater),
    Nat.add_le_add_iff_right]

/-- A run of the first entry goes before tags of other entries. -/
theorem InTableOrder.run_append {run : List Tag} (horder : InTableOrder specs tags)
    (hrun : ∀ tag ∈ run, tag.name = spec.name) (hother : ∀ tag ∈ tags, tag.name ≠ spec.name) :
    InTableOrder (spec :: specs) (run ++ tags) := by
  have hfirst : ∀ tag ∈ run, tablePlace (spec :: specs) tag = 0 :=
    fun tag htag => tablePlace_cons_self (hrun tag htag)
  rw [inTableOrder_iff, List.pairwise_append, ← inTableOrder_iff, ← inTableOrder_iff,
    inTableOrder_cons_iff hother]
  refine ⟨?_, horder, ?_⟩
  · rw [inTableOrder_iff]
    apply List.pairwise_of_forall_mem_list
    intro tag htag later _
    rw [hfirst tag htag]
    exact Nat.zero_le _
  · intro tag htag later _
    rw [hfirst tag htag]
    exact Nat.zero_le _

/-- In tags that are in order, those of the first entry are a run at the front. -/
theorem InTableOrder.exists_run (horder : InTableOrder (spec :: specs) tags) :
    ∃ run later, tags = run ++ later ∧ (∀ tag ∈ run, tag.name = spec.name) ∧
      (∀ tag ∈ later, tag.name ≠ spec.name) ∧ InTableOrder specs later := by
  induction tags with
  | nil => exact ⟨[], [], rfl, nofun, nofun, List.Pairwise.nil⟩
  | cons first tags ih =>
    obtain ⟨hfirst, hrest⟩ := List.pairwise_cons.mp (inTableOrder_iff.mp horder)
    by_cases hname : first.name = spec.name
    · obtain ⟨run, later, rfl, hrun, hlater, hordered⟩ := ih (inTableOrder_iff.mpr hrest)
      exact ⟨first :: run, later, rfl, List.forall_mem_cons.mpr ⟨hname, hrun⟩, hlater, hordered⟩
    · -- No tag of the first entry comes later, for the places do not go down to zero again.
      have hother : ∀ tag ∈ first :: tags, tag.name ≠ spec.name := by
        refine List.forall_mem_cons.mpr ⟨hname, ?_⟩
        intro tag htag hsame
        have hplace := hfirst tag htag
        rw [tablePlace_cons_of_ne hname, tablePlace_cons_self hsame] at hplace
        exact Nat.not_succ_le_zero _ hplace
      exact ⟨[], first :: tags, rfl, nofun, hother, (inTableOrder_cons_iff hother).mp horder⟩

theorem InTableOrder.ledInOrder (horder : InTableOrder specs tags) : LedInOrder specs tags :=
  ⟨tags, [], (List.append_nil tags).symm, horder, nofun⟩

/-- The tags of each name stand together. -/
def StandTogether (tags : List Tag) : Prop :=
  ∀ front first between last back, tags = front ++ first :: (between ++ last :: back) →
    first.name = last.name → ∀ tag ∈ between, tag.name = first.name

/-- Where tags stand together, a front part in order that has all names is the beginning of tags in
order: all that can follow it has the name of its last tag. -/
theorem LedInOrder.inTableOrder (hled : LedInOrder specs tags) (htogether : StandTogether tags) :
    InTableOrder specs tags := by
  obtain ⟨ordered, rest, rfl, horder, hcovered⟩ := hled
  rcases List.eq_nil_or_concat' ordered with rfl | ⟨front, last, rfl⟩
  · cases rest with
    | nil => exact horder
    | cons tag rest =>
      obtain ⟨other, hother, -⟩ := hcovered tag List.mem_cons_self
      cases hother
  · have hname : ∀ tag ∈ rest, tag.name = last.name := by
      intro tag htag
      obtain ⟨other, hother, hsame⟩ := hcovered tag htag
      rcases List.mem_append.mp hother with hfront | hlast
      · obtain ⟨before, middle, rfl⟩ := List.append_of_mem hfront
        obtain ⟨earlier, back, rfl⟩ := List.append_of_mem htag
        have hbetween := htogether before other (middle ++ last :: earlier) tag back (by simp) hsame
        rw [← hsame, hbetween last (by simp)]
      · rw [← hsame, List.mem_singleton.mp hlast]
    have hplace : ∀ tag ∈ rest, tablePlace specs tag = tablePlace specs last := by
      intro tag htag
      rw [tablePlace, tablePlace, hname tag htag]
    rw [inTableOrder_iff, List.pairwise_append]
    refine ⟨inTableOrder_iff.mp horder, List.pairwise_of_forall_mem_list ?_, ?_⟩
    · intro tag htag later hlater
      rw [hplace tag htag, hplace later hlater]
    · intro tag htag later hlater
      rw [hplace later hlater]
      rcases List.mem_append.mp htag with hfront | hlast
      · exact (List.pairwise_append.mp (inTableOrder_iff.mp horder)).2.2 tag hfront last
          List.mem_cons_self
      · rw [List.mem_singleton.mp hlast]

/-! ## Runs -/

/-- Tags that begin with runs have a front part in order, made of these runs. The names are some of
the table, in its order. -/
theorem BeginWithRuns.exists_ordered {names : List String} (hruns : BeginWithRuns names tags)
    (hnames : List.Sublist names (specs.map TagSpec.name))
    (hdistinct : (specs.map TagSpec.name).Nodup) :
    ∃ ordered rest, tags = ordered ++ rest ∧ InTableOrder specs ordered ∧
      (∀ tag ∈ ordered, tag.name ∈ names) ∧
      ∀ name ∈ names, ∃ tag ∈ ordered, tag.name = name := by
  induction specs generalizing names tags with
  | nil =>
    obtain rfl := List.sublist_nil.mp hnames
    exact ⟨[], tags, rfl, List.Pairwise.nil, nofun, nofun⟩
  | cons spec specs ih =>
    rw [List.map_cons] at hnames hdistinct
    obtain ⟨hnew, hdistinct⟩ := List.nodup_cons.mp hdistinct
    -- The first entry is one of the names or it is not; in the first case a run is split off.
    cases hnames with
    | cons _ hnames =>
      obtain ⟨ordered, rest, hsplit, horder, hinside, hall⟩ := ih hruns hnames hdistinct
      refine ⟨ordered, rest, hsplit, (inTableOrder_cons_iff ?_).mpr horder, hinside, hall⟩
      intro tag htag hname
      exact hnew (hname ▸ hnames.mem (hinside tag htag))
    | cons_cons _ hnames =>
      obtain ⟨run, later, rfl, hrun, hname, hlater⟩ := hruns
      obtain ⟨ordered, rest, rfl, horder, hinside, hall⟩ := ih hlater hnames hdistinct
      refine ⟨run ++ ordered, rest, (List.append_assoc _ _ _).symm, ?_, ?_, ?_⟩
      · refine horder.run_append hname ?_
        intro tag htag hsame
        exact hnew (hsame ▸ hnames.mem (hinside tag htag))
      · intro tag htag
        rcases List.mem_append.mp htag with htag | htag
        · exact List.mem_cons.mpr (Or.inl (hname tag htag))
        · exact List.mem_cons_of_mem _ (hinside tag htag)
      · rw [List.forall_mem_cons]
        refine ⟨?_, ?_⟩
        · obtain ⟨tag, htag⟩ := List.exists_mem_of_ne_nil run hrun
          exact ⟨tag, List.mem_append_left ordered htag, hname tag htag⟩
        · intro other hother
          obtain ⟨tag, htag, hsame⟩ := hall other hother
          exact ⟨tag, List.mem_append_right run htag, hsame⟩

/-- A front part in order that has all names begins with runs of them. -/
theorem InTableOrder.beginWithRuns {names : List String} {ordered : List Tag}
    (horder : InTableOrder specs ordered)
    (hnames : List.Sublist names (specs.map TagSpec.name))
    (hdistinct : (specs.map TagSpec.name).Nodup) (hinside : ∀ tag ∈ ordered, tag.name ∈ names)
    (hall : ∀ name ∈ names, ∃ tag ∈ ordered, tag.name = name) (rest : List Tag) :
    BeginWithRuns names (ordered ++ rest) := by
  induction specs generalizing names ordered with
  | nil =>
    obtain rfl := List.sublist_nil.mp hnames
    trivial
  | cons spec specs ih =>
    rw [List.map_cons] at hnames hdistinct
    obtain ⟨hnew, hdistinct⟩ := List.nodup_cons.mp hdistinct
    cases hnames with
    | cons _ hnames =>
      refine ih ((inTableOrder_cons_iff ?_).mp horder) hnames hdistinct hinside hall
      intro tag htag hname
      exact hnew (hname ▸ hnames.mem (hinside tag htag))
    | cons_cons _ hnames =>
      obtain ⟨run, later, rfl, hrun, hlater, hordered⟩ := horder.exists_run
      refine ⟨run, later ++ rest, List.append_assoc _ _ _, ?_, hrun,
        ih hordered hnames hdistinct ?_ ?_⟩
      · rintro rfl
        obtain ⟨tag, htag, hname⟩ := hall spec.name List.mem_cons_self
        exact hlater tag htag hname
      · intro tag htag
        have hmem := hinside tag (List.mem_append_right run htag)
        exact (List.mem_cons.mp hmem).resolve_left (hlater tag htag)
      · intro name hname
        obtain ⟨tag, htag, rfl⟩ := hall name (List.mem_cons_of_mem _ hname)
        rcases List.mem_append.mp htag with hfirst | hsecond
        · exact absurd (hrun tag hfirst ▸ hnames.mem hname) hnew
        · exact ⟨tag, hsecond, rfl⟩

end Table

/-! ## The walk -/

namespace Block

variable {block : Block} {spec : TagSpec} {specs : List TagSpec} {rest : List Tag} {place : Nat}

/-- The names of a table that are present, in the order of the table. -/
def presentNames (block : Block) (specs : List TagSpec) : List String :=
  (specs.filter fun spec => block.has spec).map TagSpec.name

theorem presentNames_sublist :
    List.Sublist (block.presentNames specs) (specs.map TagSpec.name) :=
  List.filter_sublist.map TagSpec.name

theorem presentNames_of_absent (habsent : block.has spec = false) :
    block.presentNames (spec :: specs) = block.presentNames specs := by
  rw [presentNames, List.filter_cons, habsent]
  rfl

theorem presentNames_of_present (hpresent : block.has spec = true) :
    block.presentNames (spec :: specs) = spec.name :: block.presentNames specs := by
  rw [presentNames, List.filter_cons, hpresent]
  rfl

/-- An entry takes its run, and what follows it begins with the runs of other names. -/
theorem beginWithRuns_leaves {names : List String} {first : Tag} {run : List Tag}
    (hrun : ∀ tag ∈ run, tag.name = spec.name) (hrest : BeginWithRuns names rest)
    (hnew : spec.name ∉ names) : BeginWithRuns names (spec.leaves (first :: (run ++ rest))) := by
  cases names with
  | nil => trivial
  | cons name names =>
    obtain ⟨next, later, rfl, hnext, hname, hlater⟩ := hrest
    cases next with
    | nil => exact absurd rfl hnext
    | cons second next =>
      have hother : second.name ≠ spec.name := by
        rw [hname second List.mem_cons_self]
        rintro rfl
        exact hnew List.mem_cons_self
      have hleaves : spec.leaves (first :: (run ++ (second :: next ++ later))) =
          second :: next ++ later := by
        rw [TagSpec.leaves, List.tail_cons,
          List.dropWhile_append_of_pos fun tag htag => beq_iff_eq.mpr (hrun tag htag),
          List.cons_append, List.dropWhile_cons, if_neg (mt beq_iff_eq.mp hother)]
      rw [hleaves]
      exact ⟨second :: next, later, rfl, hnext, hname, hlater⟩

/-- **No tag is misplaced exactly if the tags begin with a run of each name that is present.** The
tags have to be there for the entries still to come; what follows the last run is of no account. -/
theorem placed_iff_beginWithRuns (hdistinct : (specs.map TagSpec.name).Nodup)
    (hsupplies : block.Supplies rest specs) :
    block.Placed place rest specs ↔ BeginWithRuns (block.presentNames specs) rest := by
  induction specs generalizing place rest with
  | nil => exact iff_of_true nofun trivial
  | cons spec specs ih =>
    obtain ⟨hnew, hdistinct⟩ := List.nodup_cons.mp hdistinct
    cases hhas : block.has spec with
    | false =>
      rw [placed_of_absent hhas, presentNames_of_absent hhas]
      exact ih hdistinct hsupplies.tail
    | true =>
      cases rest with
      | nil =>
        obtain ⟨tag, htag, -⟩ := hsupplies spec List.mem_cons_self hhas
        cases htag
      | cons tag others =>
        rw [placed_of_present hhas, presentNames_of_present hhas]
        refine ⟨?_, ?_⟩
        · rintro ⟨hname, hplaced⟩
          refine ⟨tag :: others.takeWhile fun other => other.name == spec.name, _, ?_,
            List.cons_ne_nil _ _, ?_, (ih hdistinct (hsupplies.leaves hname hnew)).mp hplaced⟩
          · rw [List.cons_append, TagSpec.leaves, List.tail_cons, List.takeWhile_append_dropWhile]
          · refine List.forall_mem_cons.mpr ⟨hname, ?_⟩
            intro other hother
            have hsame := List.mem_takeWhile_imp hother
            exact beq_iff_eq.mp hsame
        · rintro ⟨run, later, hsplit, hrun, hname, hlater⟩
          cases run with
          | nil => exact absurd rfl hrun
          | cons first run =>
            obtain ⟨rfl, rfl⟩ := List.cons.inj hsplit
            obtain ⟨hname, hsame⟩ := List.forall_mem_cons.mp hname
            refine ⟨hname, (ih hdistinct (hsupplies.leaves hname hnew)).mpr ?_⟩
            exact beginWithRuns_leaves hsame hlater fun hmem => hnew (presentNames_sublist.mem hmem)

theorem mem_presentNames {tag : Tag} (htag : tag ∈ Rule.tableTags specs block) :
    tag.name ∈ block.presentNames specs := by
  obtain ⟨hmem, spec, hspec, hname⟩ := Rule.mem_tableTags_iff.mp htag
  have hpresent : block.has spec = true := by
    rw [has_eq_true_iff]
    exact List.ne_nil_of_mem (List.mem_filter.mpr ⟨hmem, beq_iff_eq.mpr hname.symm⟩)
  rw [← hname]
  exact List.mem_map_of_mem (List.mem_filter.mpr ⟨hspec, hpresent⟩)

/-- Runs of all names that are present are a front part in order that has all names. -/
theorem beginWithRuns_iff_ledInOrder (hdistinct : (specs.map TagSpec.name).Nodup) :
    BeginWithRuns (block.presentNames specs) (Rule.tableTags specs block) ↔
      LedInOrder specs (Rule.tableTags specs block) := by
  refine ⟨?_, ?_⟩
  · intro hruns
    obtain ⟨ordered, rest, hsplit, horder, -, hall⟩ :=
      hruns.exists_ordered presentNames_sublist hdistinct
    refine ⟨ordered, rest, hsplit, horder, ?_⟩
    intro tag htag
    apply hall
    apply mem_presentNames
    rw [hsplit]
    exact List.mem_append_right ordered htag
  · rintro ⟨ordered, rest, hsplit, horder, hcovered⟩
    rw [hsplit]
    refine horder.beginWithRuns presentNames_sublist hdistinct ?_ ?_ rest
    · intro tag htag
      apply mem_presentNames
      rw [hsplit]
      exact List.mem_append_left rest htag
    · intro name hname
      obtain ⟨spec, hspec, rfl⟩ := List.mem_map.mp hname
      obtain ⟨hspec, hpresent⟩ := List.mem_filter.mp hspec
      obtain ⟨tag, htag, hname⟩ := Rule.supplies_tableTags specs block spec hspec hpresent
      rw [hsplit] at htag
      rcases List.mem_append.mp htag with hfront | hback
      · exact ⟨tag, hfront, hname⟩
      · obtain ⟨other, hother, hsame⟩ := hcovered tag hback
        exact ⟨other, hother, hsame.trans hname⟩

/-- What is misplaced is a tag of the comment, in the place of an entry of the table. -/
theorem mem_of_misplaced_mem_walk {number : Nat} {tag : Tag} {expected : String}
    (hstep : .misplaced number tag expected ∈ block.walk place rest specs) :
    tag ∈ rest ∧ ∃ spec ∈ specs, spec.name = expected := by
  induction specs generalizing place rest with
  | nil => cases hstep
  | cons spec specs ih =>
    cases hhas : block.has spec with
    | false =>
      rw [walk_of_absent hhas] at hstep
      rcases List.mem_append.mp hstep with hmissing | hlater
      · split at hmissing
        · cases List.mem_singleton.mp hmissing
        · cases hmissing
      · obtain ⟨htag, entry, hentry, hname⟩ := ih hlater
        exact ⟨htag, entry, List.mem_cons_of_mem spec hentry, hname⟩
    | true =>
      cases rest with
      | nil =>
        rw [walk_of_usedUp hhas] at hstep
        cases List.mem_singleton.mp hstep
      | cons first others =>
        rw [walk_of_present hhas] at hstep
        rcases List.mem_append.mp ((List.mem_cons.mp hstep).resolve_left nofun) with hhere | hlater
        · split at hhere
          · cases hhere
          · obtain ⟨-, rfl, rfl⟩ := TableStep.misplaced.inj (List.mem_singleton.mp hhere)
            exact ⟨List.mem_cons_self, spec, List.mem_cons_self, rfl⟩
        · obtain ⟨htag, entry, hentry, hname⟩ := ih hlater
          refine ⟨List.mem_cons_of_mem first ?_, entry, List.mem_cons_of_mem spec hentry, hname⟩
          exact (List.dropWhile_sublist _).mem htag

end Block

/-! ## Reports -/

open Check

/-- A tag is reported as out of order under the code of some entry. -/
def Check.ReportsOrder (specs : List TagSpec) (check : Check Unit) : Prop :=
  ∃ diagnostic ∈ check.diagnostics, ∃ spec ∈ specs,
    diagnostic.code = codeName spec.name ++ "TagOrder"

/-- The checks of single tags end well on the tags of a comment, and they use no code of a tag that
is out of order. -/
def Processors.LeaveOrder (processors : Processors Check) (site : Site) (block : Block) : Prop :=
  ∀ name, block.tagsNamed name ≠ [] →
    (Rule.processTags site block processors name (block.tagsNamed name)).Succeeds ∧
      ∀ diagnostic ∈
        (Rule.processTags site block processors name (block.tagsNamed name)).diagnostics,
        ∀ tagName, diagnostic.code ≠ codeName tagName ++ "TagOrder"

/-- The codes of tags that are out of order have an ending of their own. -/
theorem ne_append_tagOrder {code : String} (hlast : code.toList.getLast? ≠ some 'r')
    (name : String) : code ≠ name ++ "TagOrder" := by
  rintro rfl
  apply hlast
  rw [String.toList_append, List.getLast?_append_of_ne_nil _ (by decide)]
  rfl

/-- Other codes that are made from the name of a tag end otherwise. -/
theorem append_tag_ne_append_tagOrder (text name : String) :
    text ++ "Tag" ≠ name ++ "TagOrder" := by
  apply ne_append_tagOrder
  rw [String.toList_append, List.getLast?_append_of_ne_nil _ (by decide)]
  decide

section Reports

variable {site : Site} {block : Block} {specs : List TagSpec} {construct : String}
variable {processors : Processors Check} (hstands : block.Stands site.source)
variable (hcloser : site.source.Holds block.closer)
variable (hprocessors : processors.LeaveOrder site block)

include hstands hcloser hprocessors in
/-- Every step of the walk ends well. -/
theorem TableStep.succeeds_perform {step : TableStep} (hstep : step ∈ block.tableSteps specs) :
    (step.perform site block construct processors).Succeeds := by
  cases step with
  | missing name => exact Site.succeeds_blame hcloser _ _
  | handOver name tags =>
    obtain ⟨rfl, hsome⟩ := Block.eq_of_handOver_mem_walk hstep
    exact (hprocessors name hsome).1
  | misplaced place tag expected =>
    obtain ⟨htag, -⟩ := Block.mem_of_misplaced_mem_walk hstep
    have hmem := (Rule.mem_tableTags_iff.mp htag).1
    exact Site.succeeds_blame (hstands.tags tag hmem).position _ _

include hprocessors in
/-- Only a step that finds a tag misplaced reports the order. -/
theorem TableStep.isMisplaced_of_code {step : TableStep} (hstep : step ∈ block.tableSteps specs)
    {diagnostic : Diagnostic}
    (hdiagnostic : diagnostic ∈ (step.perform site block construct processors).diagnostics)
    {name : String} (hcode : diagnostic.code = codeName name ++ "TagOrder") :
    step.isMisplaced = true := by
  cases step with
  | missing missingName =>
    have hbounded :
        (site.blame block.closer (.missingTag missingName construct) none : Check Unit).FindsOnly
          site fun finding => finding.violation = .missingTag missingName construct :=
      Site.findsOnly_blame rfl
    obtain ⟨finding, hviolation, hworded⟩ := hbounded diagnostic hdiagnostic
    rw [hworded.code_eq, hviolation] at hcode
    exact absurd hcode (append_tag_ne_append_tagOrder _ _)
  | handOver handedName tags =>
    obtain ⟨rfl, hsome⟩ := Block.eq_of_handOver_mem_walk hstep
    exact absurd hcode ((hprocessors handedName hsome).2 diagnostic hdiagnostic name)
  | misplaced place tag expected => rfl

include hstands in
/-- And each such step does. -/
theorem TableStep.reportsOrder_perform {step : TableStep} (hstep : step ∈ block.tableSteps specs)
    (hmisplaced : step.isMisplaced = true) :
    (step.perform site block construct processors).ReportsOrder specs := by
  cases step with
  | missing name => cases hmisplaced
  | handOver name tags => cases hmisplaced
  | misplaced place tag expected =>
    obtain ⟨htag, spec, hspec, rfl⟩ := Block.mem_of_misplaced_mem_walk hstep
    obtain ⟨token, hat⟩ := (hstands.tags tag (Rule.mem_tableTags_iff.mp htag).1).position
    rw [TableStep.perform, Site.blame_eq, Source.line_of_token? hat]
    exact ⟨_, List.mem_singleton_self _, spec, hspec, rfl⟩

include hstands hcloser hprocessors in
/-- **The order is reported exactly if a tag is misplaced on the walk.** -/
theorem Rule.reportsOrder_tagTable_iff :
    (Rule.tagTable site block specs construct processors).ReportsOrder specs ↔
      ∃ step ∈ block.tableSteps specs, step.isMisplaced = true := by
  have htable : ∀ tag ∈ Rule.tableTags specs block, tag.Stands site.source :=
    fun tag htag => hstands.tags tag (Rule.mem_tableTags_iff.mp htag).1
  have hoccurrences := Rule.succeeds_tagOccurrences specs construct [] htable
  have hsteps : ((block.tableSteps specs).forM
      (TableStep.perform site block construct processors)).Succeeds :=
    succeeds_forM_iff.mpr fun _ => TableStep.succeeds_perform hstands hcloser hprocessors
  rw [ReportsOrder, Rule.tagTable_eq_forM_tableSteps,
    diagnostics_bind (succeeds_iff_outcome.mp hoccurrences), diagnostics_forM hsteps]
  refine ⟨?_, ?_⟩
  · rintro ⟨diagnostic, hdiagnostic, spec, -, hcode⟩
    rcases List.mem_append.mp hdiagnostic with hfirst | hlater
    · have hbounded : (Rule.tagOccurrences site specs construct []
          (Rule.tableTags specs block)).FindsOnly site
            fun finding => ∃ text, finding.violation.code = text ++ "Tag" :=
        Rule.findsOnly_tagOccurrences (fun _ _ => ⟨_, rfl⟩) (fun _ _ => ⟨_, rfl⟩) specs []
      obtain ⟨finding, ⟨text, htext⟩, hworded⟩ := hbounded diagnostic hfirst
      rw [hworded.code_eq, htext] at hcode
      exact absurd hcode (append_tag_ne_append_tagOrder _ _)
    · obtain ⟨step, hstep, hreport⟩ := List.mem_flatMap.mp hlater
      exact ⟨step, hstep, TableStep.isMisplaced_of_code hprocessors hstep hreport hcode⟩
  · rintro ⟨step, hstep, hmisplaced⟩
    obtain ⟨diagnostic, hdiagnostic, hcode⟩ :=
      TableStep.reportsOrder_perform hstands hstep hmisplaced
    exact ⟨diagnostic, List.mem_append_right _ (List.mem_flatMap.mpr ⟨step, hstep, hdiagnostic⟩),
      hcode⟩

end Reports

/-- The built-in checks of single tags leave the order to the table. -/
theorem Processors.leaveOrder_builtIn {site : Site} {block : Block}
    (hstands : block.Stands site.source) : Processors.builtIn.LeaveOrder site block := by
  intro name hsome
  have hmem : ∀ tag ∈ block.tagsNamed name, tag ∈ block.tags :=
    fun tag htag => (Block.mem_tagsNamed.mp htag).1
  refine ⟨Rule.succeeds_processTags (fun tag htag => hstands.tags tag (hmem tag htag)) hsome name,
    ?_⟩
  have hcopyright : "IncorrectCopyright".toList.getLast? ≠ some 'r' := by decide
  have hlicense : "IncompleteLicense".toList.getLast? ≠ some 'r' := by decide
  have hbounded : (Rule.processTags site block .builtIn name (block.tagsNamed name)).FindsOnly site
      fun finding => finding.violation.code.toList.getLast? ≠ some 'r' :=
    Rule.findsOnly_processTags (fun _ _ _ _ _ => hcopyright) (fun _ _ => hlicense) name
  intro diagnostic hdiagnostic tagName
  obtain ⟨finding, hlast, hworded⟩ := hbounded diagnostic hdiagnostic
  rw [hworded.code_eq]
  exact ne_append_tagOrder hlast _

/-- **The order is reported unless the tags are led in order.** Let a comment be read from a source
that has its closer too, let the names of the table be distinct, and let the checks of single tags
leave the order to the table. A tag is reported as out of order exactly if no front part of the tags
is in the order of the table and has all names that there are. So tags in order are never reported,
and tags that are not in order are reported exactly if they are not led in order either. If the
tags of each name stand together, that is always so. -/
theorem Rule.order_reported_unless_led_in_order (site : Site) (specs : List TagSpec)
    (construct : String) {processors : Processors Check} {opener : Int} {block : Block}
    (hread : Block.read site.source opener = .ok block)
    (hcloser : site.source.Holds block.closer) (hdistinct : (specs.map TagSpec.name).Nodup)
    (hprocessors : processors.LeaveOrder site block) :
    ((Rule.tagTable site block specs construct processors).ReportsOrder specs ↔
        ¬ LedInOrder specs (Rule.tableTags specs block)) ∧
      (InTableOrder specs (Rule.tableTags specs block) →
        ¬ (Rule.tagTable site block specs construct processors).ReportsOrder specs) ∧
      (((Rule.tagTable site block specs construct processors).ReportsOrder specs ↔
          ¬ InTableOrder specs (Rule.tableTags specs block)) ↔
        (LedInOrder specs (Rule.tableTags specs block) →
          InTableOrder specs (Rule.tableTags specs block))) ∧
      (StandTogether (Rule.tableTags specs block) →
        ((Rule.tagTable site block specs construct processors).ReportsOrder specs ↔
          ¬ InTableOrder specs (Rule.tableTags specs block))) := by
  obtain ⟨-, token, hreads⟩ := Block.read_eq_ok_iff.mp hread
  have hmain : (Rule.tagTable site block specs construct processors).ReportsOrder specs ↔
      ¬ LedInOrder specs (Rule.tableTags specs block) := by
    rw [Rule.reportsOrder_tagTable_iff hreads.stands hcloser hprocessors,
      Block.exists_misplaced_iff,
      Block.placed_iff_beginWithRuns hdistinct (Rule.supplies_tableTags specs block),
      Block.beginWithRuns_iff_ledInOrder hdistinct]
  have hled := @InTableOrder.ledInOrder specs (Rule.tableTags specs block)
  have hexact : ((Rule.tagTable site block specs construct processors).ReportsOrder specs ↔
      ¬ InTableOrder specs (Rule.tableTags specs block)) ↔
        (LedInOrder specs (Rule.tableTags specs block) →
          InTableOrder specs (Rule.tableTags specs block)) := by
    rw [hmain, not_iff_not]
    exact ⟨Iff.mp, fun hback => ⟨hback, hled⟩⟩
  refine ⟨hmain, fun horder hreports => hmain.mp hreports (hled horder), hexact, ?_⟩
  exact fun htogether => hexact.mpr fun hfront => hfront.inTableOrder htogether

/-- A table of two letters, the first of which may be repeated. -/
def twoLetters : List TagSpec :=
  [{ name := "@a", repeatable := true }, { name := "@b" }]

/-- A comment in which the first letter comes back after the second. -/
def returningLetter : Source :=
  ⟨#[⟨.docOpen, "/**", 1, none, some 7, [1, 3, 5]⟩, ⟨.docTag, "@a", 2, none, none, []⟩,
    ⟨.docString, "1", 2, none, none, []⟩, ⟨.docTag, "@b", 3, none, none, []⟩,
    ⟨.docString, "2", 3, none, none, []⟩, ⟨.docTag, "@a", 4, none, none, []⟩,
    ⟨.docString, "3", 4, none, none, []⟩, ⟨.docClose, "*/", 5, some 0, none, []⟩]⟩

/-- The places of the tags go down at the end, and nothing at all is reported. -/
theorem returningLetter_unreported :
    ∃ block, Block.read returningLetter 0 = .ok block ∧ (twoLetters.map TagSpec.name).Nodup ∧
      (Rule.tableTags twoLetters block).map (tablePlace twoLetters) = [0, 1, 0] ∧
      ¬ InTableOrder twoLetters (Rule.tableTags twoLetters block) ∧
      Rule.tagTable (.atFront returningLetter) block twoLetters "file" [] = .done () := by
  refine ⟨_, rfl, by decide, rfl, ?_, rfl⟩
  intro horder
  have hplaces : List.Pairwise (· ≤ ·) [0, 1, 0] := horder
  exact absurd hplaces (by decide)

/-- The returning letter comes after a front part in order that has both names. Letters in disorder
have no such front part, and the order is reported. -/
theorem returningLetter_led_in_order :
    (∃ block, Block.read returningLetter 0 = .ok block ∧
        LedInOrder twoLetters (Rule.tableTags twoLetters block) ∧
        ¬ (Rule.tagTable (.atFront returningLetter) block twoLetters "file"
          .builtIn).ReportsOrder twoLetters) ∧
      ∃ block, Block.read shuffledLetters 0 = .ok block ∧
        (Rule.tagTable (.atFront shuffledLetters) block fiveLetters "file"
          .builtIn).ReportsOrder fiveLetters ∧
        ¬ LedInOrder fiveLetters (Rule.tableTags fiveLetters block) := by
  refine ⟨⟨_, rfl, ?_⟩, ⟨_, rfl, ?_⟩⟩
  · have hread : Block.read returningLetter 0 = .ok _ := rfl
    obtain ⟨-, token, hreads⟩ := Block.read_eq_ok_iff.mp hread
    obtain ⟨hreports, -, -, -⟩ := Rule.order_reported_unless_led_in_order
      (.atFront returningLetter) twoLetters "file" hread ⟨_, rfl⟩ (by decide)
      (Processors.leaveOrder_builtIn hreads.stands)
    rw [hreports, not_not, and_self]
    exact ⟨[_, _], [_], rfl, by unfold InTableOrder; decide, by decide⟩
  · have hread : Block.read shuffledLetters 0 = .ok _ := rfl
    obtain ⟨-, token, hreads⟩ := Block.read_eq_ok_iff.mp hread
    obtain ⟨hreports, -, -, -⟩ := Rule.order_reported_unless_led_in_order
      (.atFront shuffledLetters) fiveLetters "file" hread ⟨_, rfl⟩ (by decide)
      (Processors.leaveOrder_builtIn hreads.stands)
    rw [← hreports, and_self]
    exact ⟨_, List.mem_cons_self, { name := "@a" }, List.mem_cons_self, rfl⟩

end DocLint

import DocLint.Proofs.Checks
import DocLint.Rule.TagTable
import Mathlib.Data.List.Nodup
import Mathlib.Data.List.TakeWhile

/-!
# How far the walk through the table of tags comes

After the tags of a comment have been looked at one by one, the rules walk through the table. At an
entry whose tag is not present they report it if it is required. At every other entry they hand the
tags of that name over to the check of the name, and then the entry takes the next tag of the
comment, whatever its name, and all tags of its own name that follow.

What the walk does depends on the comment and the table alone, and not on what the checks of single
tags find. So it is laid out here as a list of steps, and what is reported or handed over becomes a
question about that list.

The walk ends at an entry that is present and finds no tag left to take. Tags in wrong order are
taken too early, so this can happen before the end of the table, and what comes after that entry is
not judged. `Block.tableReached` are the entries that are.
-/

namespace DocLint

/-- One thing that the walk through the table does. -/
inductive TableStep where
  /-- A required tag is reported as missing. -/
  | missing (name : String)
  /-- The tags of a name are handed over to the check of that name. -/
  | handOver (name : String) (tags : List Tag)
  /-- A tag is reported because another one is expected at its place. -/
  | misplaced (place : Nat) (tag : Tag) (expected : String)

namespace TableStep

/-- Takes a step. -/
def perform (site : Site) (block : Block) (construct : String) (processors : Processors Check) :
    TableStep → Check Unit
  | missing name => site.blame block.closer (.missingTag name construct) none
  | handOver name tags => Rule.processTags site block processors name tags
  | misplaced place tag expected => site.blame tag.position (.tagOrder place expected) none

/-- The name that is reported as missing. -/
def missing? : TableStep → Option String
  | missing name => some name
  | _ => none

/-- The tags that are handed over, with their name. -/
def handedOver? : TableStep → Option (String × List Tag)
  | handOver name tags => some (name, tags)
  | _ => none

/-- Whether a tag is reported as out of order. -/
def isMisplaced : TableStep → Bool
  | misplaced _ _ _ => true
  | _ => false

end TableStep

/-- What an entry leaves of the tags: it takes the first one and those of its name that follow. -/
def TagSpec.leaves (spec : TagSpec) (tags : List Tag) : List Tag :=
  tags.tail.dropWhile fun tag => tag.name == spec.name

namespace Block

variable (block : Block)

/-- Whether the comment has a tag for an entry. -/
def has (spec : TagSpec) : Bool :=
  !(block.tagsNamed spec.name).isEmpty

/-- The steps of a walk. `place` counts the tags of the comment that have been passed, and `rest`
holds the others. -/
def walk : (place : Nat) → (rest : List Tag) → List TagSpec → List TableStep
  | _, _, [] => []
  | place, rest, spec :: specs =>
    if block.has spec then
      .handOver spec.name (block.tagsNamed spec.name) ::
        match rest with
        | [] => []
        | tag :: others =>
          (if tag.name = spec.name then [] else [.misplaced (place + 1) tag spec.name]) ++
            walk (place + 1 + (others.takeWhile fun other => other.name == spec.name).length)
              (spec.leaves (tag :: others)) specs
    else
      (if spec.required then [.missing spec.name] else []) ++ walk place rest specs

/-- The entries that a walk comes to. -/
def reached : (rest : List Tag) → List TagSpec → List TagSpec
  | _, [] => []
  | rest, spec :: specs =>
    spec ::
      if block.has spec then
        match rest with
        | [] => []
        | tag :: others => reached (spec.leaves (tag :: others)) specs
      else reached rest specs

variable {block} {spec : TagSpec} {specs : List TagSpec} {place : Nat} {rest others : List Tag}
variable {tag : Tag}

theorem has_eq_false_iff : block.has spec = false ↔ block.tagsNamed spec.name = [] := by
  rw [has, Bool.not_eq_false', List.isEmpty_iff]

theorem has_eq_true_iff : block.has spec = true ↔ block.tagsNamed spec.name ≠ [] := by
  rw [← Bool.not_eq_false, has_eq_false_iff]

/-! ## One entry

An entry is absent, or it is present and finds no tag left, or it takes tags. The lemmas below say
what the walk does in each case; later proofs go through the table with them.
-/

theorem walk_of_absent (habsent : block.has spec = false) :
    block.walk place rest (spec :: specs) =
      (if spec.required then [.missing spec.name] else []) ++ block.walk place rest specs := by
  rw [walk.eq_def]
  simp only [habsent, Bool.false_eq_true, if_false]

theorem walk_of_usedUp (hpresent : block.has spec = true) :
    block.walk place [] (spec :: specs) = [.handOver spec.name (block.tagsNamed spec.name)] := by
  rw [walk.eq_def]
  simp only [hpresent, if_true]

theorem walk_of_present (hpresent : block.has spec = true) :
    block.walk place (tag :: others) (spec :: specs) =
      .handOver spec.name (block.tagsNamed spec.name) ::
        ((if tag.name = spec.name then [] else [.misplaced (place + 1) tag spec.name]) ++
          block.walk (place + 1 + (others.takeWhile fun other => other.name == spec.name).length)
            (spec.leaves (tag :: others)) specs) := by
  rw [walk.eq_def]
  simp only [hpresent, if_true]

theorem reached_of_absent (habsent : block.has spec = false) :
    block.reached rest (spec :: specs) = spec :: block.reached rest specs := by
  rw [reached.eq_def]
  simp only [habsent, Bool.false_eq_true, if_false]

theorem reached_of_usedUp (hpresent : block.has spec = true) :
    block.reached [] (spec :: specs) = [spec] := by
  rw [reached.eq_def]
  simp only [hpresent, if_true]

theorem reached_of_present (hpresent : block.has spec = true) :
    block.reached (tag :: others) (spec :: specs) =
      spec :: block.reached (spec.leaves (tag :: others)) specs := by
  rw [reached.eq_def]
  simp only [hpresent, if_true]

end Block

/-! ## The walk is its steps -/

namespace Rule

open Check

variable {site : Site} {block : Block} {construct : String} {processors : Processors Check}

theorem tagOrder_eq_forM_walk (place : Nat) (rest : List Tag) (specs : List TagSpec) :
    tagOrder site block construct processors place rest specs =
      (block.walk place rest specs).forM
        (TableStep.perform site block construct processors) := by
  induction specs generalizing place rest with
  | nil => rfl
  | cons spec specs ih =>
    rw [tagOrder.eq_def, List.forM_eq_forM]
    dsimp only
    split
    · rename_i hnone
      have habsent : block.has spec = false := Block.has_eq_false_iff.mpr hnone
      rw [Block.walk_of_absent habsent, List.forM_append, ih, List.forM_eq_forM]
      congr 1
      cases spec.required with
      | true => exact (bind_pure _).symm
      | false => rfl
    · rename_i hsome
      have hpresent : block.has spec = true := Block.has_eq_true_iff.mpr hsome
      cases rest with
      | nil =>
        rw [Block.walk_of_usedUp hpresent]
        rfl
      | cons tag others =>
        rw [Block.walk_of_present hpresent, List.forM_cons, List.forM_append, ← List.forM_eq_forM]
        simp only [ih]
        congr 1
        funext _
        congr 1
        by_cases hname : tag.name = spec.name
        · rw [if_pos hname, Site.expect, if_pos (beq_iff_eq.mpr hname)]
          rfl
        · rw [if_neg hname, Site.expect, if_neg (mt beq_iff_eq.mp hname)]
          exact (bind_pure _).symm

end Rule

namespace Block

variable {block : Block} {spec : TagSpec} {specs : List TagSpec} {tags rest : List Tag}

/-! ## What is judged -/

/-- The steps judge the given entries: each required one that is absent is reported as missing, and
the tags of each one that is present are handed over. All is done once and in the order of the
entries. -/
structure Judged (block : Block) (entries : List TagSpec) (steps : List TableStep) : Prop where
  /-- What is reported as missing. -/
  missing : steps.filterMap TableStep.missing? =
    (entries.filter fun spec => spec.required && !block.has spec).map TagSpec.name
  /-- What is handed over. -/
  handedOver : steps.filterMap TableStep.handedOver? =
    (entries.filter fun spec => block.has spec).map fun spec =>
      (spec.name, block.tagsNamed spec.name)

/-- An entry that is absent adds its report, if it is required, to what later entries add. -/
theorem Judged.absent {entries : List TagSpec} {steps : List TableStep}
    (hjudged : block.Judged entries steps) (habsent : block.has spec = false) :
    block.Judged (spec :: entries)
      ((if spec.required then [.missing spec.name] else []) ++ steps) := by
  refine ⟨?_, ?_⟩
  · rw [List.filterMap_append, hjudged.missing, List.filter_cons, habsent]
    cases spec.required <;> rfl
  · rw [List.filterMap_append, hjudged.handedOver, List.filter_cons, habsent]
    cases spec.required <;> rfl

/-- An entry that is present adds its tags. That a tag is misplaced does not count. -/
theorem Judged.present {entries : List TagSpec} {steps misplaced : List TableStep}
    (hjudged : block.Judged entries steps) (hpresent : block.has spec = true)
    (hmisplaced : ∀ step ∈ misplaced, step.isMisplaced = true) :
    block.Judged (spec :: entries)
      (.handOver spec.name (block.tagsNamed spec.name) :: (misplaced ++ steps)) := by
  have hmissing : misplaced.filterMap TableStep.missing? = [] := by
    apply List.filterMap_eq_nil_iff.mpr
    intro step hstep
    cases step with
    | missing => cases hmisplaced _ hstep
    | _ => rfl
  have hhandedOver : misplaced.filterMap TableStep.handedOver? = [] := by
    apply List.filterMap_eq_nil_iff.mpr
    intro step hstep
    cases step with
    | handOver => cases hmisplaced _ hstep
    | _ => rfl
  refine ⟨?_, ?_⟩
  · rw [List.filterMap_cons, List.filterMap_append, hmissing, hjudged.missing, List.filter_cons,
      hpresent, Bool.not_true, Bool.and_false]
    rfl
  · rw [List.filterMap_cons, List.filterMap_append, hhandedOver, hjudged.handedOver,
      List.filter_cons, hpresent]
    rfl

theorem judged_nil : block.Judged [] [] := ⟨rfl, rfl⟩

/-- **Entries that are reached are judged**, and no others. -/
theorem judged_walk (place : Nat) (rest : List Tag) (specs : List TagSpec) :
    block.Judged (block.reached rest specs) (block.walk place rest specs) := by
  induction specs generalizing place rest with
  | nil => exact judged_nil
  | cons spec specs ih =>
    cases hhas : block.has spec with
    | false =>
      rw [walk_of_absent hhas, reached_of_absent hhas]
      exact (ih place rest).absent hhas
    | true =>
      cases rest with
      | nil =>
        rw [walk_of_usedUp hhas, reached_of_usedUp hhas]
        have hnone : ∀ step ∈ ([] : List TableStep), step.isMisplaced = true := nofun
        exact judged_nil.present hhas hnone
      | cons tag others =>
        rw [walk_of_present hhas, reached_of_present hhas]
        apply (ih _ _).present hhas
        intro step hstep
        split at hstep
        · cases hstep
        · rw [List.mem_singleton.mp hstep]
          rfl

/-- What is handed over are all tags of a name that is present. -/
theorem eq_of_handOver_mem_walk {place : Nat} {name : String}
    (hstep : .handOver name tags ∈ block.walk place rest specs) :
    tags = block.tagsNamed name ∧ tags ≠ [] := by
  have hmem : (name, tags) ∈ (block.walk place rest specs).filterMap TableStep.handedOver? :=
    List.mem_filterMap.mpr ⟨_, hstep, rfl⟩
  rw [(judged_walk place rest specs).handedOver] at hmem
  obtain ⟨spec, hspec, heq⟩ := List.mem_map.mp hmem
  obtain ⟨rfl, rfl⟩ := Prod.mk.inj heq
  exact ⟨rfl, has_eq_true_iff.mp (List.mem_filter.mp hspec).2⟩

/-! ## Where the walk ends -/

/-- What is left of the tags behind some entries. -/
def leftBehind (block : Block) (tags : List Tag) (entries : List TagSpec) : List Tag :=
  (entries.filter fun spec => block.has spec).foldl (fun rest spec => spec.leaves rest) tags

/-- The tags run out on the way through some entries: one that is present finds none left. -/
def RunOut (block : Block) (tags : List Tag) (entries : List TagSpec) : Prop :=
  ∃ earlier last later, entries = earlier ++ last :: later ∧ block.has last = true ∧
    block.leftBehind tags earlier = []

theorem not_runOut_nil : ¬ block.RunOut tags [] := by
  rintro ⟨earlier, last, later, hsplit, -, -⟩
  exact absurd hsplit.symm (List.append_ne_nil_of_right_ne_nil earlier (List.cons_ne_nil _ _))

theorem runOut_of_absent {entries : List TagSpec} (habsent : block.has spec = false) :
    block.RunOut tags (spec :: entries) ↔ block.RunOut tags entries := by
  refine ⟨?_, ?_⟩
  · rintro ⟨earlier, last, later, hsplit, hlast, hleft⟩
    cases earlier with
    | nil =>
      obtain ⟨rfl, -⟩ := List.cons.inj hsplit
      rw [habsent] at hlast
      cases hlast
    | cons first earlier =>
      obtain ⟨rfl, hentries⟩ := List.cons.inj hsplit
      rw [leftBehind, List.filter_cons, habsent] at hleft
      exact ⟨earlier, last, later, hentries, hlast, hleft⟩
  · rintro ⟨earlier, last, later, rfl, hlast, hleft⟩
    refine ⟨spec :: earlier, last, later, rfl, hlast, ?_⟩
    rw [leftBehind, List.filter_cons, habsent]
    exact hleft

theorem runOut_of_present {entries : List TagSpec} (hpresent : block.has spec = true) :
    block.RunOut tags (spec :: entries) ↔
      tags = [] ∨ block.RunOut (spec.leaves tags) entries := by
  refine ⟨?_, ?_⟩
  · rintro ⟨earlier, last, later, hsplit, hlast, hleft⟩
    cases earlier with
    | nil => exact Or.inl hleft
    | cons first earlier =>
      obtain ⟨rfl, hentries⟩ := List.cons.inj hsplit
      rw [leftBehind, List.filter_cons, hpresent] at hleft
      exact Or.inr ⟨earlier, last, later, hentries, hlast, hleft⟩
  · rintro (rfl | ⟨earlier, last, later, rfl, hlast, hleft⟩)
    · exact ⟨[], spec, entries, rfl, hpresent, rfl⟩
    · refine ⟨spec :: earlier, last, later, rfl, hlast, ?_⟩
      rw [leftBehind, List.filter_cons, hpresent]
      exact hleft

/-- The walk comes to a front part of the table. -/
theorem reached_prefix (rest : List Tag) (specs : List TagSpec) :
    block.reached rest specs <+: specs := by
  induction specs generalizing rest with
  | nil => exact List.nil_prefix
  | cons spec specs ih =>
    cases hhas : block.has spec with
    | false =>
      rw [reached_of_absent hhas, List.cons_prefix_cons]
      exact ⟨rfl, ih rest⟩
    | true =>
      cases rest with
      | nil =>
        rw [reached_of_usedUp hhas, List.cons_prefix_cons]
        exact ⟨rfl, List.nil_prefix⟩
      | cons tag others =>
        rw [reached_of_present hhas, List.cons_prefix_cons]
        exact ⟨rfl, ih _⟩

/-- **The walk comes to an entry exactly if the tags do not run out before it.** -/
theorem mem_reached_iff {before after : List TagSpec} {entry : TagSpec} (rest : List Tag)
    (hdistinct : ((before ++ entry :: after).map TagSpec.name).Nodup) :
    entry ∈ block.reached rest (before ++ entry :: after) ↔ ¬ block.RunOut rest before := by
  induction before generalizing rest with
  | nil =>
    refine iff_of_true ?_ not_runOut_nil
    rw [List.nil_append, reached.eq_def]
    exact List.mem_cons_self
  | cons spec before ih =>
    rw [List.cons_append, List.map_cons, List.nodup_cons] at hdistinct
    have hne : entry ≠ spec := by
      rintro rfl
      exact hdistinct.1 (List.mem_map_of_mem (List.mem_append_right before List.mem_cons_self))
    have hmem : ∀ entries, entry ∈ spec :: entries ↔ entry ∈ entries := fun entries =>
      List.mem_cons.trans (or_iff_right hne)
    rw [List.cons_append]
    cases hhas : block.has spec with
    | false =>
      rw [reached_of_absent hhas, runOut_of_absent hhas, hmem]
      exact ih rest hdistinct.2
    | true =>
      rw [runOut_of_present hhas]
      cases rest with
      | nil =>
        rw [reached_of_usedUp hhas, hmem]
        exact iff_of_false List.not_mem_nil (fun hnot => hnot (Or.inl rfl))
      | cons tag others =>
        rw [reached_of_present hhas, hmem, ih _ hdistinct.2]
        simp

/-! ## Tags in their places

If every entry finds a tag of its name when its turn comes, the walk goes through the whole table.
The reason is that what has been taken up to then has the names of earlier entries only, so that the
tags of all other entries are still there.
-/

/-- There is a tag left for every entry that is present. -/
def Supplies (block : Block) (tags : List Tag) (entries : List TagSpec) : Prop :=
  ∀ spec ∈ entries, block.has spec = true → ∃ tag ∈ tags, tag.name = spec.name

theorem Supplies.tail (hsupplies : block.Supplies tags (spec :: specs)) :
    block.Supplies tags specs :=
  fun entry hentry => hsupplies entry (List.mem_cons_of_mem spec hentry)

/-- An entry with its own tag in front leaves all tags of other names. -/
theorem mem_leaves {first tag : Tag} {others : List Tag} (hfirst : first.name = spec.name)
    (htag : tag ∈ first :: others) (hname : tag.name ≠ spec.name) :
    tag ∈ spec.leaves (first :: others) := by
  have hothers : tag ∈ others := by
    rcases List.mem_cons.mp htag with rfl | hothers
    · exact absurd hfirst hname
    · exact hothers
  rw [← List.takeWhile_append_dropWhile (p := fun tag => tag.name == spec.name) (l := others)]
    at hothers
  rcases List.mem_append.mp hothers with htaken | hleft
  · have hsame := List.mem_takeWhile_imp htaken
    exact absurd (beq_iff_eq.mp hsame) hname
  · exact hleft

theorem Supplies.leaves {first : Tag} {others : List Tag}
    (hsupplies : block.Supplies (first :: others) (spec :: specs))
    (hfirst : first.name = spec.name) (hnew : spec.name ∉ specs.map TagSpec.name) :
    block.Supplies (spec.leaves (first :: others)) specs := by
  intro entry hentry hpresent
  obtain ⟨tag, htag, hname⟩ := hsupplies entry (List.mem_cons_of_mem spec hentry) hpresent
  have hother : tag.name ≠ spec.name := by
    intro hsame
    apply hnew
    rw [← hsame, hname]
    exact List.mem_map_of_mem hentry
  exact ⟨tag, mem_leaves hfirst htag hother, hname⟩

/-- No tag is misplaced on the walk. -/
def Placed (block : Block) (place : Nat) (rest : List Tag) (specs : List TagSpec) : Prop :=
  ∀ step ∈ block.walk place rest specs, step.isMisplaced = false

theorem placed_of_absent {place : Nat} (habsent : block.has spec = false) :
    block.Placed place rest (spec :: specs) ↔ block.Placed place rest specs := by
  rw [Placed, walk_of_absent habsent, List.forall_mem_append]
  refine and_iff_right ?_
  cases spec.required with
  | true => exact List.forall_mem_singleton.mpr rfl
  | false => exact nofun

theorem placed_of_present {place : Nat} {tag : Tag} {others : List Tag}
    (hpresent : block.has spec = true) :
    block.Placed place (tag :: others) (spec :: specs) ↔
      tag.name = spec.name ∧
        block.Placed (place + 1 + (others.takeWhile fun other => other.name == spec.name).length)
          (spec.leaves (tag :: others)) specs := by
  rw [Placed, walk_of_present hpresent, List.forall_mem_cons, List.forall_mem_append]
  refine (and_iff_right rfl).trans (and_congr_left' ?_)
  by_cases hname : tag.name = spec.name
  · rw [if_pos hname]
    exact iff_of_true nofun hname
  · rw [if_neg hname, List.forall_mem_singleton]
    exact iff_of_false nofun hname

/-- **A walk without misplaced tags comes to every entry.** -/
theorem Placed.reached_eq {place : Nat} (hplaced : block.Placed place rest specs)
    (hdistinct : (specs.map TagSpec.name).Nodup) (hsupplies : block.Supplies rest specs) :
    block.reached rest specs = specs := by
  induction specs generalizing place rest with
  | nil => rfl
  | cons spec specs ih =>
    rw [List.map_cons, List.nodup_cons] at hdistinct
    cases hhas : block.has spec with
    | false =>
      rw [reached_of_absent hhas,
        ih ((placed_of_absent hhas).mp hplaced) hdistinct.2 hsupplies.tail]
    | true =>
      cases rest with
      | nil =>
        obtain ⟨tag, htag, -⟩ := hsupplies spec List.mem_cons_self hhas
        cases htag
      | cons tag others =>
        obtain ⟨hname, hrest⟩ := (placed_of_present hhas).mp hplaced
        rw [reached_of_present hhas, ih hrest hdistinct.2 (hsupplies.leaves hname hdistinct.1)]

/-! ## The whole table -/

/-- The steps of the walk through a table. -/
def tableSteps (block : Block) (specs : List TagSpec) : List TableStep :=
  block.walk 0 (Rule.tableTags specs block) specs

/-- The entries of a table that the walk comes to. -/
def tableReached (block : Block) (specs : List TagSpec) : List TagSpec :=
  block.reached (Rule.tableTags specs block) specs

end Block

namespace Rule

variable {specs : List TagSpec} {block : Block}

theorem isSome_specNamed?_iff {name : String} :
    (specNamed? specs name).isSome = true ↔ ∃ spec ∈ specs, spec.name = name := by
  rw [specNamed?, List.find?_isSome]
  simp

theorem mem_tableTags_iff {tag : Tag} :
    tag ∈ tableTags specs block ↔ tag ∈ block.tags ∧ ∃ spec ∈ specs, spec.name = tag.name := by
  rw [tableTags, List.mem_filter, isSome_specNamed?_iff]

theorem supplies_tableTags (specs : List TagSpec) (block : Block) :
    block.Supplies (tableTags specs block) specs := by
  intro spec hspec hpresent
  obtain ⟨tag, htag⟩ := List.exists_mem_of_ne_nil _ (Block.has_eq_true_iff.mp hpresent)
  obtain ⟨hmem, hname⟩ := List.mem_filter.mp htag
  have hname : tag.name = spec.name := beq_iff_eq.mp hname
  exact ⟨tag, mem_tableTags_iff.mpr ⟨hmem, spec, hspec, hname.symm⟩, hname⟩

/-- The rules about the table look at the tags one by one and then take the steps of the walk. -/
theorem tagTable_eq_forM_tableSteps (site : Site) (block : Block) (specs : List TagSpec)
    (construct : String) (processors : Processors Check) :
    tagTable site block specs construct processors =
      tagOccurrences site specs construct [] (tableTags specs block) >>= fun _ =>
        (block.tableSteps specs).forM (TableStep.perform site block construct processors) := by
  rw [tagTable, tagOrder_eq_forM_walk]
  rfl

end Rule

namespace Block

variable {block : Block} {specs : List TagSpec}

theorem exists_misplaced_iff :
    (∃ step ∈ block.tableSteps specs, step.isMisplaced = true) ↔
      ¬ block.Placed 0 (Rule.tableTags specs block) specs := by
  simp [Placed, tableSteps]

/-- Who judges some entries judges more of them exactly if the others ask for nothing. -/
theorem Judged.append_iff {entries : List TagSpec} {steps : List TableStep}
    (hjudged : block.Judged entries steps) (more : List TagSpec) :
    block.Judged (entries ++ more) steps ↔
      ∀ entry ∈ more, entry.required = false ∧ block.has entry = false := by
  have hnone : block.Judged (entries ++ more) steps ↔
      (more.filter fun spec => spec.required && !block.has spec) = [] ∧
        (more.filter fun spec => block.has spec) = [] := by
    refine ⟨?_, ?_⟩
    · rintro ⟨hmissing, hhandedOver⟩
      rw [hjudged.missing, List.filter_append, List.map_append, List.self_eq_append_right,
        List.map_eq_nil_iff] at hmissing
      rw [hjudged.handedOver, List.filter_append, List.map_append, List.self_eq_append_right,
        List.map_eq_nil_iff] at hhandedOver
      exact ⟨hmissing, hhandedOver⟩
    · rintro ⟨hmissing, hhandedOver⟩
      refine ⟨?_, ?_⟩
      · rw [hjudged.missing, List.filter_append, hmissing, List.append_nil]
      · rw [hjudged.handedOver, List.filter_append, hhandedOver, List.append_nil]
  rw [hnone, List.filter_eq_nil_iff, List.filter_eq_nil_iff, ← forall₂_and]
  refine forall₂_congr fun entry _ => ?_
  cases entry.required <;> cases block.has entry <;> decide

/-- **Entries are judged until the tags run out.** Let the names of a table be distinct. The rules
about the table look at the tags one by one and then take the steps of the walk, whatever the checks
of single tags are. The steps judge the entries that are reached, which are those before which the
tags do not run out. So all entries of the table are judged exactly if those that are not reached
are neither required nor present. If there are any such, a tag is reported as misplaced. -/
theorem entries_judged_until_tags_run_out (site : Site) (block : Block) (construct : String)
    (processors : Processors Check) (hdistinct : (specs.map TagSpec.name).Nodup) :
    (Rule.tagTable site block specs construct processors =
        Rule.tagOccurrences site specs construct [] (Rule.tableTags specs block) >>= fun _ =>
          (block.tableSteps specs).forM (TableStep.perform site block construct processors)) ∧
      block.Judged (block.tableReached specs) (block.tableSteps specs) ∧
      (∀ before entry after, specs = before ++ entry :: after →
        (entry ∈ block.tableReached specs ↔
          ¬ block.RunOut (Rule.tableTags specs block) before)) ∧
      (block.Judged specs (block.tableSteps specs) ↔
        ∀ entry ∈ specs, entry ∉ block.tableReached specs →
          entry.required = false ∧ block.tagsNamed entry.name = []) ∧
      (block.tableReached specs ≠ specs →
        ∃ step ∈ block.tableSteps specs, step.isMisplaced = true) := by
  have hjudged : block.Judged (block.tableReached specs) (block.tableSteps specs) :=
    judged_walk 0 _ specs
  refine ⟨Rule.tagTable_eq_forM_tableSteps _ _ _ _ _, hjudged, ?_, ?_, ?_⟩
  · rintro before entry after rfl
    exact mem_reached_iff _ hdistinct
  · obtain ⟨skipped, hskipped⟩ : block.tableReached specs <+: specs := reached_prefix _ specs
    have hapart : (block.tableReached specs ++ skipped).Nodup := by
      rw [hskipped]
      exact List.Nodup.of_map TagSpec.name hdistinct
    have hall := hjudged.append_iff skipped
    rw [hskipped] at hall
    rw [hall]
    refine ⟨?_, ?_⟩
    · intro hnothing entry hentry hnot
      rw [← hskipped] at hentry
      rw [← has_eq_false_iff]
      exact hnothing entry ((List.mem_append.mp hentry).resolve_left hnot)
    · intro hnothing entry hentry
      have hnot : entry ∉ block.tableReached specs := fun hreached =>
        (List.nodup_append.mp hapart).2.2 entry hreached entry hentry rfl
      rw [has_eq_false_iff]
      exact hnothing entry (hskipped ▸ List.mem_append_right _ hentry) hnot
  · intro hends
    rw [exists_misplaced_iff]
    intro hplaced
    exact hends (hplaced.reached_eq hdistinct (Rule.supplies_tableTags specs block))

end Block

/-- A table of five letters, the last of which is required. -/
def fiveLetters : List TagSpec :=
  [{ name := "@a" }, { name := "@b" }, { name := "@c" }, { name := "@d" },
    { name := "@e", required := true }]

/-- A comment with the first four letters in disorder. -/
def shuffledLetters : Source :=
  ⟨#[⟨.docOpen, "/**", 1, none, some 9, [1, 3, 5, 7]⟩, ⟨.docTag, "@c", 2, none, none, []⟩,
    ⟨.docString, "3", 2, none, none, []⟩, ⟨.docTag, "@a", 3, none, none, []⟩,
    ⟨.docString, "1", 3, none, none, []⟩, ⟨.docTag, "@d", 4, none, none, []⟩,
    ⟨.docString, "4", 4, none, none, []⟩, ⟨.docTag, "@b", 5, none, none, []⟩,
    ⟨.docString, "2", 5, none, none, []⟩, ⟨.docClose, "*/", 6, some 0, none, []⟩]⟩

/-- The house style, applied at the first token of a source. -/
def Site.atFront (source : Source) : Site :=
  ⟨source, 0, {}, .ofTokens, Text.letterClass, "Rules"⟩

/-- The check that tags have a certain text. -/
def TagProcessor.expecting (text : String) : TagProcessor Check := fun site _ tags =>
  tags.forM fun tag =>
    if tag.inlineText = text then .done ()
    else .post site.source ⟨.error, "Unexpected %s %s", tag.position, "Unexpected",
      [.text tag.name, .text tag.inlineText], site.origin, none⟩

/-- The first entry takes the first two tags and the second one the others. So the third one finds
none left, and the walk ends. The tag of the fourth entry is not handed over to its check, which
would object to it, and the required tag of the fifth is missing without a report. -/
theorem shuffledLetters_not_judged :
    ∃ block, Block.read shuffledLetters 0 = .ok block ∧ (fiveLetters.map TagSpec.name).Nodup ∧
      (Rule.tagTable (.atFront shuffledLetters) block fiveLetters "file"
        [("@d", .expecting "other")]).diagnostics.map Diagnostic.code =
          ["ATagOrder", "BTagOrder"] ∧
      (TagProcessor.expecting "other" (.atFront shuffledLetters) block
        (block.tagsNamed "@d")).diagnostics.map Diagnostic.code = ["Unexpected"] ∧
      block.tagsNamed "@e" = [] ∧
      ¬ block.Judged fiveLetters (block.tableSteps fiveLetters) := by
  refine ⟨_, rfl, by decide, rfl, rfl, rfl, ?_⟩
  intro hjudged
  exact absurd hjudged.missing (by decide)

/-- The first three entries are judged, and two tags are reported as misplaced. -/
theorem shuffledLetters_judged_in_part :
    ∃ block, Block.read shuffledLetters 0 = .ok block ∧ (fiveLetters.map TagSpec.name).Nodup ∧
      block.tableReached fiveLetters = fiveLetters.take 3 ∧
      block.Judged (fiveLetters.take 3) (block.tableSteps fiveLetters) ∧
      ∃ step ∈ block.tableSteps fiveLetters, step.isMisplaced = true := by
  have hread : Block.read shuffledLetters 0 = .ok _ := rfl
  have hdistinct : (fiveLetters.map TagSpec.name).Nodup := by decide
  obtain ⟨-, hjudged, -, -, hmisplaced⟩ := Block.entries_judged_until_tags_run_out
    (.atFront shuffledLetters) _ "file" [] hdistinct
  exact ⟨_, hread, hdistinct, rfl, hjudged, hmisplaced (by decide)⟩

end DocLint

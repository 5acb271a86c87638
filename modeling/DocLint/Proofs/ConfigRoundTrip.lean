import DocLint.Config.Dump
import DocLint.Proofs.Loading

/-!
# A configuration written out and loaded again

Values of a configuration may be spelt in several ways, and fields may be left out. Loading settles
on one configuration for all these spellings, and writing it out gives the one spelling that names
every field and puts every value in its plainest form. This module shows that the written form of a
well-formed configuration is loaded again as the same configuration. A configuration that could be
loaded is well formed, so loading what was written out changes nothing.

The rules of classes and functions are under no condition here. Whatever their fields are, they are
written in a form that is read again.
-/

namespace DocLint

open Reading

namespace Reading

variable {α β : Type}

theorem map_of_ok {change : α → β} {reading : Reading α} {value : α} (hread : reading = .ok value) :
    change <$> reading = .ok (change value) :=
  map_eq_ok_iff.mpr ⟨value, hread, rfl⟩

theorem next_of_ok {function : Reading (α → β)} {argument : Reading α} {f : α → β} {value : α}
    (hfunction : function = .ok f) (hargument : argument = .ok value) :
    function.next argument = .ok (f value) :=
  next_eq_ok_iff.mpr ⟨f, value, hfunction, hargument, rfl⟩

end Reading

/-! ## Lists and years -/

/-- A list is read again if its items are. -/
theorem readList_map {α : Type} {readItem : Value → Reading α} {dump : α → Value} {items : List α}
    (hitems : ∀ item ∈ items, readItem (dump item) = .ok item) :
    readList readItem (.list (items.map dump)) = .ok items :=
  readList_eq_ok_iff.mpr
    ⟨_, rfl, List.forall₂_map_left_iff.mpr (List.forall₂_same.mpr hitems)⟩

/-- A year in range is read again, and so is one that is left open. -/
theorem readYear?_dumpYear? {year? : Option Int}
    (hrange : ∀ year ∈ year?, earliestYear ≤ year ∧ year ≤ latestYear) :
    readYear? (dumpYear? year?) = .ok year? := by
  cases year? with
  | none => rfl
  | some year =>
    exact readYear?_eq_ok_iff.mpr
      (Or.inr ⟨year, readYear_eq_ok_iff.mpr ⟨rfl, hrange year rfl⟩, rfl⟩)

/-! ## Sections -/

/-- An entry of the table is read again if it has the name of a tag. -/
theorem TagSpec.load_dump {spec : TagSpec} (hname : isTagName spec.name = true) :
    TagSpec.load spec.dump = .ok spec := by
  rw [load, dump, readObject_object_eq_ok_iff]
  refine ⟨?_, fun _ hknown => hknown⟩
  refine next_of_ok (next_of_ok (map_of_ok ?_) ?_) ?_
  · have hread : readTagName (.text spec.name) = .ok spec.name :=
      readTagName_eq_ok_iff.mpr ⟨rfl, hname⟩
    exact readRequired_eq_ok_iff.mpr ⟨_, rfl, hread⟩
  · exact readField_of_lookup rfl rfl
  · exact readField_of_lookup rfl rfl

/-- **Well-formed rules of file comments are read again.** -/
theorem FileRules.load_dump {rules : FileRules} (hformed : rules.WellFormed) :
    FileRules.load rules.dump = .ok rules := by
  have htags : readTagTable (.list (rules.tags.map TagSpec.dump)) = .ok rules.tags :=
    readTagTable_eq_ok_iff.mpr
      ⟨readList_map fun spec hspec => TagSpec.load_dump (hformed.tagNames spec hspec),
        hformed.distinct⟩
  have hholder : readFilledText (.text rules.copyrightHolder) = .ok rules.copyrightHolder :=
    readFilledText_eq_ok_iff.mpr ⟨rfl, hformed.holder⟩
  have hstart : readYear (.integer rules.copyrightStartYear) = .ok rules.copyrightStartYear :=
    readYear_eq_ok_iff.mpr ⟨rfl, hformed.startYear⟩
  have hcurrent : readYear? (dumpYear? rules.currentYear?) = .ok rules.currentYear? :=
    readYear?_dumpYear? hformed.currentYear
  rw [load, dump, readObject_object_eq_ok_iff]
  refine ⟨?_, fun _ hknown => hknown⟩
  refine next_of_ok
    (next_of_ok (next_of_ok (next_of_ok (next_of_ok (map_of_ok ?_) ?_) ?_) ?_) ?_) ?_
  · exact readField_of_lookup rfl rfl
  · exact readField_of_lookup rfl rfl
  · exact readField_of_lookup rfl htags
  · exact readField_of_lookup rfl hholder
  · exact readField_of_lookup rfl hstart
  · exact readField_of_lookup rfl hcurrent

theorem ClassRules.load_dump (rules : ClassRules) : ClassRules.load rules.dump = .ok rules := by
  rw [load, dump, readObject_object_eq_ok_iff]
  refine ⟨?_, fun _ hknown => hknown⟩
  refine next_of_ok (next_of_ok (map_of_ok ?_) ?_) ?_
  · exact readField_of_lookup rfl rfl
  · exact readField_of_lookup rfl (readPolicy_name rules.shortPolicy)
  · exact readField_of_lookup rfl (readPolicy_name rules.longPolicy)

theorem FunctionRules.load_dump (rules : FunctionRules) :
    FunctionRules.load rules.dump = .ok rules := by
  have hmethods : readList readText (.list (rules.specialMethods.map Value.text)) =
      .ok rules.specialMethods := readList_map fun _ _ => rfl
  rw [load, dump, readObject_object_eq_ok_iff]
  refine ⟨?_, fun _ hknown => hknown⟩
  refine next_of_ok
    (next_of_ok (next_of_ok (next_of_ok (next_of_ok (map_of_ok ?_) ?_) ?_) ?_) ?_) ?_
  · exact readField_of_lookup rfl rfl
  · exact readField_of_lookup rfl (readPolicy_name rules.shortPolicy)
  · exact readField_of_lookup rfl (readPolicy_name rules.throwsPolicy)
  · exact readField_of_lookup rfl rfl
  · exact readField_of_lookup rfl rfl
  · exact readField_of_lookup rfl hmethods

/-- **A well-formed configuration is loaded again.** -/
theorem Config.load_dump {config : Config} (hformed : config.file.WellFormed) :
    Config.load config.dump = .ok config := by
  refine load_eq_ok_iff.mpr ⟨?_, fun _ hknown => hknown⟩
  refine next_of_ok (next_of_ok (map_of_ok ?_) ?_) ?_
  · exact readField_of_lookup rfl (FileRules.load_dump hformed)
  · exact readField_of_lookup rfl config.classLike.load_dump
  · exact readField_of_lookup rfl config.function.load_dump

/-! ## The table of tags -/

/-- The name of a tag is an at sign and a word. -/
theorem isTagName_iff {text : String} :
    isTagName text = true ↔ ∃ word, text.toList = '@' :: word ∧ word ≠ [] ∧
      ∀ c ∈ word, Text.isWordChar c = true ∨ c = '-' := by
  rw [isTagName]
  split
  · rename_i word htext
    simp [htext]
  · rename_i hother
    refine iff_of_false nofun ?_
    rintro ⟨word, htext, -⟩
    exact hother word htext

/-- **The place of a tag in a table without repetitions** is where its name stands. -/
theorem FileRules.expectedOrder?_eq_some_iff {rules : FileRules} (hformed : rules.WellFormed)
    {name : String} {place : Nat} :
    rules.expectedOrder? name = some place ↔
      (rules.tags[place]?).map TagSpec.name = some name := by
  rw [expectedOrder?, List.findIdx?_eq_some_iff_getElem, Option.map_eq_some_iff]
  refine ⟨?_, ?_⟩
  · rintro ⟨hplace, hname, -⟩
    exact ⟨_, List.getElem?_eq_getElem hplace, by simpa using hname⟩
  · rintro ⟨spec, hspec, rfl⟩
    obtain ⟨hplace, rfl⟩ := List.getElem?_eq_some_iff.mp hspec
    refine ⟨hplace, by simp, fun earlier hearlier => ?_⟩
    -- an earlier entry of that name would be a repetition
    have hdiffer := List.pairwise_iff_getElem.mp hformed.distinct earlier place
      (by rw [List.length_map]; omega) (by rwa [List.length_map]) hearlier
    simpa using hdiffer

theorem FileRules.expectedOrder?_eq_none_iff {rules : FileRules} {name : String} :
    rules.expectedOrder? name = none ↔ ∀ spec ∈ rules.tags, spec.name ≠ name := by
  simp [expectedOrder?]

/-- **Loading is a normalization.** A configuration that could be loaded has tags with different
names, each an at sign and a word, a holder of the copyright, and years in range. A tag is expected
at its place in the table, and any other name nowhere. Written out in full, the configuration is
loaded again as it is. -/
theorem Config.loading_normalizes {fields : Fields} {config : Config}
    (hload : Config.load fields = .ok config) :
    (config.file.tags.map TagSpec.name).Nodup ∧
      (∀ spec ∈ config.file.tags, ∃ word, spec.name.toList = '@' :: word ∧ word ≠ [] ∧
        ∀ c ∈ word, Text.isWordChar c = true ∨ c = '-') ∧
      config.file.copyrightHolder ≠ "" ∧
      (1970 ≤ config.file.copyrightStartYear ∧ config.file.copyrightStartYear ≤ 9999) ∧
      (∀ year ∈ config.file.currentYear?, 1970 ≤ year ∧ year ≤ 9999) ∧
      (∀ name place, config.file.expectedOrder? name = some place ↔
        (config.file.tags[place]?).map TagSpec.name = some name) ∧
      (∀ name, config.file.expectedOrder? name = none ↔
        ∀ spec ∈ config.file.tags, spec.name ≠ name) ∧
      Config.load config.dump = .ok config := by
  have hformed := Config.wellFormed_of_load hload
  refine ⟨hformed.distinct, ?_, hformed.holder, hformed.startYear, hformed.currentYear, ?_, ?_,
    Config.load_dump hformed⟩
  · intro spec hspec
    exact isTagName_iff.mp (hformed.tagNames spec hspec)
  · intro name place
    exact FileRules.expectedOrder?_eq_some_iff hformed
  · intro name
    exact FileRules.expectedOrder?_eq_none_iff

/-- A configuration in unusual spellings, with most fields left out. -/
def unusualFields : Fields :=
  [("function_comment", .object [("variadic_suffix", .text "")]),
    ("file_comment", .object
      [("copyright_start_year", .text " +02_009.00"), ("current_year", .measure (.whole 2016)),
        ("tags", .list
          [.object [("name", .text "@since"), ("required", .text "oFF")],
            .object [("allow_multiple", .integer 1), ("name", .text "@see-also")]]),
        ("enabled", .measure (.whole 0))])]

/-- The configuration that they stand for. -/
def unusualConfig : Config where
  file :=
    { enabled := false
      tags := [{ name := "@since" }, { name := "@see-also", repeatable := true }]
      copyrightStartYear := 2009
      currentYear? := some 2016 }
  function := { variadicSuffix := "" }

/-- It is written in another way than it was spelt, and loaded again. -/
theorem unusualFields_normalized :
    Config.load unusualFields = .ok unusualConfig ∧
      unusualConfig.file.expectedOrder? "@see-also" = some 1 ∧
      unusualConfig.file.expectedOrder? "@see" = none ∧
      Config.load unusualConfig.dump = .ok unusualConfig := by
  have hload : Config.load unusualFields = .ok unusualConfig := by decide +kernel
  obtain ⟨-, -, -, -, -, hplace, hnone, hagain⟩ := Config.loading_normalizes hload
  exact ⟨hload, (hplace "@see-also" 1).mpr rfl, (hnone "@see").mpr (by decide), hagain⟩

end DocLint

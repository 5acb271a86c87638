import DocLint.Config.Load
import Mathlib.Data.List.Forall2

/-!
# What a loaded configuration is like

Readings are combined from independent parts, so a reading that succeeds is a reading of all its
parts that succeed. For every reader one lemma says which values it accepts and what it makes of
them. From these it follows field by field that a configuration that could be loaded is well formed:
the names of its tags are names of tags and differ, the holder of the copyright has a name, and the
years are in range. The default values are well formed too, so it does not matter which fields were
left out.
-/

namespace DocLint

namespace Reading

variable {α β γ : Type}

/-- Two readings side by side succeed when both do. -/
theorem both_eq_ok_iff {combine : α → β → γ} {first : Reading α} {second : Reading β} {result : γ} :
    both combine first second = .ok result ↔
      ∃ a b, first = .ok a ∧ second = .ok b ∧ combine a b = result := by
  cases first <;> cases second <;> simp [both]

/-- A reading of a function and its argument succeeds when both do. -/
theorem next_eq_ok_iff {function : Reading (α → β)} {argument : Reading α} {result : β} :
    next function argument = .ok result ↔
      ∃ f a, function = .ok f ∧ argument = .ok a ∧ f a = result :=
  both_eq_ok_iff

/-- A reading with its value changed succeeds when the reading does. -/
theorem map_eq_ok_iff {change : α → β} {reading : Reading α} {result : β} :
    change <$> reading = .ok result ↔ ∃ value, reading = .ok value ∧ change value = result := by
  cases reading <;> simp [Functor.map, Except.map]

/-- The reading of a part succeeds alike when it is seen from the whole. -/
theorem under_eq_ok_iff {step : PathStep} {reading : Reading α} {value : α} :
    reading.under step = .ok value ↔ reading = .ok value := by
  cases reading <;> simp [under, Except.mapError]

/-- Readings of all items succeed when each of them does. -/
theorem all_eq_ok_iff {readings : List (Reading α)} {values : List α} :
    all readings = .ok values ↔
      List.Forall₂ (fun reading value => reading = .ok value) readings values := by
  induction readings generalizing values with
  | nil => cases values <;> simp [all]
  | cons reading readings ih =>
    unfold all
    rw [both_eq_ok_iff]
    cases values with
    | nil => simp
    | cons value values => simp [ih]

end Reading

open Reading

/-! ## Readers of single values -/

theorem readText_eq_ok_iff {value : Value} {text : String} :
    readText value = .ok text ↔ value = .text text := by
  cases value <;> simp [readText, fail]

theorem readFilledText_eq_ok_iff {value : Value} {text : String} :
    readFilledText value = .ok text ↔ value = .text text ∧ text ≠ "" := by
  refine ⟨?_, ?_⟩
  · intro hread
    rw [readFilledText] at hread
    split at hread
    · cases hread
    · rename_i found hfound
      split at hread
      · cases hread
      · rename_i hfilled
        obtain rfl := Except.ok.inj hread
        exact ⟨readText_eq_ok_iff.mp hfound, by rwa [String.isEmpty_iff] at hfilled⟩
  · rintro ⟨rfl, hfilled⟩
    simp [readFilledText, readText, hfilled]

theorem readTagName_eq_ok_iff {value : Value} {text : String} :
    readTagName value = .ok text ↔ value = .text text ∧ isTagName text = true := by
  refine ⟨?_, ?_⟩
  · intro hread
    rw [readTagName] at hread
    split at hread
    · cases hread
    · rename_i found hfound
      split at hread
      · rename_i hname
        obtain rfl := Except.ok.inj hread
        exact ⟨readText_eq_ok_iff.mp hfound, hname⟩
      · cases hread
  · rintro ⟨rfl, hname⟩
    simp [readTagName, readText, hname]

/-- A year is a whole number in range. -/
theorem readYear_eq_ok_iff {value : Value} {year : Int} :
    readYear value = .ok year ↔
      readInteger value = .ok year ∧ earliestYear ≤ year ∧ year ≤ latestYear := by
  refine ⟨?_, ?_⟩
  · intro hread
    rw [readYear] at hread
    split at hread
    · cases hread
    · rename_i found hfound
      split at hread
      · cases hread
      · split at hread
        · cases hread
        · obtain rfl := Except.ok.inj hread
          exact ⟨hfound, by omega, by omega⟩
  · rintro ⟨hread, hearly, hlate⟩
    rw [readYear, hread]
    dsimp only
    rw [if_neg (by omega), if_neg (by omega)]

theorem readYear?_eq_ok_iff {value : Value} {year? : Option Int} :
    readYear? value = .ok year? ↔
      value = .null ∧ year? = none ∨ ∃ year, readYear value = .ok year ∧ some year = year? := by
  rw [readYear?.eq_def]
  split
  · simp [readYear, readInteger, fail, eq_comm]
  · rename_i hvalue
    have hnull : ¬ (value = .null ∧ year? = none) := fun hnull => hvalue hnull.1
    rw [map_eq_ok_iff, or_iff_right hnull]

/-- The items of a list are read one by one. -/
theorem readList_eq_ok_iff {α : Type} {readItem : Value → Reading α} {value : Value}
    {items : List α} :
    readList readItem value = .ok items ↔ ∃ values, value = .list values ∧
      List.Forall₂ (fun value item => readItem value = .ok item) values items := by
  cases value with
  | list values =>
    simp only [readList, all_eq_ok_iff, List.forall₂_iff_get, List.length_mapIdx,
      List.get_eq_getElem, List.getElem_mapIdx, under_eq_ok_iff, Value.list.injEq,
      exists_eq_left']
  | _ => simp [readList, fail]

theorem readPolicy_name (policy : Capitalization) :
    readPolicy (.text policy.name) = .ok policy := by
  cases policy <;> rfl

/-! ## Readers of fields -/

/-- A field has its default value or one that could be read. -/
theorem readField_eq_ok {α : Type} {fields : Fields} {name : String} {default result : α}
    {read : Value → Reading α} (hread : readField fields name default read = .ok result) :
    result = default ∨ ∃ value, read value = .ok result := by
  unfold readField at hread
  split at hread
  · exact Or.inl (Except.ok.inj hread).symm
  · exact Or.inr ⟨_, under_eq_ok_iff.mp hread⟩

/-- A field that is present is read. -/
theorem readField_of_lookup {α : Type} {fields : Fields} {name : String} {default result : α}
    {read : Value → Reading α} {value : Value} (hlookup : fields.lookup name = some value)
    (hread : read value = .ok result) : readField fields name default read = .ok result := by
  rw [readField, hlookup]
  exact under_eq_ok_iff.mpr hread

/-- A field that has to be present is one that is read. -/
theorem readRequired_eq_ok_iff {α : Type} {fields : Fields} {name : String} {result : α}
    {read : Value → Reading α} :
    readRequired fields name read = .ok result ↔
      ∃ value, fields.lookup name = some value ∧ read value = .ok result := by
  rw [readRequired]
  split
  · rename_i hlookup
    simp [hlookup]
  · rename_i value hlookup
    simp [hlookup, under_eq_ok_iff]

/-- Fields are let pass when all of them are known. -/
theorem refuseOthers_eq_ok_iff {fields : Fields} {known : List String} {done : Unit} :
    refuseOthers fields known = .ok done ↔ ∀ name ∈ fields.map Prod.fst, name ∈ known := by
  have hothers : ((fields.map Prod.fst).filter fun name => !known.contains name) = [] ↔
      ∀ name ∈ fields.map Prod.fst, name ∈ known := by
    simp [List.filter_eq_nil_iff]
  rw [← hothers, refuseOthers]
  split
  · rename_i hnone
    exact iff_of_true rfl hnone
  · rename_i hsome
    exact iff_of_false nofun hsome

/-- An object is read from its fields, of which none may be unknown. -/
theorem readObject_object_eq_ok_iff {α : Type} {known : List String} {read : Fields → Reading α}
    {fields : Fields} {result : α} :
    readObject known read (.object fields) = .ok result ↔
      read fields = .ok result ∧ ∀ name ∈ fields.map Prod.fst, name ∈ known := by
  simp only [readObject, both_eq_ok_iff, refuseOthers_eq_ok_iff]
  refine ⟨?_, ?_⟩
  · rintro ⟨found, -, hread, hknown, rfl⟩
    exact ⟨hread, hknown⟩
  · rintro ⟨hread, hknown⟩
    exact ⟨result, (), hread, hknown, rfl⟩

/-- What is read from an object is read from its fields. -/
theorem readObject_eq_ok {α : Type} {known : List String} {read : Fields → Reading α}
    {value : Value} {result : α} (hread : readObject known read value = .ok result) :
    ∃ fields, read fields = .ok result := by
  cases value with
  | object fields => exact ⟨fields, (readObject_object_eq_ok_iff.mp hread).1⟩
  | _ => cases hread

/-! ## Well-formed rules -/

/-- What the readers demand of the rules of file comments. -/
structure FileRules.WellFormed (rules : FileRules) : Prop where
  /-- The tags of the table have names of tags. -/
  tagNames : ∀ spec ∈ rules.tags, isTagName spec.name = true
  /-- No two of them have the same name. -/
  distinct : (rules.tags.map TagSpec.name).Nodup
  /-- The holder of the copyright has a name. -/
  holder : rules.copyrightHolder ≠ ""
  /-- The copyright begins in a year that may be named. -/
  startYear : earliestYear ≤ rules.copyrightStartYear ∧ rules.copyrightStartYear ≤ latestYear
  /-- So does the current year, if it is set. -/
  currentYear : ∀ year ∈ rules.currentYear?, earliestYear ≤ year ∧ year ≤ latestYear

/-- The default rules are well formed. -/
theorem FileRules.wellFormed_default : ({} : FileRules).WellFormed where
  tagNames := by decide +kernel
  distinct := by decide
  holder := by decide
  startYear := by decide
  currentYear := by simp

/-- An entry of the table that could be read has the name of a tag. -/
theorem TagSpec.isTagName_of_load {value : Value} {spec : TagSpec}
    (hload : TagSpec.load value = .ok spec) : isTagName spec.name = true := by
  obtain ⟨fields, hfields⟩ := readObject_eq_ok hload
  simp only [next_eq_ok_iff, map_eq_ok_iff, readRequired_eq_ok_iff, readTagName_eq_ok_iff]
    at hfields
  obtain ⟨_, _, ⟨_, _, ⟨name, ⟨_, -, -, hname⟩, rfl⟩, -, rfl⟩, -, rfl⟩ := hfields
  exact hname

/-- The names in a table are compared when all its entries could be read. -/
theorem readTagTable_eq_ok_iff {value : Value} {specs : List TagSpec} :
    readTagTable value = .ok specs ↔
      readList TagSpec.load value = .ok specs ∧ (specs.map TagSpec.name).Nodup := by
  refine ⟨?_, ?_⟩
  · intro hread
    rw [readTagTable] at hread
    split at hread
    · cases hread
    · rename_i found hfound
      split at hread
      · rename_i hdistinct
        obtain rfl := Except.ok.inj hread
        exact ⟨hfound, hdistinct⟩
      · cases hread
  · rintro ⟨hread, hdistinct⟩
    rw [readTagTable, hread]
    exact if_pos hdistinct

/-- The entries of a table that could be read have names of tags. -/
theorem isTagName_of_readTagTable {value : Value} {specs : List TagSpec}
    (hread : readTagTable value = .ok specs) : ∀ spec ∈ specs, isTagName spec.name = true := by
  obtain ⟨values, -, hitems⟩ := readList_eq_ok_iff.mp (readTagTable_eq_ok_iff.mp hread).1
  intro spec hspec
  obtain ⟨index, hindex, rfl⟩ := List.mem_iff_getElem.mp hspec
  exact TagSpec.isTagName_of_load (hitems.get (hitems.length_eq.symm ▸ hindex) hindex)

/-- **Rules that could be read are well formed.** -/
theorem FileRules.wellFormed_of_load {value : Value} {rules : FileRules}
    (hload : FileRules.load value = .ok rules) : rules.WellFormed := by
  obtain ⟨fields, hfields⟩ := readObject_eq_ok hload
  simp only [next_eq_ok_iff, map_eq_ok_iff] at hfields
  obtain ⟨_, currentYear?, hbefore, hcurrent, rfl⟩ := hfields
  obtain ⟨_, startYear, hbefore, hstart, rfl⟩ := hbefore
  obtain ⟨_, holder, hbefore, hholder, rfl⟩ := hbefore
  obtain ⟨_, tags, hbefore, htags, rfl⟩ := hbefore
  obtain ⟨_, checkTags, ⟨enabled, -, rfl⟩, -, rfl⟩ := hbefore
  refine ⟨?_, ?_, ?_, ?_, ?_⟩
  · rcases readField_eq_ok htags with rfl | ⟨_, hread⟩
    · exact wellFormed_default.tagNames
    · exact isTagName_of_readTagTable hread
  · rcases readField_eq_ok htags with rfl | ⟨_, hread⟩
    · exact wellFormed_default.distinct
    · exact (readTagTable_eq_ok_iff.mp hread).2
  · rcases readField_eq_ok hholder with rfl | ⟨_, hread⟩
    · exact wellFormed_default.holder
    · exact (readFilledText_eq_ok_iff.mp hread).2
  · rcases readField_eq_ok hstart with rfl | ⟨_, hread⟩
    · exact wellFormed_default.startYear
    · exact (readYear_eq_ok_iff.mp hread).2
  · rcases readField_eq_ok hcurrent with rfl | ⟨_, hread⟩
    · exact wellFormed_default.currentYear
    · rcases readYear?_eq_ok_iff.mp hread with ⟨-, rfl⟩ | ⟨year, hyear, rfl⟩
      · exact wellFormed_default.currentYear
      · simpa using (readYear_eq_ok_iff.mp hyear).2

/-- A configuration is read as an object with three sections. -/
theorem Config.load_eq_ok_iff {fields : Fields} {config : Config} :
    Config.load fields = .ok config ↔
      Config.readSections fields = .ok config ∧ ∀ name ∈ fields.map Prod.fst,
        name ∈ ["file_comment", "class_comment", "function_comment"] := by
  rw [← readObject_object_eq_ok_iff, load]
  generalize readObject _ readSections (.object fields) = reading
  cases reading <;> simp [Except.mapError]

/-- **A configuration that could be loaded is well formed.** -/
theorem Config.wellFormed_of_load {fields : Fields} {config : Config}
    (hload : Config.load fields = .ok config) : config.file.WellFormed := by
  have hsections := (load_eq_ok_iff.mp hload).1
  simp only [readSections, next_eq_ok_iff, map_eq_ok_iff] at hsections
  obtain ⟨_, _, ⟨_, _, ⟨file, hfile, rfl⟩, -, rfl⟩, -, rfl⟩ := hsections
  rcases readField_eq_ok hfile with rfl | ⟨value, hread⟩
  · exact FileRules.wellFormed_default
  · exact FileRules.wellFormed_of_load hread

/-- The table of a loaded configuration has names of tags. -/
theorem Config.isTagName_of_load {fields : Fields} {config : Config}
    (hload : Config.load fields = .ok config) :
    ∀ spec ∈ config.file.tags, isTagName spec.name = true :=
  (wellFormed_of_load hload).tagNames

end DocLint

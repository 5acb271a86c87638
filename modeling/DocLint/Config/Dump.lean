import DocLint.Config
import DocLint.Config.Value

/-!
# Writing a configuration out

The full form of a configuration as untyped data: every section with every field, policies by name.
-/

namespace DocLint

/-- An entry of the table of tags as data. -/
def TagSpec.dump (spec : TagSpec) : Value :=
  .object [("name", .text spec.name), ("required", .bool spec.required),
    ("allow_multiple", .bool spec.repeatable)]

/-- A year that may be left open as data. -/
def dumpYear? : Option Int → Value
  | some year => .integer year
  | none => .null

/-- The section of file comments as data. -/
def FileRules.dump (rules : FileRules) : Value :=
  .object [("enabled", .bool rules.enabled), ("check_tags", .bool rules.checkTags),
    ("tags", .list (rules.tags.map TagSpec.dump)),
    ("copyright_holder", .text rules.copyrightHolder),
    ("copyright_start_year", .integer rules.copyrightStartYear),
    ("current_year", dumpYear? rules.currentYear?)]

/-- The section of class comments as data. -/
def ClassRules.dump (rules : ClassRules) : Value :=
  .object [("enabled", .bool rules.enabled),
    ("short_capitalization", .text rules.shortPolicy.name),
    ("long_capitalization", .text rules.longPolicy.name)]

/-- The section of function comments as data. -/
def FunctionRules.dump (rules : FunctionRules) : Value :=
  .object [("enabled", .bool rules.enabled),
    ("short_capitalization", .text rules.shortPolicy.name),
    ("throws_capitalization", .text rules.throwsPolicy.name),
    ("require_short_full_stop", .bool rules.requireShortFullStop),
    ("variadic_suffix", .text rules.variadicSuffix),
    ("special_methods", .list (rules.specialMethods.map Value.text))]

/-- A configuration as data. -/
def Config.dump (config : Config) : Fields :=
  [("file_comment", config.file.dump), ("class_comment", config.classLike.dump),
    ("function_comment", config.function.dump)]

end DocLint

import DocLint.ParamText
import DocLint.Site

/-!
# Rules about parameter tags

The parameter tags of a function comment document the declared parameters one by one: the first tag
the first parameter, and so on. Tags have a type, a variable and single blanks between their fields;
wrong blanks can be repaired. A tag beyond the last parameter is superfluous unless its variable
ends in the way that is reserved for further arguments. A parameter that no tag names is reported,
unless the comment inherits its documentation.
-/

namespace DocLint

/-- A parameter tag with the fields of its text. -/
structure ParamTag where
  /-- The tag. -/
  tag : Tag
  /-- The fields of its text. -/
  fields : ParamText

namespace ParamTag

/-- A parameter tag with its fields. -/
def ofTag (tag : Tag) : ParamTag :=
  ⟨tag, ParamText.ofInline (tag.inline?.map Inline.text)⟩

/-- Whether the tag names a variable. -/
def isNamed (param : ParamTag) : Bool :=
  !param.fields.variableName.isEmpty

/-- The edit that sets the fields apart by single spaces. -/
def canonicalEdit? (param : ParamTag) : Option Edit :=
  param.tag.inline?.map fun inline => ⟨inline.position, param.fields.canonical⟩

end ParamTag

namespace Rule

variable {m : Type → Type} [Monad m] [Reporting m]

/-- The parameter tags of a comment. -/
def paramTags (block : Block) : List ParamTag :=
  (block.tagsNamed "@param").map ParamTag.ofTag

/-- A parameter tag names a type and a variable. -/
def paramFields (site : Site) (param : ParamTag) : m Unit := do
  site.expect (!param.fields.type.isEmpty) param.tag.position .missingParamType
  site.expect param.isNamed param.tag.position .missingParamName

/-- One blank sets the type apart from the variable. -/
def paramTypeSpace (site : Site) (param : ParamTag) : m Unit :=
  site.expectOrEdit
    (param.fields.type.isEmpty || param.fields.typeSpace == ParamText.fieldSpace)
    param.tag.position (.spacingAfterParamType ParamText.fieldSpace param.fields.typeSpace)
    param.canonicalEdit?

/-- One blank sets the variable apart from the comment. -/
def paramNameSpace (site : Site) (param : ParamTag) : m Unit :=
  site.expectOrEdit
    (param.fields.comment.isEmpty || param.fields.variableSpace == ParamText.fieldSpace)
    param.tag.position (.spacingAfterParamName ParamText.fieldSpace param.fields.variableSpace)
    param.canonicalEdit?

/-- The violation of a variable that differs from the declared name. -/
def nameMismatch (documented declared : String) : Violation :=
  if Text.toSmall declared = Text.toSmall documented then .paramNameNoCaseMatch documented declared
  else .paramNameNoMatch documented declared

/-- The variable is the declared one. Beyond the declared parameters it has to end in the reserved
way. -/
def paramName (site : Site) (declared? : Option String) (param : ParamTag) : m Unit :=
  let documented := param.fields.variableName
  match declared? with
  | some declared =>
    site.expect (declared == documented) param.tag.position (nameMismatch documented declared)
  | none =>
    site.expect (Text.endsWith documented site.config.function.variadicSuffix) param.tag.position
      .extraParamComment

/-- A parameter tag fits the declared parameter. A tag that names no variable is passed over. -/
def param (site : Site) (declared? : Option String) (param : ParamTag) : m Unit :=
  if param.isNamed then do
    paramTypeSpace site param
    paramName site declared? param
    paramNameSpace site param
  else pure ()

/-- Parameter tags and declared parameters side by side. -/
def paramPairs (site : Site) : (declared : List String) → List ParamTag → m Unit
  | _, [] => pure ()
  | declared, first :: rest => do
    param site declared.head? first
    paramPairs site declared.tail rest

/-- Every declared parameter is named by some tag. -/
def paramsDocumented (site : Site) (block : Block) (declared : List String)
    (params : List ParamTag) : m Unit :=
  declared.forM fun name =>
    site.expect (params.any fun param => param.isNamed && param.fields.variableName == name)
      block.opener (.missingParamTag name)

/-- The parameter tags document the declared parameters. -/
def params (site : Site) (block : Block) : m Unit := do
  let params := paramTags block
  params.forM (paramFields site)
  let declared ← Check.ofExcept (site.signatures.parameters site.source site.anchor)
  paramPairs site declared params
  if (block.tagsNamed "@inheritdoc").isEmpty then paramsDocumented site block declared params
  else pure ()

end Rule

end DocLint

import DocLint.Site

/-!
# The wording of violations

A violation is reported by filling the template of its message. Filling can fail in several ways,
and so can a report whose position holds no token. This module shows that only the second ever
happens: the template of every violation fits its values, and the filled text is the one given here
by `Violation.message`. Reporting a violation therefore amounts to looking a line up.
-/

namespace DocLint

/-! ## Filling a template -/

namespace Template

/-- A plain character is shown before what the other pieces give. -/
theorem fillPieces_plain_cons (c : Char) (rest : List Piece) (data : List Datum) :
    fillPieces (.plain c :: rest) data =
      (fillPieces rest data).map (String.singleton c ++ ·) := by
  show (fillPieces rest data >>= fun filled => pure (String.singleton c ++ filled)) = _
  cases fillPieces rest data <;> rfl

/-- The first value is shown before what the other pieces give. -/
theorem fillPieces_value_cons (rest : List Piece) (datum : Datum) (data : List Datum) :
    fillPieces (.value :: rest) (datum :: data) =
      (fillPieces rest data).map (datum.shown ++ ·) := by
  show (fillPieces rest data >>= fun filled => pure (datum.shown ++ filled)) = _
  cases fillPieces rest data <;> rfl

/-- A text without a percent sign stands for itself. -/
theorem fillPieces_plain_append {text : List Char} (hplain : '%' ∉ text) (rest : List Char)
    (data : List Datum) (index : Nat) :
    fillPieces (pieces index (text ++ rest)) data =
      (fillPieces (pieces (index + text.length) rest) data).map (String.ofList text ++ ·) := by
  induction text generalizing index with
  | nil => cases h : fillPieces (pieces index rest) data <;> simp [h, Except.map]
  | cons c text ih =>
    have hc : c ≠ '%' := fun hc => hplain (by simp [hc])
    have htext : '%' ∉ text := fun hmem => hplain (by simp [hmem])
    have hpieces : pieces index (c :: (text ++ rest)) =
        .plain c :: pieces (index + 1) (text ++ rest) := by
      cases htail : text ++ rest with
      | nil => simp only [pieces, if_neg hc]
      | cons d tail => simp only [pieces, if_neg hc]
    have hlength : index + (c :: text).length = index + 1 + text.length := by
      simp only [List.length_cons]
      omega
    rw [List.cons_append, hpieces, fillPieces_plain_cons, ih htext, hlength]
    cases fillPieces (pieces (index + 1 + text.length) rest) data with
    | error fault => rfl
    | ok filled =>
      show Except.ok (String.singleton c ++ (String.ofList text ++ filled)) =
        Except.ok (String.ofList (c :: text) ++ filled)
      rw [String.ofList_cons, String.append_assoc]

/-- A place for a value takes the next one. -/
theorem fillPieces_value (rest : List Char) (datum : Datum) (data : List Datum) (index : Nat) :
    fillPieces (pieces index ('%' :: 's' :: rest)) (datum :: data) =
      (fillPieces (pieces (index + 2) rest) data).map (datum.shown ++ ·) := by
  have hpieces : pieces index ('%' :: 's' :: rest) = .value :: pieces (index + 2) rest := rfl
  rw [hpieces, fillPieces_value_cons]

/-- Filling text by text: first a text without a percent sign, then a place, then the rest. -/
theorem fill_step {before : String} (hbefore : '%' ∉ before.toList) (rest : List Char)
    (datum : Datum) (data : List Datum) (index : Nat) :
    fillPieces (pieces index (before.toList ++ '%' :: 's' :: rest)) (datum :: data) =
      (fillPieces (pieces (index + before.toList.length + 2) rest) data).map
        (before ++ datum.shown ++ ·) := by
  rw [fillPieces_plain_append hbefore, fillPieces_value, String.ofList_toList]
  cases fillPieces (pieces (index + before.toList.length + 2) rest) data with
  | error fault => rfl
  | ok filled =>
    show Except.ok (before ++ (datum.shown ++ filled)) = Except.ok (before ++ datum.shown ++ filled)
    rw [String.append_assoc]

/-- After the last place comes a text without a percent sign. -/
theorem fill_end {after : String} (hafter : '%' ∉ after.toList) (index : Nat) :
    fillPieces (pieces index after.toList) [] = .ok after := by
  have hfill := fillPieces_plain_append hafter [] [] index
  rw [List.append_nil] at hfill
  rw [hfill, String.ofList_toList]
  show Except.ok (after ++ "") = Except.ok after
  rw [String.append_empty]

/-- A template with one place. -/
theorem message_one (before after : String) (datum : Datum) (hbefore : '%' ∉ before.toList)
    (hafter : '%' ∉ after.toList) :
    message (before ++ "%s" ++ after) [datum] = .ok (before ++ datum.shown ++ after) := by
  have hlist : (before ++ "%s" ++ after).toList =
      before.toList ++ '%' :: 's' :: after.toList := by
    simp [String.toList_append]
  unfold message messageBy fill
  rw [hlist, fill_step hbefore, fill_end hafter]
  rfl

/-- A template with two places. -/
theorem message_two (before between after : String) (first second : Datum)
    (hbefore : '%' ∉ before.toList) (hbetween : '%' ∉ between.toList)
    (hafter : '%' ∉ after.toList) :
    message (before ++ "%s" ++ between ++ "%s" ++ after) [first, second] =
      .ok (before ++ first.shown ++ between ++ second.shown ++ after) := by
  have hlist : (before ++ "%s" ++ between ++ "%s" ++ after).toList =
      before.toList ++ '%' :: 's' :: (between.toList ++ '%' :: 's' :: after.toList) := by
    simp [String.toList_append]
  unfold message messageBy fill
  rw [hlist, fill_step hbefore, fill_step hbetween, fill_end hafter]
  simp [Except.map, String.append_assoc]

/-- A template with three places. -/
theorem message_three (before between later after : String) (first second third : Datum)
    (hbefore : '%' ∉ before.toList) (hbetween : '%' ∉ between.toList)
    (hlater : '%' ∉ later.toList) (hafter : '%' ∉ after.toList) :
    message (before ++ "%s" ++ between ++ "%s" ++ later ++ "%s" ++ after) [first, second, third] =
      .ok (before ++ first.shown ++ between ++ second.shown ++ later ++ third.shown ++ after) := by
  have hlist : (before ++ "%s" ++ between ++ "%s" ++ later ++ "%s" ++ after).toList =
      before.toList ++ '%' :: 's' :: (between.toList ++ '%' :: 's' ::
        (later.toList ++ '%' :: 's' :: after.toList)) := by
    simp [String.toList_append]
  unfold message messageBy fill
  rw [hlist, fill_step hbefore, fill_step hbetween, fill_step hlater, fill_end hafter]
  simp [Except.map, String.append_assoc]

end Template

/-! ## The messages -/

namespace Violation

/-- The message. -/
def message : Violation → String
  | wrongCommentStyle construct =>
    "You must use \"/**\" style comments for a " ++ construct ++ " comment"
  | missingDocComment construct => "Missing " ++ construct ++ " doc comment"
  | missingShortDescription construct =>
    "Missing short description in " ++ construct ++ " doc comment"
  | spacingBeforeComment => "File comment must be right below the open tag"
  | spacingAfterComment => "There must be exactly one blank line after the file comment"
  | spacingBeforeShort => "Doc comment short description must be on the first line"
  | shortSingleLine => "Class comment short description must be on a single line"
  | shortNotCapital => "Doc comment short description must start with a capital letter"
  | missingShortFullStop => "Short description must end with a full stop"
  | spacingBetweenDescriptions =>
    "There must be exactly one blank line between descriptions in a doc comment"
  | longNotCapital => "Doc comment long description must start with a capital letter"
  | missingLongFullStop => "Long description must end with a full stop"
  | spacingBeforeTags => "There must be exactly one blank line before the tags in a doc comment"
  | spacingBeforeFirstParam =>
    "There must be exactly one blank line before the first param tag in a doc comment"
  | closeTagOwnLine => "The close comment tag must be the only content on the line"
  | spacingBeforeClose => "Additional blank lines found at end of doc comment"
  | spacingAfter construct => "There must be no blank lines after the " ++ construct ++ " comment"
  | tagNotAllowed tagName => tagName ++ " tag is not allowed in class comment"
  | duplicateTag tagName construct =>
    "Only one " ++ tagName ++ " tag is allowed in a " ++ construct ++ " comment"
  | emptyTag tagName construct =>
    "Content missing for " ++ tagName ++ " tag in " ++ construct ++ " comment"
  | missingTag tagName construct => "Missing " ++ tagName ++ " tag in " ++ construct ++ " comment"
  | tagOrder place tagName =>
    "The tag in position " ++ toString place ++ " should be the " ++ tagName ++ " tag"
  | incorrectCopyright startYear currentYear? holder =>
    "Expected \"" ++ toString startYear ++ "-" ++ (yearDatum currentYear?).shown ++ " " ++ holder ++
      "\" for copyright declaration"
  | incompleteLicense => "@license tag must contain a URL and a license name"
  | emptySees => "Content missing for @see tag in function comment"
  | duplicateReturn => "Only 1 @return tag is allowed in a function comment"
  | missingReturnType => "Return type missing for @return tag in function comment"
  | invalidThrows => "Exception type and comment missing for @throws tag in function comment"
  | emptyThrows => "Comment missing for @throws tag in function comment"
  | throwsNotCapital => "@throws comment must start with a capital letter"
  | throwsMissingFullStop => "@throws comment must end with a full stop"
  | missingParamType => "Missing parameter type"
  | missingParamName => "Missing parameter name"
  | spacingAfterParamType expected actual =>
    "Expected " ++ toString expected ++ " spaces after parameter type; " ++ toString actual ++
      " found"
  | spacingAfterParamName expected actual =>
    "Expected " ++ toString expected ++ " spaces after parameter name; " ++ toString actual ++
      " found"
  | paramNameNoCaseMatch documented declared =>
    "Doc comment for parameter " ++ documented ++ " does not match case of actual variable name " ++
      declared
  | paramNameNoMatch documented declared =>
    "Doc comment for parameter " ++ documented ++ " does not match actual variable name " ++
      declared
  | extraParamComment => "Superfluous parameter comment"
  | missingParamTag declared => "Doc comment for parameter \"" ++ declared ++ "\" missing"

/-- **The template of every violation fits its values,** and filled with them it is the message. -/
theorem message_template (violation : Violation) :
    Template.message violation.template violation.data = .ok violation.message := by
  cases violation with
  | wrongCommentStyle construct =>
    exact Template.message_one "You must use \"/**\" style comments for a " " comment"
      (.text construct) (by decide) (by decide)
  | missingDocComment construct =>
    exact Template.message_one "Missing " " doc comment" (.text construct) (by decide) (by decide)
  | missingShortDescription construct =>
    exact Template.message_one "Missing short description in " " doc comment" (.text construct)
      (by decide) (by decide)
  | spacingAfter construct =>
    exact Template.message_one "There must be no blank lines after the " " comment"
      (.text construct) (by decide) (by decide)
  | tagNotAllowed tagName =>
    have hfilled := Template.message_one "" " tag is not allowed in class comment" (.text tagName)
      (by decide) (by decide)
    rwa [String.empty_append] at hfilled
  | duplicateTag tagName construct =>
    exact Template.message_two "Only one " " tag is allowed in a " " comment" (.text tagName)
      (.text construct) (by decide) (by decide) (by decide)
  | emptyTag tagName construct =>
    exact Template.message_two "Content missing for " " tag in " " comment" (.text tagName)
      (.text construct) (by decide) (by decide) (by decide)
  | missingTag tagName construct =>
    exact Template.message_two "Missing " " tag in " " comment" (.text tagName) (.text construct)
      (by decide) (by decide) (by decide)
  | tagOrder place tagName =>
    exact Template.message_two "The tag in position " " should be the " " tag" (.number place)
      (.text tagName) (by decide) (by decide) (by decide)
  | incorrectCopyright startYear currentYear? holder =>
    exact Template.message_three "Expected \"" "-" " " "\" for copyright declaration"
      (.number startYear) (yearDatum currentYear?) (.text holder) (by decide) (by decide)
      (by decide) (by decide)
  | spacingAfterParamType expected actual =>
    exact Template.message_two "Expected " " spaces after parameter type; " " found"
      (.number expected) (.number actual) (by decide) (by decide) (by decide)
  | spacingAfterParamName expected actual =>
    exact Template.message_two "Expected " " spaces after parameter name; " " found"
      (.number expected) (.number actual) (by decide) (by decide) (by decide)
  | paramNameNoCaseMatch documented declared =>
    have hfilled := Template.message_two "Doc comment for parameter "
      " does not match case of actual variable name " "" (.text documented) (.text declared)
      (by decide) (by decide) (by decide)
    rwa [String.append_empty, String.append_empty] at hfilled
  | paramNameNoMatch documented declared =>
    have hfilled := Template.message_two "Doc comment for parameter "
      " does not match actual variable name " "" (.text documented) (.text declared)
      (by decide) (by decide) (by decide)
    rwa [String.append_empty, String.append_empty] at hfilled
  | missingParamTag declared =>
    exact Template.message_one "Doc comment for parameter \"" "\" missing" (.text declared)
      (by decide) (by decide)
  | _ => rfl

/-- The diagnostic of a violation at a position on a line. -/
def diagnostic (violation : Violation) (origin : String) (position line : Int)
    (edit? : Option Edit) : Diagnostic :=
  ⟨violation.severity, violation.code, violation.message, position, line, origin, violation.data,
    edit?⟩

/-- The notice of a violation becomes a diagnostic where there is a line. -/
theorem diagnostic_notice (violation : Violation) (origin : String) (position : Int)
    (edit? : Option Edit) (source : Source) :
    (violation.notice origin position edit?).diagnostic source =
      (source.line position).map fun line => violation.diagnostic origin position line edit? := by
  have hmessage : Template.messageBy Template.fill violation.template violation.data =
      .ok violation.message := violation.message_template
  simp only [Notice.diagnostic, Notice.diagnosticBy, notice, hmessage]
  cases source.line position <;> rfl

end Violation

/-! ## Reporting -/

namespace Site

/-- Reporting a violation looks a line up and can fail in no other way. -/
theorem blame_eq (site : Site) (position : Int) (violation : Violation) (edit? : Option Edit) :
    site.blame position violation edit? =
      match site.source.line position with
      | .ok line => .found (violation.diagnostic site.origin position line edit?)
      | .error fault => .fail fault := by
  unfold blame
  rw [Check.post_eq, violation.diagnostic_notice]
  cases site.source.line position <;> rfl

end Site

end DocLint

import DocLint.Text.Blank

/-!
# Whole numbers in texts

A plain numeral is a minus sign or none and then digits, the first of which is zero only for the
number zero. A text that is no plain numeral is tidied and read once more: blanks around it, a plus
sign, needless zeros, a fraction of zeros and single underscores between digits are dropped.

Only a numeral that is plain from the start is refused for its length. Where tidying comes first,
an overlong numeral counts as no numeral at all.
-/

namespace DocLint.Text

/-- Why a text does not spell a whole number. -/
inductive NumeralFault where
  /-- The text starts as a plain numeral with more digits than are read. -/
  | tooLong
  /-- The text is not a numeral. -/
  | malformed
  deriving DecidableEq

/-- The number of digits that a plain numeral may have. -/
def mostDigits : Nat := 4300

/-- The number that a list of digits spells. -/
def valueOfDigits (digits : List Char) : Nat :=
  digits.foldl (fun value c => 10 * value + (c.toNat - '0'.toNat)) 0

/-- Reads a plain numeral without a sign. The number of the digits is looked at before what
follows them. -/
def readPlainDigits (text : List Char) : Except NumeralFault Nat :=
  let digits := text.takeWhile Char.isDigit
  if text = ['0'] then .ok 0
  else if digits.isEmpty || text.head? = some '0' then .error .malformed
  else if mostDigits < digits.length then .error .tooLong
  else if text.all Char.isDigit then .ok (valueOfDigits digits)
  else .error .malformed

/-- Reads a plain numeral. -/
def readPlainNumeral : List Char → Except NumeralFault Int
  | '-' :: digits => (readPlainDigits digits).map fun value => -(value : Int)
  | digits => (readPlainDigits digits).map Int.ofNat

/-! ## Tidying -/

/-- Whether a character may stand around a numeral. The information separators may not, though
they are blank elsewhere. -/
def isNumeralMargin (c : Char) : Bool :=
  isBlank c && !(0x1C ≤ c.toNat && c.toNat ≤ 0x1F)

/-- The text after zeros and underscores, of which `last` is the latest. That one is kept if nothing
but a fraction is left, since a number needs a digit before its point. A minus sign may follow the
zeros; any other character that is no digit spoils the numeral. -/
def afterZeros? (last : Char) : List Char → Option (List Char)
  | [] => some [last]
  | c :: rest =>
    if c = '0' || c = '_' then afterZeros? c rest
    else if c.isDigit || c = '-' then some (c :: rest)
    else if c = '.' then some (last :: c :: rest)
    else none

/-- The text without the zeros before its first other digit; it has to start with a digit. -/
def withoutLeadingZeros? : List Char → Option (List Char)
  | [] => none
  | c :: rest =>
    if c = '0' then afterZeros? c rest
    else if c.isDigit then some (c :: rest)
    else none

/-- The text without a point and the zeros after it, if there are any and nothing else. -/
def withoutZeroFraction (text : List Char) : List Char :=
  match text.dropWhile (· != '.') with
  | _ :: '0' :: zeros =>
    if zeros.all (· == '0') then text.takeWhile (· != '.') else text
  | _ => text

/-- Whether two underscores stand side by side. -/
def hasDoubleUnderscore : List Char → Bool
  | c :: d :: rest => (c == '_' && d == '_') || hasDoubleUnderscore (d :: rest)
  | _ => false

/-- The text without its underscores, if none stands at an end or next to another one. -/
def withoutUnderscores (text : List Char) : List Char :=
  if text.head? = some '_' || text.getLast? = some '_' || hasDoubleUnderscore text then text
  else text.filter (· != '_')

/-- The text of a number without its sign, tidied. -/
def tidied? (text : List Char) : Option (List Char) :=
  (withoutLeadingZeros? text).map fun rest => withoutUnderscores (withoutZeroFraction rest)

/-- The text of a number, tidied: the plain numeral that it stands for, if it stands for one. -/
def tidiedNumeral? (text : List Char) : Option (List Char) :=
  match trim isNumeralMargin text with
  | '+' :: rest => tidied? rest
  | '-' :: rest => (tidied? rest).map ('-' :: ·)
  | rest => tidied? rest

/-! ## Reading -/

/-- Reads a text that is no plain numeral after tidying it. -/
def readTidied (text : List Char) : Except NumeralFault Int :=
  match (tidiedNumeral? text).map readPlainNumeral with
  | some (.ok value) => .ok value
  | _ => .error .malformed

/-- The whole number that a text spells. -/
def readNumeral (text : String) : Except NumeralFault Int :=
  match readPlainNumeral text.toList with
  | .error .malformed => readTidied text.toList
  | outcome => outcome

end DocLint.Text

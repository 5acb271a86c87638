/-!
# Untyped configuration data

A configuration arrives as untyped data: the value of a document in some data format. Such a
format tells whole numbers, which are exact, from measured ones, which are written with a point or
an exponent and kept to a limited precision. Of a measured number only its whole value matters.
-/

namespace DocLint

/-- A number that is kept to a limited precision. -/
inductive Measure where
  /-- No finite number. -/
  | boundless
  /-- A number with a fraction. -/
  | fraction
  /-- A number without a fraction. -/
  | whole (value : Int)

/-- A value of untyped data. -/
inductive Value where
  /-- The absent value. -/
  | null
  /-- A truth value. -/
  | bool (value : Bool)
  /-- A whole number. -/
  | integer (value : Int)
  /-- A measured number. -/
  | measure (value : Measure)
  /-- A text. -/
  | text (value : String)
  /-- A list of values. -/
  | list (items : List Value)
  /-- Named values. -/
  | object (fields : List (String × Value))

/-- Named values, as an object holds them. -/
abbrev Fields := List (String × Value)

end DocLint

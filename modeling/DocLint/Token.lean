import DocLint.Kind

/-!
# Tokens

A token is a piece of source text with its kind and line. Delimiters know their partner, and the
opener of a doc comment knows where the comment's tags stand. These references come with the
tokens and are not checked here: a position may be negative, too large, or plainly wrong.
-/

namespace DocLint

/-- A piece of source text. -/
structure Token where
  /-- The sort of token. -/
  kind : Kind
  /-- The text of the token. -/
  content : String
  /-- The line on which the token starts. -/
  line : Int
  /-- Where the matching opening delimiter stands. -/
  opener? : Option Int
  /-- Where the matching closing delimiter stands. -/
  closer? : Option Int
  /-- On the opener of a doc comment, where the tags of that comment stand. -/
  tagPositions : List Int
  deriving DecidableEq

/-- A token at its position. -/
structure Slot where
  /-- Where the token stands. -/
  position : Int
  /-- The token. -/
  token : Token
  deriving DecidableEq

/-- The kind of the token in a slot. -/
abbrev Slot.kind (slot : Slot) : Kind := slot.token.kind

/-- The text of the token in a slot. -/
abbrev Slot.content (slot : Slot) : String := slot.token.content

/-- The line of the token in a slot. -/
abbrev Slot.line (slot : Slot) : Int := slot.token.line

end DocLint

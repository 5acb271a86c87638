import DocLint.Fault
import DocLint.Token

/-!
# Source files as token sequences

A source file is the sequence of its tokens. This module looks tokens up, searches forward and
backward by kind, and takes stretches of tokens.

A position counts from the front when it is not negative and from the back when it is, so that `-1`
is the last token. Searches do not wrap around: they cut their bounds to the positions that exist.
-/

namespace DocLint

/-- The place from the front, among `size` places, of a position that may count from the back. -/
def resolve? (size : Nat) (position : Int) : Option Nat :=
  if 0 ≤ position then
    if position < size then some position.toNat else none
  else if -(size : Int) ≤ position then some (position + size).toNat
  else none

/-- The tokens of one source file. -/
structure Source where
  /-- The tokens in order. -/
  tokens : Array Token

namespace Source

/-- The number of tokens. -/
def size (source : Source) : Nat :=
  source.tokens.size

/-- The token at a position. -/
def token? (source : Source) (position : Int) : Option Token :=
  (resolve? source.size position).bind fun index => source.tokens[index]?

/-- The token at a position, or a fault. -/
def get (source : Source) (position : Int) : Except Fault Token :=
  match source.token? position with
  | some token => .ok token
  | none => .error (.outOfRange position)

/-- The line of the token at a position. -/
def line (source : Source) (position : Int) : Except Fault Int :=
  (source.get position).map Token.line

/-- The token at a place from the front, with its position. -/
def slot? (source : Source) (index : Nat) : Option Slot :=
  source.tokens[index]?.map fun token => ⟨index, token⟩

/-- All tokens with their positions. -/
def slots (source : Source) : List Slot :=
  source.tokens.toList.mapIdx fun index token => ⟨index, token⟩

/-! ## Searching -/

/-- Whether the token at a place from the front is of a wanted kind. -/
def matchesAt (source : Source) (wanted : Kind → Bool) (index : Nat) : Bool :=
  match source.tokens[index]? with
  | some token => wanted token.kind
  | none => false

/-- The first place from `start` on, and before `stop?`, of a token of a wanted kind. -/
def nextIndex? (source : Source) (wanted : Kind → Bool) (start : Int) (stop? : Option Int) :
    Option Nat :=
  let low := start.toNat
  let high := (min (stop?.getD source.size) source.size).toNat
  (List.range' low (high - low)).find? (source.matchesAt wanted)

/-- The last place from `stop?` on, and up to `start`, of a token of a wanted kind. -/
def prevIndex? (source : Source) (wanted : Kind → Bool) (start : Int) (stop? : Option Int) :
    Option Nat :=
  let low := (stop?.getD 0).toNat
  let high := (min (start + 1) source.size).toNat
  (List.range' low (high - low)).reverse.find? (source.matchesAt wanted)

/-- Searches forward from `start` for a token of a wanted kind, ending before `stop?`. -/
def next? (source : Source) (wanted : Kind → Bool) (start : Int) (stop? : Option Int) :
    Option Slot :=
  (source.nextIndex? wanted start stop?).bind source.slot?

/-- Searches backward from `start` for a token of a wanted kind, ending with `stop?`. -/
def prev? (source : Source) (wanted : Kind → Bool) (start : Int) (stop? : Option Int) :
    Option Slot :=
  (source.prevIndex? wanted start stop?).bind source.slot?

/-! ## Stretches -/

/-- Consecutive tokens, as far as they exist. -/
structure Stretch where
  /-- The tokens that exist. -/
  slots : List Slot
  /-- The first position at which there is none, if the stretch reaches one. -/
  missing? : Option Int

/-- The `count` tokens from a position on. -/
def stretchFrom (source : Source) : (count : Nat) → (position : Int) → Stretch
  | 0, _ => ⟨[], none⟩
  | count + 1, position =>
    match source.token? position with
    | none => ⟨[], some position⟩
    | some token =>
      let rest := source.stretchFrom count (position + 1)
      ⟨⟨position, token⟩ :: rest.slots, rest.missing?⟩

/-- The tokens from `start` on and before `stop`. -/
def stretch (source : Source) (start stop : Int) : Stretch :=
  source.stretchFrom (stop - start).toNat start

/-! ## Text -/

/-- The texts of tokens, one after the other. -/
def textOf (tokens : List Token) : String :=
  String.join (tokens.map Token.content)

/-- The source text. -/
def render (source : Source) : String :=
  textOf source.tokens.toList

/-- A bound of a piece of the source: counted from the back when negative, and cut to the tokens
that exist. -/
def bound (source : Source) (position : Int) : Nat :=
  if position < 0 then (position + source.size).toNat else min position.toNat source.size

/-- The text from one bound to another. -/
def text (source : Source) (start stop : Int) : String :=
  textOf ((source.tokens.toList.take (source.bound stop)).drop (source.bound start))

/-! ## Delimiters -/

/-- The position of the partner of the delimiter at a position. -/
def partner (source : Source) (position : Int) : Except Fault Int := do
  let token ← source.get position
  match token.closer? <|> token.opener? with
  | some partner => return partner
  | none => throw (.unmatchedDelimiter token.kind position)

end Source

end DocLint

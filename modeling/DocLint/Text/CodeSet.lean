/-!
# Sets and maps of characters, by runs of code points

Character properties are given by tables. A table is a list of runs in ascending order, and a run
holds every `stride`-th code point from its first to its last. Capitals and small letters of one
alphabet often alternate, so a stride of two keeps the tables short.

A look-up stops at the first run that reaches the code point. It is therefore settled after one or
two steps for a character at the start of the table, whatever the table's length.
-/

namespace DocLint.Text

/-- The code points `first`, `first + stride`, and so on up to `last`. -/
structure CodeRun where
  /-- The least code point of the run. -/
  first : Nat
  /-- The greatest code point of the run. -/
  last : Nat
  /-- The distance of neighbours in the run. -/
  stride : Nat

/-- Whether a code point between the ends of the run lies on its stride. -/
def CodeRun.hits (run : CodeRun) (code : Nat) : Bool :=
  (code - run.first) % run.stride == 0

/-- A set of characters: runs in ascending order that do not overlap. -/
abbrev CodeSet := List CodeRun

/-- Membership in a set of characters. -/
def CodeSet.holds (code : Nat) : CodeSet → Bool
  | [] => false
  | run :: runs =>
    if code < run.first then false
    else if code ≤ run.last then run.hits code
    else CodeSet.holds code runs

/-- Whether the character belongs to the set. -/
def CodeSet.contains (set : CodeSet) (c : Char) : Bool :=
  set.holds c.toNat

/-- A run of code points with their images: each code point keeps its distance from the first. -/
structure CodeShift where
  /-- The code points that are mapped. -/
  run : CodeRun
  /-- The image of the first one. -/
  image : Nat

/-- A map of characters: runs in ascending order that do not overlap. -/
abbrev CodeMap := List CodeShift

/-- The image of a code point, if the map moves it. -/
def CodeMap.image? (code : Nat) : CodeMap → Option Nat
  | [] => none
  | shift :: shifts =>
    if code < shift.run.first then none
    else if code ≤ shift.run.last then
      if shift.run.hits code then some (shift.image + (code - shift.run.first)) else none
    else CodeMap.image? code shifts

/-- The image of a character; a character that the map does not move is its own image. -/
def CodeMap.apply (map : CodeMap) (c : Char) : Char :=
  match map.image? c.toNat with
  | some code => Char.ofNat code
  | none => c

end DocLint.Text

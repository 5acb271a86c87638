import DocLint.Text.CodeSet

/-!
# Blank characters

Fields of a comment are set apart by blanks: spaces of every width, tabs, line ends, and the four
information separators. A zero-width space is not blank.
-/

namespace DocLint.Text

/-- The blank characters. -/
def blanks : CodeSet :=
  [⟨0x9, 0xD, 1⟩, ⟨0x1C, 0x20, 1⟩, ⟨0x85, 0x85, 1⟩, ⟨0xA0, 0xA0, 1⟩, ⟨0x1680, 0x1680, 1⟩,
   ⟨0x2000, 0x200A, 1⟩, ⟨0x2028, 0x2029, 1⟩, ⟨0x202F, 0x202F, 1⟩, ⟨0x205F, 0x205F, 1⟩,
   ⟨0x3000, 0x3000, 1⟩]

/-- Whether a character is blank. -/
def isBlank (c : Char) : Bool :=
  blanks.contains c

/-- Whether a character shows ink. -/
def isInk (c : Char) : Bool :=
  !isBlank c

/-- A text without the characters of a class at its two ends. -/
def trim (inClass : Char → Bool) (text : List Char) : List Char :=
  ((text.dropWhile inClass).reverse.dropWhile inClass).reverse

/-- A text without the blanks at its two ends. -/
def strip (text : List Char) : List Char :=
  trim isBlank text

end DocLint.Text

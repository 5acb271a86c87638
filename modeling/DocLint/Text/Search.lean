/-!
# Finding a word in a text
-/

namespace DocLint.Text

/-- Whether `word` occurs in `text` as a contiguous piece. -/
def occursIn (word : List Char) : List Char → Bool
  | [] => word.isEmpty
  | c :: rest => word.isPrefixOf (c :: rest) || occursIn word rest

/-- Whether a text ends with another one. -/
def endsWith (text ending : String) : Bool :=
  ending.toList.isSuffixOf text.toList

/-- Whether a text ends with a full stop. -/
def endsWithFullStop (text : String) : Bool :=
  endsWith text "."

end DocLint.Text

/-!
# Kinds of tokens

The closed list of token kinds, with the names under which a tokenizer delivers them and the
classes of kinds that the checks ask for.
-/

namespace DocLint

/-- What sort of token a piece of source text is. -/
inductive Kind where
  | openTag
  | closeTag
  | whitespace
  | comment
  | docOpen
  | docClose
  | docStar
  | docWhitespace
  | docString
  | docTag
  | function
  | closure
  | classKeyword
  | interface
  | trait
  | publicKeyword
  | protectedKeyword
  | privateKeyword
  | staticKeyword
  | abstractKeyword
  | finalKeyword
  | identifier
  | variableName
  | openParenthesis
  | closeParenthesis
  | openCurly
  | closeCurly
  | openSquare
  | closeSquare
  | comma
  | semicolon
  | equal
  | ampersand
  | ellipsis
  | quotedText
  | number
  | other
  deriving DecidableEq

namespace Kind

/-- All kinds. -/
def all : List Kind :=
  [openTag, closeTag, whitespace, comment, docOpen, docClose, docStar, docWhitespace, docString,
   docTag, function, closure, classKeyword, interface, trait, publicKeyword, protectedKeyword,
   privateKeyword, staticKeyword, abstractKeyword, finalKeyword, identifier, variableName,
   openParenthesis, closeParenthesis, openCurly, closeCurly, openSquare, closeSquare, comma,
   semicolon, equal, ampersand, ellipsis, quotedText, number, other]

/-- The list of all kinds leaves none out. -/
theorem mem_all (kind : Kind) : kind ∈ all := by
  cases kind <;> decide

/-- The name of a kind in a token listing. -/
def name : Kind → String
  | openTag => "open_tag"
  | closeTag => "close_tag"
  | whitespace => "whitespace"
  | comment => "comment"
  | docOpen => "doc_comment_open_tag"
  | docClose => "doc_comment_close_tag"
  | docStar => "doc_comment_star"
  | docWhitespace => "doc_comment_whitespace"
  | docString => "doc_comment_string"
  | docTag => "doc_comment_tag"
  | function => "function"
  | closure => "closure"
  | classKeyword => "class"
  | interface => "interface"
  | trait => "trait"
  | publicKeyword => "public"
  | protectedKeyword => "protected"
  | privateKeyword => "private"
  | staticKeyword => "static"
  | abstractKeyword => "abstract"
  | finalKeyword => "final"
  | identifier => "string"
  | variableName => "variable"
  | openParenthesis => "open_parenthesis"
  | closeParenthesis => "close_parenthesis"
  | openCurly => "open_curly_bracket"
  | closeCurly => "close_curly_bracket"
  | openSquare => "open_square_bracket"
  | closeSquare => "close_square_bracket"
  | comma => "comma"
  | semicolon => "semicolon"
  | equal => "equal"
  | ampersand => "bitwise_and"
  | ellipsis => "ellipsis"
  | quotedText => "constant_encapsed_string"
  | number => "lnumber"
  | other => "other"

/-- The kind with a given name. -/
def ofName? (name : String) : Option Kind :=
  all.find? fun kind => kind.name == name

/-- The name of a kind inside a message, in capitals. -/
def label (kind : Kind) : String :=
  String.ofList (kind.name.toList.map Char.toUpper)

/-- Keywords that may stand between a doc comment and the function it documents. -/
def isModifier : Kind → Bool
  | publicKeyword | protectedKeyword | privateKeyword => true
  | staticKeyword | abstractKeyword | finalKeyword => true
  | _ => false

/-- What lies between a declaration and its comment: modifiers and white space. -/
def isLeadIn (kind : Kind) : Bool :=
  kind.isModifier || kind == whitespace

/-- Layout inside a doc comment that carries no text. -/
def isFiller : Kind → Bool
  | docWhitespace | docStar => true
  | _ => false

/-- Brackets that open a group. -/
def isBracketOpener : Kind → Bool
  | openParenthesis | openSquare | openCurly => true
  | _ => false

end Kind

end DocLint

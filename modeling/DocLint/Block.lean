import DocLint.Source
import DocLint.Text.Case
import DocLint.Text.Search

/-!
# The parts of a doc comment

A doc comment opens with descriptions and goes on with tags. A description is a run of text lines
without a gap. The first run is the short description and the next one, if it comes before the
first tag, the long description.

A tag owns the text up to the next tag or the end of the comment. Its first text is its inline text
if it stands on the tag's own line; every other text continues the tag on later lines.

The tags' positions come with the opener of the comment and are taken as they are. A walk over the
comment that leaves the source is a fault.
-/

namespace DocLint

/-- A description: text tokens on consecutive lines. -/
structure Span where
  /-- The first line of text. -/
  first : Slot
  /-- The lines after it. -/
  more : List Slot

namespace Span

/-- The text tokens of a description. -/
def slots (span : Span) : List Slot :=
  span.first :: span.more

/-- The last line of text. -/
def last (span : Span) : Slot :=
  span.more.getLastD span.first

/-- The texts of the lines. -/
def lines (span : Span) : List String :=
  span.slots.map Slot.content

/-- Whether the description has one line only. -/
def isSingleLine (span : Span) : Bool :=
  span.more.isEmpty

end Span

/-- How far a description goes on. -/
structure SpanTail where
  /-- The further lines of the description. -/
  slots : List Slot
  /-- Whether a tag or a gap in the lines ended it. -/
  ended : Bool

/-- The further lines of a description whose last line so far is `line`. -/
def SpanTail.after (line : Int) : List Slot → SpanTail
  | [] => ⟨[], false⟩
  | slot :: rest =>
    match slot.kind with
    | .docTag => ⟨[], true⟩
    | .docString =>
      if slot.line = line + 1 then
        let tail := SpanTail.after slot.line rest
        ⟨slot :: tail.slots, tail.ended⟩
      else ⟨[], true⟩
    | _ => SpanTail.after line rest

/-- The description that begins with a text token, inside a comment that ends at `closer`. -/
def Span.read (source : Source) (first : Slot) (closer : Int) : Except Fault Span :=
  let stretch := source.stretch (first.position + 1) closer
  let tail := SpanTail.after first.line stretch.slots
  match tail.ended, stretch.missing? with
  | false, some position => .error (.outOfRange position)
  | _, _ => .ok ⟨first, tail.slots⟩

/-- A text on the line of its tag. -/
structure Inline where
  /-- Where the text stands. -/
  position : Int
  /-- The text. -/
  text : String
  deriving DecidableEq

/-- A tag with the texts that belong to it. -/
structure Tag where
  /-- The name of the tag, with its at sign. -/
  name : String
  /-- Where the tag stands. -/
  position : Int
  /-- The line of the tag. -/
  line : Int
  /-- Where the next tag or the end of the comment stands. -/
  stop : Int
  /-- The text on the tag's own line. -/
  inline? : Option Inline
  /-- The texts on later lines. -/
  continuation : List String
  deriving DecidableEq

namespace Tag

/-- The text on the tag's own line, empty if there is none. -/
def inlineText (tag : Tag) : String :=
  match tag.inline? with
  | some inline => inline.text
  | none => ""

/-- All texts of the tag in one line, set apart by single spaces. -/
def fullText (tag : Tag) : String :=
  " ".intercalate ((tag.inlineText :: tag.continuation).filter fun text => !text.isEmpty)

/-- A tag with the text tokens that follow it. -/
def ofTexts (token : Token) (position stop : Int) : List Slot → Tag
  | [] => ⟨token.content, position, token.line, stop, none, []⟩
  | first :: rest =>
    if first.line = token.line then
      ⟨token.content, position, token.line, stop, some ⟨first.position, first.content⟩,
        rest.map Slot.content⟩
    else
      ⟨token.content, position, token.line, stop, none, (first :: rest).map Slot.content⟩

/-- The tag at a position, with the texts before `stop`. -/
def read (source : Source) (position stop : Int) : Except Fault Tag := do
  let token ← source.get position
  let stretch := source.stretch (position + 1) stop
  match stretch.missing? with
  | some missing => throw (.outOfRange missing)
  | none =>
    return ofTexts token position stop (stretch.slots.filter fun slot => slot.kind == .docString)

/-- The tags at the given positions, inside a comment that ends at `closer`. -/
def readAll (source : Source) (positions : List Int) (closer : Int) : Except Fault (List Tag) :=
  (positions.zip (positions.tail ++ [closer])).mapM fun (position, stop) =>
    read source position stop

end Tag

/-- A doc comment in its parts. -/
structure Block where
  /-- Where the comment begins. -/
  opener : Int
  /-- Where the comment ends. -/
  closer : Int
  /-- The first token that is not mere layout. -/
  firstContent? : Option Slot
  /-- The short description. -/
  short? : Option Span
  /-- The long description. -/
  long? : Option Span
  /-- The tags in order. -/
  tags : List Tag
  /-- The raw text between the two ends. -/
  text : String

namespace Block

/-- The text that stands for an inherited comment. -/
def inheritMarker : List Char :=
  "\x7b@inheritdoc\x7d".toList

/-- Whether the comment says that it is inherited. -/
def inheritsDoc (block : Block) : Bool :=
  Text.occursIn inheritMarker (Text.toSmall block.text).toList

/-- The tags of a name, in order. -/
def tagsNamed (block : Block) (name : String) : List Tag :=
  block.tags.filter fun tag => tag.name == name

/-- The first token from a position on, and before `closer`, that is not mere layout. -/
def content? (source : Source) (start closer : Int) : Option Slot :=
  source.next? (fun kind => !kind.isFiller) start (some closer)

/-- The description that begins with the given token, if that is a text. -/
def description? (source : Source) (first? : Option Slot) (closer : Int) :
    Except Fault (Option Span) :=
  match first? with
  | none => .ok none
  | some first =>
    if first.kind = .docString then some <$> Span.read source first closer else .ok none

/-- The long description after a short one. -/
def longDescription? (source : Source) (short? : Option Span) (closer : Int) :
    Except Fault (Option Span) :=
  match short? with
  | none => .ok none
  | some short =>
    description? source (content? source (short.last.position + 1) closer) closer

/-- The doc comment that begins at `opener`, taken apart. -/
def read (source : Source) (opener : Int) : Except Fault Block := do
  let token ← source.get opener
  match token.kind, token.closer? with
  | .docOpen, some closer =>
    let first? := content? source (opener + 1) closer
    let short? ← description? source first? closer
    let long? ← longDescription? source short? closer
    let tags ← Tag.readAll source token.tagPositions closer
    return ⟨opener, closer, first?, short?, long?, tags, source.text (opener + 1) closer⟩
  | _, _ => throw (.noDocComment opener)

end Block

end DocLint

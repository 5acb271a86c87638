import DocLint.Source

/-!
# Which comment documents a declaration

Three things are documented: the file, at its first open tag; a class or interface; a function.
Which comment belongs to them is decided by what stands nearby, not by a grammar.

* A file comment follows the first open tag.
* A function comment ends right before the function, modifiers and white space apart. An ordinary
  comment on the line of the code before it belongs to that code.
* A class comment ends right before the class in the same way. But a comment that directly follows
  the first open tag of the file is the file comment, even when a class comes next.
-/

namespace DocLint

/-- What a doc comment can document. -/
inductive Subject where
  /-- The whole file. -/
  | file
  /-- A class or an interface. -/
  | classLike
  /-- A function or a method. -/
  | function
  deriving DecidableEq

/-- What the token of a kind declares. -/
def Subject.ofKind? : Kind → Option Subject
  | .openTag => some .file
  | .classKeyword => some .classLike
  | .interface => some .classLike
  | .function => some .function
  | _ => none

/-- The comment found for a declaration. -/
inductive Placement where
  /-- There is no comment. -/
  | absent
  /-- An ordinary comment begins at `start` where the file comment should. -/
  | ordinaryBelow (start : Int)
  /-- An ordinary comment ends at `stop` where the doc comment should. -/
  | ordinaryAbove (stop : Int)
  /-- The comment before a class is ordinary, and it stands where the file comment should. -/
  | ordinaryOfFile
  /-- A doc comment documents `subject`. -/
  | doc (subject : Subject) (opener closer : Int)
  deriving DecidableEq

/-- What a comment is taken to document, in one word. -/
inductive Owner where
  /-- A subject. -/
  | subject (subject : Subject)
  /-- Nothing: there is no comment. -/
  | nobody
  /-- Nothing yet: an ordinary comment stands in the place of a doc comment. -/
  | ordinary
  deriving DecidableEq

namespace Owner

/-- All owners. -/
def all : List Owner :=
  [subject .file, subject .classLike, subject .function, nobody, ordinary]

/-- The name of an owner in listings. -/
def name : Owner → String
  | subject .file => "file"
  | subject .classLike => "class"
  | subject .function => "function"
  | nobody => "none"
  | ordinary => "legacy_style"

/-- The owner with a given name. -/
def ofName? (name : String) : Option Owner :=
  all.find? fun owner => owner.name == name

end Owner

namespace Placement

/-- What the comment documents. -/
def owner : Placement → Owner
  | absent => .nobody
  | ordinaryBelow _ => .ordinary
  | ordinaryAbove _ => .ordinary
  | ordinaryOfFile => .subject .file
  | doc subject _ _ => .subject subject

/-- Where the comment begins, if that is known. -/
def opener? : Placement → Option Int
  | ordinaryBelow start => some start
  | doc _ opener _ => some opener
  | _ => none

/-- Where the comment ends, if that is known. -/
def closer? : Placement → Option Int
  | ordinaryAbove stop => some stop
  | doc _ _ closer => some closer
  | _ => none

end Placement

/-- Where the doc comment that ends in a slot begins. -/
def Slot.docOpener (slot : Slot) : Except Fault Int :=
  match slot.token.opener? with
  | some opener => .ok opener
  | none => .error (.closerWithoutOpener slot.position)

/-- Where the doc comment that begins in a slot ends. -/
def Slot.docCloser (slot : Slot) : Except Fault Int :=
  match slot.token.closer? with
  | some closer => .ok closer
  | none => .error (.openerWithoutCloser slot.position)

namespace Source

/-- The nearest token before a position that is neither a modifier nor white space. -/
def beforeLeadIn? (source : Source) (position : Int) : Option Slot :=
  source.prev? (fun kind => !kind.isLeadIn) (position - 1) none

/-- The token that ends the comment of a function. An ordinary comment on the line of the token
before it is passed over, once. -/
def functionCommentEnd? (source : Source) (anchor : Int) : Option Slot :=
  match source.beforeLeadIn? anchor with
  | none => none
  | some last =>
    if last.kind = .comment then
      match source.beforeLeadIn? last.position with
      | none => some last
      | some before => if before.line = last.line then some before else some last
    else some last

/-- The comment of the function at `anchor`. -/
def locateFunction (source : Source) (anchor : Int) : Except Fault Placement :=
  match source.functionCommentEnd? anchor with
  | none => .ok .absent
  | some last =>
    match last.kind with
    | .comment => .ok (.ordinaryAbove last.position)
    | .docClose => do return .doc .function (← last.docOpener) last.position
    | _ => .ok .absent

/-- Whether only white space and the first open tag of the file stand up to a position. -/
def followsFirstOpenTag (source : Source) (position : Int) : Bool :=
  match source.prev? (fun kind => kind != .whitespace) position none with
  | none => false
  | some before =>
    before.kind = .openTag &&
      (source.prev? (fun kind => kind == .openTag) (before.position - 1) none).isNone

/-- The last position before a run of ordinary comments and white space that ends before
`position`; `-1` if the run reaches the front. -/
def beforeOrdinary (source : Source) (position : Int) : Int :=
  match source.prev? (fun kind => kind != .comment && kind != .whitespace) (position - 1) none with
  | none => -1
  | some slot => slot.position

/-- The comment of the class or interface at `anchor`. -/
def locateClass (source : Source) (anchor : Int) : Except Fault Placement :=
  match source.beforeLeadIn? anchor with
  | none => .ok .absent
  | some last =>
    match last.kind with
    | .docClose => do
      let opener ← last.docOpener
      if source.followsFirstOpenTag (opener - 1) then return .doc .file opener last.position
      else return .doc .classLike opener last.position
    | .comment =>
      if source.followsFirstOpenTag (source.beforeOrdinary last.position) then .ok .ordinaryOfFile
      else .ok (.ordinaryAbove last.position)
    | _ => .ok .absent

/-- The comment of the file whose open tag is at `anchor`. There is nothing to look for at a later
open tag, nor where a close tag comes next. -/
def locateFile (source : Source) (anchor : Int) : Except Fault (Option Placement) :=
  if (source.prev? (fun kind => kind == .openTag) (anchor - 1) none).isSome then .ok none
  else
    match source.next? (fun kind => kind != .whitespace) (anchor + 1) none with
    | none => .ok (some .absent)
    | some first =>
      match first.kind with
      | .closeTag => .ok none
      | .comment => .ok (some (.ordinaryBelow first.position))
      | .docOpen => do return some (.doc .file first.position (← first.docCloser))
      | _ => .ok (some .absent)

/-- The comment of the declaration at `anchor`, or nothing where no comment is expected. -/
def locate (source : Source) (anchor : Int) : Except Fault (Option Placement) := do
  let token ← source.get anchor
  match Subject.ofKind? token.kind with
  | none => throw (.notADeclaration token.kind anchor)
  | some .file => source.locateFile anchor
  | some .classLike => some <$> source.locateClass anchor
  | some .function => some <$> source.locateFunction anchor

end Source

end DocLint

import DocLint.Review

/-!
# Checkers

A checker names the kinds of tokens that it wants to see and checks the source at each of them. The
checker of this library is `DocChecker`, which finds the comment of a declaration and reviews it.

Checkers come in both ways of carrying checks out. One that works on a report may look at it; one
that works for itself is a function of the source and the position.
-/

namespace DocLint

/-- A check of single tokens. -/
structure Checker (m : Type → Type) where
  /-- The kinds of tokens that are checked. -/
  kinds : List Kind
  /-- The check of the token at a position. -/
  inspect : Source → Int → m Unit

/-- The family under which violations of a subject's rules are reported. -/
def Subject.origin : Subject → String
  | .file => "Docsniff.Commenting.FileComment"
  | .classLike => "Docsniff.Commenting.ClassComment"
  | .function => "Docsniff.Commenting.FunctionComment"

/-- Whether the comments of a subject are checked. -/
def Config.enables (config : Config) : Subject → Bool
  | .file => config.file.enabled
  | .classLike => config.classLike.enabled
  | .function => config.function.enabled

/-- Checks doc comments. -/
structure DocChecker (m : Type → Type) where
  /-- The configuration. -/
  config : Config
  /-- Supplies what functions declare. -/
  signatures : SignatureReader
  /-- The class of each character. -/
  letters : Char → Text.LetterClass
  /-- The checks of single tags of file comments. -/
  processors : Processors m

namespace DocChecker

variable {m : Type → Type}

/-- The checker of a configuration, with signatures from the tokens, the letters of the standard
and the built-in checks of tags. -/
def ofConfig [Monad m] [Reporting m] (config : Config) : DocChecker m :=
  ⟨config, .ofTokens, Text.letterClass, .builtIn⟩

/-- The kinds of tokens that declare a subject whose comments are checked. -/
def kinds (checker : DocChecker m) : List Kind :=
  Kind.all.filter fun kind => (Subject.ofKind? kind).any checker.config.enables

/-- The site of a declaration. -/
def site (checker : DocChecker m) (source : Source) (position : Int) (subject : Subject) : Site :=
  ⟨source, position, checker.config, checker.signatures, checker.letters, subject.origin⟩

/-- What a declaration is called in messages. -/
def construct (subject : Subject) (token : Token) : String :=
  match subject with
  | .file => "file"
  | _ => Text.toSmall token.content

/-- Where a comment that is missing is reported. -/
def missingPosition (subject : Subject) (source : Source) (position : Int) : Int :=
  match subject with
  | .file => Rule.belowOpenTag source position
  | _ => position

variable [Monad m] [Reporting m]

/-- Checks the comment that was found for the declaration at a position. -/
def inspectPlacement (checker : DocChecker m) (source : Source) (position : Int)
    (subject : Subject) (token : Token) (placement : Placement) : m Unit :=
  let site := checker.site source position subject
  let construct := construct subject token
  let missing := missingPosition subject source position
  match placement with
  | .ordinaryBelow _ => site.blame missing (.wrongCommentStyle construct) none
  | .ordinaryAbove _ => site.blame missing (.wrongCommentStyle construct) none
  | .absent => site.blame missing (.missingDocComment construct) none
  | .ordinaryOfFile => site.blame missing (.missingDocComment construct) none
  | .doc owner opener _ =>
    if owner = subject then do
      let block ← Check.ofExcept (Block.read source opener)
      subject.review site checker.processors block
    else site.blame missing (.missingDocComment construct) none

/-- Checks the comment of the declaration at a position. -/
def inspect (checker : DocChecker m) (source : Source) (position : Int) : m Unit := do
  let token ← Check.ofExcept (source.get position)
  let subject ← Check.require (Subject.ofKind? token.kind) (.uncheckedKind token.kind)
  let placement? ← Check.ofExcept (source.locate position)
  match placement? with
  | none => pure ()
  | some placement => checker.inspectPlacement source position subject token placement

/-- The checker of doc comments as a checker of tokens. -/
def toChecker (checker : DocChecker m) : Checker m :=
  ⟨checker.kinds, checker.inspect⟩

end DocChecker

namespace Source

variable {m : Type → Type} [Monad m] [Reporting m]

/-- The checks of one token by all checkers that want to see it. -/
def inspectSlot (source : Source) (checkers : List (Checker m)) (slot : Slot) : m Unit :=
  checkers.forM fun checker =>
    if checker.kinds.contains slot.kind then checker.inspect source slot.position else pure ()

/-- One pass of all checkers over all tokens. -/
def inspect (source : Source) (checkers : List (Checker m)) : m Unit :=
  source.slots.forM (source.inspectSlot checkers)

/-- The report of one pass. -/
def report (source : Source) (checkers : List (Checker m)) (fixing : Bool) :
    Except Fault Report :=
  let (outcome, report) := Reporting.run (source.inspect checkers) (.empty fixing)
  outcome.map fun _ => report

end Source

end DocLint

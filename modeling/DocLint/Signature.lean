import DocLint.Source

/-!
# What a function declares

The checks of a function comment need the function's name and the names of its parameters. A
`SignatureReader` supplies both. The reader of this module takes them from the tokens: the name is
the first identifier before the parameter list, and the parameters are the variables in it, one at
most for each part between commas. Default values and bracketed groups are passed over.

Passing over a group follows the reference of its opening bracket. A reference that points backward
may lead the reader in a circle. Where it goes next depends on where it is and on nothing else, and
it can stand at no more than twice as many positions as there are tokens, so it is in a circle once
it has made more steps than that.
-/

namespace DocLint

/-- Supplies what a function declares. -/
structure SignatureReader where
  /-- The name of the function at a position, if it has one. -/
  name? : Source → Int → Except Fault (Option String)
  /-- The parameters of the function at a position, with their `$`. -/
  parameters : Source → Int → Except Fault (List String)

/-- The ends of a parameter list. -/
structure ParameterList where
  /-- Where the list begins. -/
  opener : Int
  /-- Where the list ends. -/
  closer : Int

/-- The parameter list of the function at `anchor`: the first parenthesis after it. -/
def ParameterList.find (source : Source) (anchor : Int) : Except Fault ParameterList :=
  match source.next? (fun kind => kind == .openParenthesis) (anchor + 1) none with
  | none => .error (.noParameterList anchor)
  | some slot =>
    match slot.token.closer? with
    | none => .error (.noParameterList anchor)
    | some closer => .ok ⟨slot.position, closer⟩

/-- The state of a walk through a parameter list. -/
structure ParameterWalk where
  /-- The next position to look at. -/
  position : Int
  /-- Whether a variable met now is a parameter. -/
  expecting : Bool
  /-- The parameters found so far. -/
  found : List String

namespace ParameterWalk

/-- The state at the beginning of a parameter list. -/
def start (list : ParameterList) : ParameterWalk :=
  ⟨list.opener + 1, true, []⟩

/-- The state after a token that does not open a group to pass over. -/
def read (walk : ParameterWalk) (token : Token) : ParameterWalk :=
  let position := walk.position + 1
  match token.kind with
  | .comma => { walk with position, expecting := true }
  | .equal => { walk with position, expecting := false }
  | .variableName =>
    if walk.expecting then ⟨position, false, walk.found ++ [token.content]⟩
    else { walk with position }
  | _ => { walk with position }

/-- The state after a token. -/
def advance (walk : ParameterWalk) (token : Token) : ParameterWalk :=
  match token.kind.isBracketOpener, token.closer? with
  | true, some closer => { walk with position := closer + 1 }
  | _, _ => walk.read token

/-- One step of the walk. -/
def step (source : Source) (walk : ParameterWalk) : Except Fault ParameterWalk :=
  (source.get walk.position).map walk.advance

/-- The walk up to a closing position in at most the given number of steps; nothing if it needs
more. -/
def run? (source : Source) (closer : Int) : (steps : Nat) → ParameterWalk →
    Option (Except Fault (List String))
  | steps, walk =>
    if closer ≤ walk.position then some (.ok walk.found)
    else
      match steps with
      | 0 => none
      | steps + 1 =>
        match walk.step source with
        | .error fault => some (.error fault)
        | .ok next => run? source closer steps next

end ParameterWalk

namespace SignatureReader

/-- The name of the function at `anchor`, from its tokens. -/
def nameFromTokens (source : Source) (anchor : Int) : Except Fault (Option String) := do
  let list ← ParameterList.find source anchor
  let name? := source.next? (fun kind => kind == .identifier) (anchor + 1) (some list.opener)
  return name?.map Slot.content

/-- A number of steps after which a walk that has not ended never ends. -/
def stepBound (source : Source) : Nat :=
  2 * source.size + 1

/-- The parameters of the function at `anchor`, from its tokens. -/
def parametersFromTokens (source : Source) (anchor : Int) : Except Fault (List String) := do
  let list ← ParameterList.find source anchor
  match ParameterWalk.run? source list.closer (stepBound source) (ParameterWalk.start list) with
  | some outcome => outcome
  | none => throw (.circularBrackets anchor)

/-- The reader that takes everything from the tokens. -/
def ofTokens : SignatureReader :=
  ⟨nameFromTokens, parametersFromTokens⟩

/-- The reader that answers the same for every function. -/
def fixed (name? : Option String) (parameters : List String) : SignatureReader :=
  ⟨fun _ _ => .ok name?, fun _ _ => .ok parameters⟩

end SignatureReader

end DocLint

import DocLint.Proofs.References
import DocLint.Proofs.Sketch

/-!
# Parameters as they are declared

A parameter is a variable with something before and after it: modifiers and a type, a default value,
bracketed groups with anything in them. This module sketches parameter lists that are put together
in this way, of whatever length, and shows that the reader of signatures finds their variables.

The reader's walk is counted in steps. `ParameterWalk.Yields` says where a walk ends without the
count, so that facts about walks chain backward: a walk yields what it yields after its next step,
hence after its next piece, its next parameter, and the whole list.
-/

namespace DocLint

/-! ## Walks without a count -/

namespace ParameterWalk

variable {source : Source} {closer : Int} {walk : ParameterWalk} {names : List String}

/-- The walk ends with these names, in at most one step for each position that is left. -/
def Yields (source : Source) (closer : Int) (walk : ParameterWalk) (names : List String) : Prop :=
  ∀ steps : Nat, closer ≤ walk.position + steps → run? source closer steps walk = some (.ok names)

/-- At its end a walk yields what it has found. -/
theorem yields_found (hend : closer ≤ walk.position) : Yields source closer walk walk.found := by
  intro steps _
  cases steps with
  | zero => rw [run?, if_pos hend]
  | succ steps => rw [run?, if_pos hend]

/-- **One step.** A walk that makes progress yields what it yields after the step. -/
theorem Yields.of_advance {token : Token} (hat : source.token? walk.position = some token)
    (hbefore : walk.position < closer) (hprogress : walk.position < (walk.advance token).position)
    (hyields : Yields source closer (walk.advance token) names) :
    Yields source closer walk names := by
  intro steps hsteps
  cases steps with
  | zero => omega
  | succ steps =>
    rw [run?, if_neg (by omega)]
    simp only [step_eq_ok hat]
    exact hyields steps (by omega)

/-- A bracket that knows its partner leads behind it. -/
theorem advance_of_bracket {token : Token} {last : Int}
    (hbracket : token.kind.isBracketOpener = true) (hlast : token.closer? = some last) :
    walk.advance token = { walk with position := last + 1 } := by
  rw [advance, hbracket, hlast]

/-- A step over a token that opens no group. -/
theorem Yields.of_read {token : Token} (hat : source.token? walk.position = some token)
    (hbefore : walk.position < closer) (hbracket : token.kind.isBracketOpener = false)
    (hyields : Yields source closer (walk.read token) names) :
    Yields source closer walk names := by
  have hadvance : walk.advance token = walk.read token := by
    rw [advance, hbracket]
  apply Yields.of_advance hat hbefore
  · rw [hadvance, position_read]
    omega
  · rwa [hadvance]

end ParameterWalk

/-! ## Pieces -/

/-- A piece of a declaration. -/
inductive Piece where
  /-- A token by itself. -/
  | single (token : Token)
  /-- A bracketed group: its opening bracket, and all tokens up to its closing one. -/
  | group (bracket : Token) (inside : Sketch)

namespace Piece

/-- The tokens of a piece. The opening bracket of a group knows the last token of the group. -/
def sketch : Piece → Sketch
  | single token => [token]
  | group bracket inside => { bracket with closer? := some inside.length } :: inside

/-- Whether a piece may stand beside the variable of a parameter. A comma would end the parameter;
before the variable, an equal sign or another variable would take its place. -/
def mayStand (beforeVariable : Bool) : Piece → Bool
  | single token =>
    match token.kind with
    | .comma => false
    | .equal => !beforeVariable
    | .variableName => !beforeVariable
    | kind => !kind.isBracketOpener
  | group bracket _ => bracket.kind.isBracketOpener

/-- What may stand before a variable may stand after it. -/
theorem mayStand_of_before {piece : Piece} (hpiece : piece.mayStand true = true)
    (beforeVariable : Bool) : piece.mayStand beforeVariable = true := by
  cases beforeVariable with
  | true => exact hpiece
  | false =>
    cases piece with
    | group bracket inside => exact hpiece
    | single token =>
      rw [mayStand] at hpiece ⊢
      split at hpiece <;> simp_all

/-- The tokens of pieces one after the other. -/
def sketches (pieces : List Piece) : Sketch :=
  pieces.flatMap sketch

end Piece

namespace ParameterWalk

variable {source : Source} {closer position : Int} {expecting : Bool} {found names : List String}

/-- A token beside a variable changes nothing but the position. -/
theorem read_of_mayStand (position : Int) (found : List String) {token : Token}
    (hpiece : (Piece.single token).mayStand expecting = true) :
    token.kind.isBracketOpener = false ∧
      (⟨position, expecting, found⟩ : ParameterWalk).read token =
        ⟨position + 1, expecting, found⟩ := by
  rw [Piece.mayStand] at hpiece
  rw [read]
  split at hpiece <;> simp_all [Kind.isBracketOpener]

/-- **A piece beside a variable is passed over.** -/
theorem Yields.of_piece {piece : Piece} (hpiece : piece.mayStand expecting = true)
    (hshows : source.Shows position piece.sketch)
    (hend : position + piece.sketch.length ≤ closer)
    (hyields : Yields source closer ⟨position + piece.sketch.length, expecting, found⟩ names) :
    Yields source closer ⟨position, expecting, found⟩ names := by
  cases piece with
  | single token =>
    have hmoved : (Piece.single (token.moved position)).mayStand expecting = true := hpiece
    obtain ⟨hbracket, hread⟩ := read_of_mayStand position found hmoved
    apply Yields.of_read hshows.head _ hbracket
    · rw [hread]
      exact hyields
    · exact Int.lt_of_lt_of_le (Int.lt_succ position) hend
  | group bracket inside =>
    have hlast : inside.length + position + 1 =
        position + ((Piece.group bracket inside).sketch.length : Int) := by
      rw [Piece.sketch, List.length_cons]
      omega
    have hbracket : (Token.moved position
        { bracket with closer? := some inside.length }).kind.isBracketOpener = true := hpiece
    have hadvance : (⟨position, expecting, found⟩ : ParameterWalk).advance
        (Token.moved position { bracket with closer? := some inside.length }) =
          ⟨position + (Piece.group bracket inside).sketch.length, expecting, found⟩ := by
      rw [advance_of_bracket hbracket rfl, hlast]
    apply Yields.of_advance hshows.head
    · show position < closer
      omega
    · rw [hadvance, ← hlast]
      show position < inside.length + position + 1
      omega
    · rw [hadvance]
      exact hyields

/-- **Pieces beside a variable are passed over.** -/
theorem Yields.of_pieces {pieces : List Piece}
    (hpieces : ∀ piece ∈ pieces, piece.mayStand expecting = true)
    (hshows : source.Shows position (Piece.sketches pieces))
    (hend : position + (Piece.sketches pieces).length ≤ closer)
    (hyields : Yields source closer
      ⟨position + (Piece.sketches pieces).length, expecting, found⟩ names) :
    Yields source closer ⟨position, expecting, found⟩ names := by
  induction pieces generalizing position with
  | nil => simpa [Piece.sketches] using hyields
  | cons piece rest ih =>
    have hsketch : Piece.sketches (piece :: rest) = piece.sketch ++ Piece.sketches rest :=
      List.flatMap_cons
    rw [hsketch, List.length_append, Int.natCast_add, ← Int.add_assoc] at hend hyields
    rw [hsketch] at hshows
    apply Yields.of_piece (hpieces piece List.mem_cons_self) hshows.left
    · omega
    · exact ih (fun other hother => hpieces other (List.mem_cons_of_mem piece hother)) hshows.right
        hend hyields

end ParameterWalk

/-! ## Parameters -/

/-- A declared parameter. -/
structure Parameter where
  /-- What stands before the variable. -/
  before : List Piece
  /-- The variable. -/
  token : Token
  /-- What stands after the variable. -/
  after : List Piece
  /-- The comma that follows unless the parameter is the last one. -/
  comma : Token
  before_mayStand : ∀ piece ∈ before, piece.mayStand true = true
  token_kind : token.kind = .variableName
  after_mayStand : ∀ piece ∈ after, piece.mayStand false = true
  comma_kind : comma.kind = .comma

namespace Parameter

/-- The name of a parameter, with its mark. -/
def name (parameter : Parameter) : String :=
  parameter.token.content

/-- The tokens of a parameter. -/
def sketch (parameter : Parameter) : Sketch :=
  Piece.sketches parameter.before ++ parameter.token :: Piece.sketches parameter.after

theorem length_sketch (parameter : Parameter) (position : Int) :
    position + (parameter.sketch.length : Int) =
      position + (Piece.sketches parameter.before).length + 1 +
        (Piece.sketches parameter.after).length := by
  rw [sketch, List.length_append, List.length_cons]
  omega

/-- The tokens of parameters with commas between them. -/
def sketches : List Parameter → Sketch
  | [] => []
  | [last] => last.sketch
  | parameter :: rest => parameter.sketch ++ parameter.comma :: sketches rest

end Parameter

namespace ParameterWalk

variable {source : Source} {closer position : Int} {found names : List String}

/-- **A parameter is found.** -/
theorem Yields.of_parameter {parameter : Parameter}
    (hshows : source.Shows position parameter.sketch)
    (hend : position + parameter.sketch.length ≤ closer)
    (hyields : Yields source closer
      ⟨position + parameter.sketch.length, false, found ++ [parameter.name]⟩ names) :
    Yields source closer ⟨position, true, found⟩ names := by
  rw [Parameter.length_sketch] at hend hyields
  rw [Parameter.sketch] at hshows
  generalize hplace : position + (Piece.sketches parameter.before).length = place at *
  have hkind : (parameter.token.moved place).kind = .variableName := parameter.token_kind
  have hvariable := hshows.right
  rw [hplace] at hvariable
  have hread : (⟨place, true, found⟩ : ParameterWalk).read (parameter.token.moved place) =
      ⟨place + 1, false, found ++ [parameter.name]⟩ := by
    rw [read, hkind]
    rfl
  apply Yields.of_pieces parameter.before_mayStand hshows.left (by omega)
  rw [hplace]
  apply Yields.of_read hvariable.head
  · show place < closer
    omega
  · rw [hkind]
    rfl
  · rw [hread]
    exact Yields.of_pieces parameter.after_mayStand hvariable.tail hend hyields

/-- A comma makes the walk expect a parameter. -/
theorem Yields.of_comma {token : Token} (hkind : token.kind = .comma)
    (hat : source.token? position = some (token.moved position)) (hbefore : position < closer)
    {expecting : Bool} (hyields : Yields source closer ⟨position + 1, true, found⟩ names) :
    Yields source closer ⟨position, expecting, found⟩ names := by
  have hmoved : (token.moved position).kind = .comma := hkind
  have hread : (⟨position, expecting, found⟩ : ParameterWalk).read (token.moved position) =
      ⟨position + 1, true, found⟩ := by
    rw [read, hmoved]
  apply Yields.of_read hat hbefore
  · rw [hmoved]
    rfl
  · rwa [hread]

/-- **All parameters are found**, whatever the walk may expect after them. -/
theorem Yields.of_parameters {parameters : List Parameter}
    (hshows : source.Shows position (Parameter.sketches parameters))
    (hend : position + (Parameter.sketches parameters).length ≤ closer)
    (hyields : ∀ expecting, Yields source closer
      ⟨position + (Parameter.sketches parameters).length, expecting,
        found ++ parameters.map Parameter.name⟩ names) :
    Yields source closer ⟨position, true, found⟩ names := by
  induction parameters using Parameter.sketches.induct generalizing position found with
  | case1 => simpa [Parameter.sketches] using hyields true
  | case2 last =>
    exact Yields.of_parameter hshows hend (hyields false)
  | case3 parameter rest hrest ih =>
    have hsketch : Parameter.sketches (parameter :: rest) =
        parameter.sketch ++ parameter.comma :: Parameter.sketches rest := by
      cases rest with
      | nil => exact absurd rfl hrest
      | cons second others => rfl
    have hlength : position + ((Parameter.sketches (parameter :: rest)).length : Int) =
        position + parameter.sketch.length + 1 + (Parameter.sketches rest).length := by
      rw [hsketch, List.length_append, List.length_cons]
      omega
    rw [hlength] at hend hyields
    rw [hsketch] at hshows
    apply Yields.of_parameter hshows.left (by omega)
    apply Yields.of_comma parameter.comma_kind hshows.right.head (by omega)
    apply ih hshows.right.tail hend
    intro expecting
    simpa using hyields expecting

end ParameterWalk

/-! ## Declarations -/

/-- What follows the keyword of a function, up to the end of its parameter list. -/
structure Declaration where
  /-- What stands before the parameter list. -/
  head : Sketch
  /-- The parenthesis that opens the list. -/
  opening : Token
  /-- The parameters. -/
  parameters : List Parameter
  /-- What stands between the parameters and the end of the list. -/
  rest : List Piece
  /-- The parenthesis that closes the list. -/
  closing : Token
  head_kind : ∀ token ∈ head, token.kind ≠ .openParenthesis
  opening_kind : opening.kind = .openParenthesis
  rest_mayStand : ∀ piece ∈ rest, piece.mayStand true = true

namespace Declaration

variable (declaration : Declaration)

/-- The tokens inside the parameter list. -/
def inside : Sketch :=
  Parameter.sketches declaration.parameters ++ Piece.sketches declaration.rest

/-- The tokens of a declaration. The opening parenthesis knows the closing one. -/
def sketch : Sketch :=
  declaration.head ++
    { declaration.opening with closer? := some (declaration.inside.length + 1) } ::
      (declaration.inside ++ [declaration.closing])

/-- The names of the parameters. -/
def names : List String :=
  declaration.parameters.map Parameter.name

variable {declaration} {source : Source} {anchor : Int} (hfront : 0 ≤ anchor)
variable (hshows : source.Shows (anchor + 1) declaration.sketch)

include hfront hshows

/-- The parameter list is found. -/
theorem find_eq_ok :
    ParameterList.find source anchor =
      .ok ⟨anchor + 1 + declaration.head.length,
        declaration.inside.length + 1 + (anchor + 1 + declaration.head.length)⟩ := by
  have hsearch : source.next? (fun kind => kind == .openParenthesis) (anchor + 1) none = some _ :=
    hshows.next?_eq_some (by omega) (by simpa using declaration.head_kind)
      (by simpa using declaration.opening_kind) (by simp)
  rw [ParameterList.find, hsearch]
  rfl

/-- Looking for the name of the function breaks off nowhere. -/
theorem exists_nameFromTokens :
    ∃ name?, SignatureReader.nameFromTokens source anchor = .ok name? := by
  rw [SignatureReader.nameFromTokens, find_eq_ok hfront hshows]
  exact ⟨_, rfl⟩

/-- **The declared parameters are read off**, however many there are. -/
theorem parametersFromTokens_eq_ok :
    SignatureReader.parametersFromTokens source anchor = .ok declaration.names := by
  rw [SignatureReader.parametersFromTokens, find_eq_ok hfront hshows]
  have hinside := hshows.right.tail
  generalize hopener : anchor + 1 + (declaration.head.length : Int) = opener at *
  have hyields : ParameterWalk.Yields source (declaration.inside.length + 1 + opener)
      (ParameterWalk.start ⟨opener, declaration.inside.length + 1 + opener⟩) declaration.names := by
    have hlength : (declaration.inside.length : Int) =
        (Parameter.sketches declaration.parameters).length +
          (Piece.sketches declaration.rest).length := by
      rw [inside, List.length_append, Int.natCast_add]
    apply ParameterWalk.Yields.of_parameters hinside.left.left (by omega)
    intro expecting
    apply ParameterWalk.Yields.of_pieces _ hinside.left.right (by omega)
    · apply ParameterWalk.yields_found
      show _ ≤ opener + 1 + _ + _
      omega
    · intro piece hpiece
      exact Piece.mayStand_of_before (declaration.rest_mayStand piece hpiece) expecting
  have hsize := hinside.right.lt_size (by omega)
  have hrun := hyields (SignatureReader.stepBound source) (by
    rw [SignatureReader.stepBound]
    show declaration.inside.length + 1 + opener ≤ opener + 1 + _
    omega)
  simp only [bind, Except.bind, hrun]

end Declaration

end DocLint

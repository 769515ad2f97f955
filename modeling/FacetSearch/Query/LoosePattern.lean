import FacetSearch.Error
import FacetSearch.Sql.Pattern
import FacetSearch.Value.Equality
/-!
# Patterns of values

Literals and expressions may come as values of any shape. What a value consists of is then what counts,
and each piece has to be of a shape that the work on it takes. On texts all this agrees with what
`Pattern` does (`escapeValue_text`).
-/

namespace FacetSearch.Pattern

/-- What a value consists of, which has to be something that consists of pieces. -/
def pieces (v : Value) : Except Error (List Value) :=
  match v.items? with
  | some items => .ok items
  | none => .error (.failure .wrongType)

/-- A piece of a value so that it matches itself; only a single character can mean anything else. -/
def escapePiece : Value → Except Error (List Char)
  | .text s =>
    match s.toList with
    | [c] => .ok (escapeChar c)
    | cs => .ok cs
  | _ => .error (.failure .wrongType)

/-- A value so that it matches itself. -/
def escapeValue (v : Value) : Except Error (List Char) := do
  return (← (← pieces v).mapM escapePiece).flatten

/-- A value without slashes at its end, which has to be a text. -/
def withoutSlashes : Value → Except Error Value
  | .text s => .ok (.text (String.ofList (dropSlashes s.toList)))
  | .bytes _ => .error (.failure .wrongType)
  | _ => .error (.failure .missingMember)

/-- The branch of a pattern for a literal. -/
def branchOf (mode : MatchMode) (v : Value) : Except Error (List Char) :=
  match mode with
  | .subtree => do escapeValue (← withoutSlashes v)
  | .whole | .word => escapeValue v

/-- The pattern for a group of literals. -/
def forValues (mode : MatchMode) (literals : Value) : Except Error String := do
  return String.ofList (ofBranches mode (← (← pieces literals).mapM (branchOf mode)))

/-- The first piece of a value by its place, which an object has only as a key. -/
def firstPiece (v : Value) : Except Error Value :=
  match v with
  | .object es =>
    match es.find? fun e => e.1.same (.int 0) with
    | some (_, piece) => .ok piece
    | none => .error (.failure .missingKey)
  | v => return (← pieces v).headD .null

/-- An expression that matches what one of the expressions matches; a single one stays as it is. -/
def joinedValue (expressions : Value) : Except Error Value := do
  match ← pieces expressions with
  | [_] => firstPiece expressions
  | several => return .text (joined (several.map Value.plain))

theorem escapePiece_char (c : Char) : escapePiece (.text c.toString) = .ok (escapeChar c) := by
  simp [escapePiece, Char.toString]

theorem mapM_escapePiece (cs : List Char) :
    (cs.map fun c => Value.text c.toString).mapM escapePiece = .ok (cs.map escapeChar) := by
  induction cs with
  | nil => rfl
  | cons c cs ih =>
    rw [List.map_cons, List.mapM_cons, escapePiece_char, ih]
    rfl

/-- A text is escaped character by character. -/
theorem escapeValue_text (s : String) : escapeValue (.text s) = .ok (escapeChars s.toList) := by
  simp only [escapeValue, pieces, Value.items?, bind, Except.bind, mapM_escapePiece, pure, Except.pure]
  rw [escapeChars, List.flatMap_def]

end FacetSearch.Pattern

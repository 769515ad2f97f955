import FacetSearch.Column.Literal
import FacetSearch.Firsts
import FacetSearch.Sql.Fragment
import FacetSearch.Text.Word
/-!
# Bound statements

A database driver takes a statement in which the i-th placeholder is the name `:sq_param_i`, with a
value and a type for each name. `Bound.ofFragment` makes it, and checks that every name is read as one
somewhere in the text: a name is a colon and the longest run of word characters behind it, and counts
only if no word character, colon or backslash is in front of the colon and no colon behind the run.
`Bound.placed` lists the names that are read, among which there may be some without a value.
-/

namespace FacetSearch

/-- A name in a statement with the value bound to it. -/
structure BoundParam where
  name : String
  value : Value
  type : BindType

/-- A statement with names for its parameters. -/
structure Bound where
  text : String
  params : List BoundParam

namespace Bound

/-- The name of the i-th parameter. -/
def paramName (i : Nat) : String := "sq_param_" ++ toString i

/-- The text with the i-th placeholder, counted from `i`, replaced by its name. -/
def named (i : Nat) : List Char → List Char
  | [] => []
  | c :: cs => if c = '?' then ':' :: (paramName i).toList ++ named (i + 1) cs else c :: named i cs

/-- A name may start behind this character. -/
def mayPrecedeName (c : Char) : Bool := !(Text.isWord c || c == ':' || c == '\\')

/-- The name that starts after a colon: the run of word characters, unless a colon follows it. -/
def nameAfterColon (cs : List Char) : List Char :=
  if (cs.dropWhile Text.isWord).head? = some ':' then [] else cs.takeWhile Text.isWord

/-- The names that are read in a text, in their order; `free` says that the character in front of the
text lets a name begin. -/
def namesFrom (free : Bool) : List Char → List (List Char)
  | [] => []
  | c :: cs =>
    let rest := namesFrom (mayPrecedeName c) cs
    if free && c == ':' && !(nameAfterColon cs).isEmpty then nameAfterColon cs :: rest else rest

/-- The names that are read in a statement, each where it stands first. -/
def names (text : List Char) : List (List Char) := firstsBy (· == ·) (namesFrom true text)

/-- The parameter with its value in the form that the driver takes. -/
def bindParam (i : Nat) (p : Param) : Except Error BoundParam := do
  let value ← p.type.coerce p.value none
  match p.type.bindType? with
  | some type => return { name := paramName i, value, type }
  | none => throw (.typeMismatch (.unbindable p.type))

/-- The parameters with their values, counted from `i`. -/
def bindParams (i : Nat) : List Param → Except Error (List BoundParam)
  | [] => .ok []
  | p :: ps => do
    let b ← bindParam i p
    return b :: (← bindParams (i + 1) ps)

/-- The bound statement of a fragment. -/
def ofFragment (f : Fragment) : Except Error Bound := do
  let marks := Fragment.placeholders f.text
  if marks ≠ f.params.length then throw (.binding (.statement marks f.params.length))
  let params ← bindParams 0 f.params
  let text := named 0 f.text.toList
  let found := names text
  if params.all fun p => found.contains p.name.toList then
    return { text := String.ofList text, params }
  else throw (.failure .argument)

/-- The names that are read in the text of a statement with what is bound to them. -/
def placed (b : Bound) : List (String × Option BoundParam) :=
  (names b.text.toList).map fun n =>
    (String.ofList n, b.params.find? fun p => p.name == String.ofList n)

end Bound

end FacetSearch

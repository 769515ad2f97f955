import FacetSearch.Error
import FacetSearch.Value.Equality
/-!
# Rows

Rows are sent as JSON, which has no form for identifiers, timestamps and dates: in the cells of a row,
and in lists there, they are replaced by their texts.
-/

namespace FacetSearch.Row

mutual

/-- A value that can be a key: there are neither lists nor objects in it. -/
def isKey : Value → Bool
  | .list _ | .object _ => false
  | .tuple xs => areKeys xs
  | .filter centres lower upper => areKeys centres && isKey lower && isKey upper
  | _ => true

/-- Values that can be keys. -/
def areKeys : List Value → Bool
  | [] => true
  | x :: xs => isKey x && areKeys xs

end

/-- The entry that two values make. -/
def entryOf (index : Nat) (pair : Value) : Except Error (Value × Value) :=
  match pair.items? with
  | none => .error (.failure .wrongType)
  | some [key, value] => if isKey key then .ok (key, value) else .error (.failure .wrongType)
  | some items => .error (.value (.entryLength index items.length))

/-- The entries of pairs, counted from `index`, put behind entries. -/
def putPairs (index : Nat) (entries : List (Value × Value)) :
    List Value → Except Error (List (Value × Value))
  | [] => .ok entries
  | p :: ps => do
    let (key, value) ← entryOf index p
    putPairs (index + 1) (Value.put entries key value) ps

/-- The cells of a row, which is an object or consists of pairs. -/
def cells (row : Value) : Except Error (List (Value × Value)) :=
  match row with
  | .object es => .ok es
  | row =>
    match row.items? with
    | none => .error (.failure .wrongType)
    | some pairs => putPairs 0 [] pairs

mutual

/-- A value with texts in place of what JSON has no form for. -/
def plainCell : Value → Value
  | .uuid u => .text u.text
  | .timestamp t => .text t.isoText
  | .date d => .text d.isoText
  | .list xs => .list (plainCells xs)
  | .tuple xs => .list (plainCells xs)
  | v => v

/-- The members of a list with texts in place of what JSON has no form for. -/
def plainCells : List Value → List Value
  | [] => []
  | x :: xs => plainCell x :: plainCells xs

end

/-- A row with texts in place of what JSON has no form for. -/
def normalize (row : Value) : Except Error Value := do
  return .object ((← cells row).map fun (k, v) => (k, plainCell v))

end FacetSearch.Row

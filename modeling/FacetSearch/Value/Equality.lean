import FacetSearch.Firsts
import FacetSearch.Value.Basic
/-!
# Equality of values

Numbers and booleans are equal when they stand for the same number, whatever their kind; otherwise
only values of one kind are equal. A list is not equal to a tuple, nor bytes to a text, nor a date to
a timestamp. Objects are compared without regard to order. A NaN is equal to itself only, told apart
from other NaNs by its payload. `firsts` keeps the first of equal values.
-/

namespace FacetSearch.Value

/-- The value of a number in decimal notation. -/
def decimal? : Value → Option ExactDecimal
  | .decimal d => some d
  | v => v.number?.map ExactDecimal.ofNumber

/-- Both values are numbers, and they are equal in decimal notation. -/
def sameDecimal (a b : Value) : Bool :=
  match a.decimal?, b.decimal? with
  | some x, some y => x.same y
  | _, _ => false

/-- Equality of values that hold no others. -/
def sameScalar : Value → Value → Bool
  | .null, .null => true
  | .text a, .text b => a == b
  | .bytes a, .bytes b => a == b
  | .uuid a, .uuid b => a == b
  | .timestamp a, .timestamp b => a.same b
  | .date a, .date b => a == b
  | .mode a, .mode b => a == b
  | .decimal (.nan _ p), .decimal (.nan _ q) => p == q
  | a, b =>
    match a.number?, b.number? with
    | some x, some y => x.same y
    | _, _ => sameDecimal a b

mutual

/-- Equality of values. -/
def same : Value → Value → Bool
  | .list xs, .list ys => sameMembers xs ys
  | .tuple xs, .tuple ys => sameMembers xs ys
  | .object es, .object fs => es.length == fs.length && sameEntries es fs
  | .filter xs a b, .filter ys c d => sameMembers xs ys && same a c && same b d
  | a, b => sameScalar a b

/-- Equality of members one by one. -/
def sameMembers : List Value → List Value → Bool
  | [], [] => true
  | x :: xs, y :: ys => same x y && sameMembers xs ys
  | _, _ => false

/-- Every entry of the first list is equal to one of the second. -/
def sameEntries : List (Value × Value) → List (Value × Value) → Bool
  | [], _ => true
  | (k, v) :: es, fs => fs.any (fun f => same k f.1 && same v f.2) && sameEntries es fs

end

/-- The values that no earlier one is equal to, in their order. -/
def firsts (vs : List Value) : List Value := firstsBy same vs

/-- The value of an object under a text key. -/
def get? (v : Value) (key : String) : Option Value :=
  match v with
  | .object es => (es.find? fun e => same e.1 (.text key)).map Prod.snd
  | _ => none

/-- The entries after a key is given a value. A key that is there keeps its place. -/
def put (entries : List (Value × Value)) (key value : Value) : List (Value × Value) :=
  if entries.any fun e => same e.1 key then
    entries.map fun e => if same e.1 key then (e.1, value) else e
  else entries ++ [(key, value)]

end FacetSearch.Value

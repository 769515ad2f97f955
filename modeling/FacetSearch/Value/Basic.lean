import FacetSearch.Criteria.MatchMode
import FacetSearch.Number.ExactDecimal
import FacetSearch.Number.Number
import FacetSearch.Time.Timestamp
import FacetSearch.Uuid
/-!
# Values

Criteria, catalogs, settings and rows come in as values of any shape: decoded JSON, and beside it
what a database hands out and what criteria hold in normal form. Objects keep the order of their
entries and may have keys of any kind. A numeric filter is the centres of its windows with what is added
to each of them for the lower and the upper end.
-/

namespace FacetSearch

/-- A value of any shape. -/
inductive Value where
  | null
  | bool (b : Bool)
  | int (n : Int)
  | float (d : Double)
  | text (s : String)
  | bytes (bs : List UInt8)
  | list (xs : List Value)
  | tuple (xs : List Value)
  | object (entries : List (Value × Value))
  | uuid (u : Uuid)
  | timestamp (t : Timestamp)
  | date (d : Date)
  | decimal (d : ExactDecimal)
  | filter (centres : List Value) (lower upper : Value)
  | mode (m : MatchMode)
  deriving Inhabited

namespace Value

/-- The value is missing. -/
def isNull : Value → Bool
  | .null => true
  | _ => false

/-- The value of a number. -/
def ofNumber : Number → Value
  | .int n => .int n
  | .flag b => .bool b
  | .double d => .float d

/-- The number that a value is; a boolean counts as one or zero. -/
def number? : Value → Option Number
  | .bool b => some (.flag b)
  | .int n => some (.int n)
  | .float d => some (.double d)
  | _ => none

/-- The members of a list or tuple. -/
def members? : Value → Option (List Value)
  | .list xs => some xs
  | .tuple xs => some xs
  | _ => none

/-- The entries of an object. -/
def entries? : Value → Option (List (Value × Value))
  | .object es => some es
  | _ => none

/-- What a value consists of: the members of a list, the keys of an object, the characters of a
text, the codes of bytes. -/
def items? : Value → Option (List Value)
  | .list xs => some xs
  | .tuple xs => some xs
  | .object es => some (es.map Prod.fst)
  | .text s => some (s.toList.map fun c => .text c.toString)
  | .bytes bs => some (bs.map fun b => .int b.toNat)
  | _ => none

/-- Neither missing nor false, zero or empty. -/
def isTruthy : Value → Bool
  | .null => false
  | .bool b => b
  | .int n => n != 0
  | .float (.finite _ n _) => n != 0
  | .decimal d => !d.isZero
  | .text s => s != ""
  | .bytes bs => !bs.isEmpty
  | .list xs => !xs.isEmpty
  | .tuple xs => !xs.isEmpty
  | .object es => !es.isEmpty
  | _ => true

end Value

end FacetSearch

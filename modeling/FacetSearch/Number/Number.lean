import FacetSearch.Number.Shortest
/-!
# Numbers

An integer of any size, a truth value, which counts as one or zero, or a binary64 number. They are
compared exactly; they are added in binary64, unless neither is a binary64 number.
-/

namespace FacetSearch

/-- An integer, a truth value or a binary64 number. -/
inductive Number where
  | int (n : Int)
  | flag (b : Bool)
  | double (d : Double)
  deriving DecidableEq

namespace Number

/-- The integer that a number counts as, or the binary64 number. -/
def count : Number → Int ⊕ Double
  | .int n => .inl n
  | .flag b => .inl b.toNat
  | .double d => .inr d

/-- How two numbers compare, exactly; a NaN compares with nothing. -/
def compare? (a b : Number) : Option Ordering :=
  match a.count, b.count with
  | .inl m, .inl n => some (compare m n)
  | .inr d, .inl n => d.compareInt? n
  | .inl m, .inr e => (e.compareInt? m).map Ordering.swap
  | .inr d, .inr e => d.compare? e

/-- The first number is greater. -/
def gt (a b : Number) : Bool := a.compare? b == some .gt

/-- The numbers are equal, or they are one and the same NaN. -/
def same (a b : Number) : Bool :=
  match a, b with
  | .double (.nan p), .double (.nan q) => p == q
  | a, b => a.compare? b == some .eq

/-- The binary64 number nearest to a number, unless it is an integer that is too large. -/
def toDouble? (n : Number) : Option Double :=
  match n.count with
  | .inl n => Double.ofInt? n
  | .inr d => some d

/-- The sum, unless one number is an integer that is too large for binary64. -/
def add? (a b : Number) : Option Number :=
  match a.count, b.count with
  | .inl m, .inl n => some (.int (m + n))
  | _, _ => do return .double ((← a.toDouble?).add (← b.toDouble?))

/-- The number without its sign. -/
def abs (n : Number) : Number :=
  match n.count with
  | .inl n => .int n.natAbs
  | .inr d => .double d.abs

/-- The number with the opposite sign. -/
def neg (n : Number) : Number :=
  match n.count with
  | .inl n => .int (-n)
  | .inr d => .double d.neg

/-- The digits of an integer, the word for a truth value, or the shortest text that reads back as the
binary64 number. -/
def text : Number → String
  | .int n => toString n
  | .flag b => if b then "True" else "False"
  | .double d => d.text

end Number

end FacetSearch

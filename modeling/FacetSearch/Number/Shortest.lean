import FacetSearch.Number.Double
/-!
# The shortest decimal of a number

`Double.shortest` finds the decimal with the fewest digits that reads back as a given magnitude and,
of those, the nearest to it. For one, two, ... seventeen digits it tests the two neighbours of the
exact value on that decimal grid against the interval of values that round to the magnitude, all in
natural numbers. `Double.text` writes the digits: positionally when the decimal exponent is from -4
to 15, otherwise with an exponent of at least two digits.
-/

namespace FacetSearch

/-- The number `digits * 10 ^ exponent`. -/
structure Decimal where
  digits : Nat
  exponent : Int
  deriving DecidableEq, Repr

namespace Decimal

/-- A decimal and a number of quarter units as two naturals with a common denominator. -/
def againstQuarters (d : Decimal) (quarters : Nat) : Nat × Nat :=
  if 0 ≤ d.exponent then (d.digits * Nat.pow 10 d.exponent.toNat * (4 * Double.one), quarters)
  else (d.digits * (4 * Double.one), quarters * Nat.pow 10 (-d.exponent).toNat)

/-- The decimal is at least that many quarter units. -/
def atLeastQuarters (d : Decimal) (quarters : Nat) (inclusive : Bool) : Bool :=
  let (a, b) := d.againstQuarters quarters
  b < a || (inclusive && a == b)

/-- The decimal is at most that many quarter units. -/
def atMostQuarters (d : Decimal) (quarters : Nat) (inclusive : Bool) : Bool :=
  let (a, b) := d.againstQuarters quarters
  a < b || (inclusive && a == b)

/-- The distance between a decimal and a number of quarter units, over their common denominator. -/
def distance (d : Decimal) (quarters : Nat) : Nat :=
  let (a, b) := d.againstQuarters quarters
  (a - b) + (b - a)

end Decimal

namespace Double

/-- The decimals that read back as a positive magnitude: between `low` and `high` quarter units. The
ends belong to it when the significand is even, since a tie goes there. -/
structure Rounding where
  low : Nat
  high : Nat
  inclusive : Bool

/-- Half the distance to either neighbour. Below a power of two the neighbours are closer. -/
def rounding (units : Nat) : Rounding :=
  let ulp := step units
  let below := if units = Nat.pow 2 units.log2 ∧ 52 < units.log2 then ulp else 2 * ulp
  { low := 4 * units - below, high := 4 * units + 2 * ulp, inclusive := units / ulp % 2 = 0 }

/-- A decimal reads back as the magnitude that the interval belongs to. -/
def Rounding.contains (r : Rounding) (d : Decimal) : Bool :=
  d.atLeastQuarters r.low r.inclusive && d.atMostQuarters r.high r.inclusive

/-- The greatest decimal with this exponent that is not above `units`. -/
def floorAt (units : Nat) (exponent : Int) : Decimal :=
  if 0 ≤ exponent then ⟨units / (one * Nat.pow 10 exponent.toNat), exponent⟩
  else ⟨units * Nat.pow 10 (-exponent).toNat / one, exponent⟩

/-- The nearer of the two decimals around `units`, if any of them reads back; of two at the same
distance the even one. -/
def nearestAt? (units : Nat) (exponent : Int) : Option Decimal :=
  let r := rounding units
  let lower := floorAt units exponent
  let upper : Decimal := ⟨lower.digits + 1, exponent⟩
  match r.contains lower, r.contains upper with
  | false, false => none
  | true, false => some lower
  | false, true => some upper
  | true, true =>
    let a := lower.distance (4 * units)
    let b := upper.distance (4 * units)
    some (if a < b ∨ (a = b ∧ lower.digits % 2 = 0) then lower else upper)

/-- The exponent `e` for which a positive magnitude lies in `[10 ^ (e - 1), 10 ^ e)`. -/
def decimalExponent (units : Nat) : Int :=
  (Nat.toDigits 10 (units * Nat.pow 10 400 / one)).length - 400

/-- The shortest decimal that reads back as a positive magnitude, the nearest of the shortest. -/
def shortest (units : Nat) : Decimal :=
  let e := decimalExponent units
  ((List.range 17).findSome? fun (d : Nat) => nearestAt? units (e - (d + 1 : Nat))).getD (floorAt units (e - 17))

/-- Digits without the zeros at their end, with as many added to the exponent. -/
def dropZeros : List Char → Int → List Char × Int
  | digits, exponent =>
    let zeros := (digits.reverse.takeWhile (· == '0')).length
    (digits.take (digits.length - zeros), exponent + zeros)

/-- An exponent with its sign and at least two digits. -/
def exponentText (e : Int) : List Char :=
  let digits := Nat.toDigits 10 e.natAbs
  (if e < 0 then '-' else '+') :: (if digits.length < 2 then '0' :: digits else digits)

/-- Digits that stand for `0.d₁d₂… * 10 ^ point`, positionally while the point stays near them. -/
def layout (digits : List Char) (point : Int) : List Char :=
  if -4 < point ∧ point ≤ 16 then
    if point ≤ 0 then '0' :: '.' :: List.replicate (-point).toNat '0' ++ digits
    else
      let n := point.toNat
      if digits.length ≤ n then digits ++ List.replicate (n - digits.length) '0' ++ ['.', '0']
      else digits.take n ++ '.' :: digits.drop n
  else
    let rest := digits.drop 1
    digits.take 1 ++ (if rest.isEmpty then [] else '.' :: rest) ++ 'e' :: exponentText (point - 1)

/-- The text of a magnitude. -/
def magnitudeText (units : Nat) : List Char :=
  if units = 0 then ['0', '.', '0']
  else
    let d := shortest units
    let (digits, exponent) := dropZeros (Nat.toDigits 10 d.digits) d.exponent
    layout digits (exponent + digits.length)

/-- The shortest text that reads back as the number. -/
def text : Double → String
  | .finite negative units _ => String.ofList ((if negative then ['-'] else []) ++ magnitudeText units)
  | .infinite negative => if negative then "-inf" else "inf"
  | .nan _ => "nan"

end Double

end FacetSearch

import FacetSearch.Number.Number
import FacetSearch.Number.Numeral
/-!
# Exact decimal numbers

A database hands out exact numbers in decimal notation: a coefficient and a power of ten. Numbers that
differ in trailing zeros are written differently and are equal; `bare` takes the zeros away, and
`bare_scaled` says that it changes nothing else. A decimal number and any other number are compared
exactly. A NaN carries a payload that tells it apart from other NaNs.
-/

namespace FacetSearch

/-- A number in decimal notation. -/
inductive ExactDecimal where
  | finite (negative : Bool) (coefficient : Nat) (exponent : Int)
  | infinite (negative : Bool)
  | nan (negative : Bool) (payload : Nat)
  deriving DecidableEq

namespace ExactDecimal

/-- A minus for a negative number. -/
def signText (negative : Bool) : String := if negative then "-" else ""

/-- The exponent behind the letter `E`, with its sign. -/
def exponentText (e : Int) : String := "E" ++ (if 0 ≤ e then "+" else "") ++ toString e

/-- A coefficient with a power of ten: positional if there is nothing to fill up behind the point and at
most five zeros in front of the digits, otherwise with one digit in front of the point. -/
def magnitudeText (coefficient : Nat) (exponent : Int) : String :=
  let digits := Nat.toDigits 10 coefficient
  let whole := exponent + digits.length
  if exponent ≤ 0 ∧ -6 < whole then
    if exponent = 0 then String.ofList digits
    else if 0 < whole then
      String.ofList (digits.take whole.toNat ++ '.' :: digits.drop whole.toNat)
    else "0." ++ String.ofList (List.replicate (-whole).toNat '0' ++ digits)
  else
    String.ofList (digits.take 1 ++ if digits.length = 1 then [] else '.' :: digits.drop 1) ++
      exponentText (whole - 1)

/-- The text of a number. -/
def text : ExactDecimal → String
  | finite s c e => signText s ++ magnitudeText c e
  | infinite s => signText s ++ "Infinity"
  | nan s _ => signText s ++ "NaN"

/-- The number that digits, with at most one point and an exponent, stand for. -/
def magnitude? (negative : Bool) (cs : List Char) : Option ExactDecimal := do
  let whole := cs.takeWhile Text.isDigit
  let rest := cs.dropWhile Text.isDigit
  let (fraction, rest) := match rest with
    | '.' :: rest => (rest.takeWhile Text.isDigit, rest.dropWhile Text.isDigit)
    | rest => ([], rest)
  let ds ← Numeral.digits? (whole ++ fraction)
  guard (0 < ds.length)
  let e ← Numeral.exponent? rest
  return finite negative (Numeral.ofDigits ds) (e - fraction.length)

/-- The number that a text stands for. -/
def read? (cs : List Char) : Option ExactDecimal :=
  let (negative, cs) := Numeral.splitSign ((Text.stripChars cs).filter (· ≠ '_'))
  if Numeral.isWordOf cs "inf" || Numeral.isWordOf cs "infinity" then some (infinite negative)
  else if Numeral.isWordOf cs "nan" then some (nan negative 0)
  else magnitude? negative cs

/-- The nearest binary64 number. -/
def toDouble : ExactDecimal → Double
  | finite s c e => Double.ofDecimal s c e
  | infinite s => .infinite s
  | nan .. => .nan 0

/-- The number is zero. -/
def isZero : ExactDecimal → Bool
  | finite _ c _ => c == 0
  | _ => false

/-- Coefficient and exponent without zeros at the end of the coefficient. -/
def bare (coefficient : Nat) (exponent : Int) : Nat × Int :=
  if coefficient = 0 then (0, 0)
  else if coefficient % 10 = 0 then bare (coefficient / 10) (exponent + 1)
  else (coefficient, exponent)
  termination_by coefficient
  decreasing_by omega

/-- The integer that a number is. -/
def int? : ExactDecimal → Option Int
  | finite s c e =>
    match bare c e with
    | (c, .ofNat k) => some (if s then -(c * Nat.pow 10 k : Nat) else (c * Nat.pow 10 k : Nat))
    | _ => none
  | _ => none

/-- The number with the digits of a binary64 number, which are finite in decimal notation. -/
def ofDouble : Double → ExactDecimal
  | .finite s n _ => finite s (n * Nat.pow 5 1074) (-1074)
  | .infinite s => infinite s
  | .nan _ => nan false 0

/-- The decimal number that is equal to a number. -/
def ofNumber (n : Number) : ExactDecimal :=
  match n.count with
  | .inl n => finite (n < 0) n.natAbs 0
  | .inr d => ofDouble d

/-- The numbers are equal. A NaN is equal to nothing, and zeros are equal whatever their signs. -/
def same : ExactDecimal → ExactDecimal → Bool
  | finite s c e, finite t d f => bare c e == bare d f && (s == t || c == 0)
  | infinite s, infinite t => s == t
  | _, _ => false

/-- Zeros at the end of the coefficient say the same as a greater exponent. -/
theorem bare_scaled (c k : Nat) (e : Int) : bare (c * Nat.pow 10 k) (e - k) = bare c e := by
  induction k generalizing c e with
  | zero => simp
  | succ k ih =>
    have hpow : c * Nat.pow 10 (k + 1) = c * 10 * Nat.pow 10 k := by
      rw [show Nat.pow 10 (k + 1) = Nat.pow 10 k * 10 from rfl, Nat.mul_comm (Nat.pow 10 k) 10,
        Nat.mul_assoc]
    rw [hpow, show e - ((k + 1 : Nat) : Int) = (e - 1) - k by omega, ih]
    by_cases hc : c = 0
    · subst hc
      simp [bare]
    · rw [bare, if_neg (by omega), if_pos (by omega), Nat.mul_div_cancel c (by omega),
        show e - 1 + 1 = e by omega]

end ExactDecimal

end FacetSearch

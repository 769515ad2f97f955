/-!
# Binary64 numbers

A finite number is a sign and a magnitude counted in units of `2 ^ -1074`, the least positive value
there is. Every magnitude is a whole number of units, so sums, comparisons and conversions are exact
arithmetic on natural numbers followed by one rounding, `Double.roundUnits`: to the nearest
magnitude, a tie going to the even one. Its law here is `roundUnits_steps`: what it answers has at
most 53 significant bits.
-/

namespace FacetSearch

namespace Double

/-- The number of units in one. -/
def one : Nat := Nat.pow 2 1074

/-- The least number of units that is too large for a finite number. -/
def tooLarge : Nat := Nat.pow 2 2098

/-- The least number with more than 53 bits. -/
def significandBound : Nat := 9007199254740992

/-- A magnitude has at most 53 significant bits and is below `2 ^ 1024`. -/
def IsMagnitude (units : Nat) : Prop :=
  units < tooLarge ∧ ∃ q k, q < significandBound ∧ units = q * Nat.pow 2 k

/-- The distance from `units` to the next magnitude above. -/
def step (units : Nat) : Nat := Nat.pow 2 (units.log2 - 52)

/-- The magnitude nearest to `num / den` units, a tie going to the one with the even significand;
too large a quotient is rounded as if there were no largest magnitude. -/
def roundUnits (num den : Nat) : Nat :=
  let ulp := step (num / den)
  let q := num / (den * ulp)
  let r := num % (den * ulp)
  if 2 * r < den * ulp ∨ (2 * r = den * ulp ∧ q % 2 = 0) then q * ulp else (q + 1) * ulp

theorem lt_mul_step (n : Nat) : n < significandBound * step n :=
  Nat.lt_of_lt_of_le Nat.lt_log2_self
    (Nat.le_trans (Nat.pow_le_pow_right (by decide) (by omega : n.log2 + 1 ≤ 53 + (n.log2 - 52)))
      (Nat.le_of_eq (Nat.pow_add 2 53 (n.log2 - 52))))

theorem step_pos (n : Nat) : 0 < step n := Nat.two_pow_pos _

theorem div_step_lt (num den : Nat) : num / (den * step (num / den)) < significandBound := by
  rw [← Nat.div_div_eq_div_mul]
  exact (Nat.div_lt_iff_lt_mul (step_pos _)).2 (lt_mul_step _)

/-- Rounding leaves at most 53 significant bits. -/
theorem roundUnits_steps (num den : Nat) :
    ∃ q k, q < significandBound ∧ roundUnits num den = q * Nat.pow 2 k := by
  have hq := div_step_lt num den
  simp only [roundUnits]
  split
  · exact ⟨_, _, hq, rfl⟩
  · by_cases h : num / (den * step (num / den)) + 1 < significandBound
    · exact ⟨_, _, h, rfl⟩
    · have h' : num / (den * step (num / den)) + 1 = 4503599627370496 * 2 := by
        unfold significandBound at h hq
        omega
      refine ⟨4503599627370496, ((num / den).log2 - 52) + 1, by decide, ?_⟩
      rw [h', Nat.mul_assoc]
      exact congrArg _ (Nat.pow_succ' (m := 2)).symm

end Double

/-- A binary64 number. A NaN carries a payload that tells it apart from other NaNs. -/
inductive Double where
  | finite (negative : Bool) (units : Nat) (isMagnitude : Double.IsMagnitude units)
  | infinite (negative : Bool)
  | nan (payload : Nat)
  deriving DecidableEq

namespace Double

theorem tooLarge_pos : 0 < tooLarge := by
  unfold tooLarge
  generalize 2098 = k
  exact Nat.two_pow_pos k

theorem isMagnitude_zero : IsMagnitude 0 := ⟨tooLarge_pos, 0, 0, by decide, rfl⟩

/-- Zero with a sign. -/
def zero (negative : Bool) : Double := .finite negative 0 isMagnitude_zero

instance : Inhabited Double := ⟨zero false⟩

/-- The number nearest to `num / den` units, if it is finite. -/
def ofUnits? (negative : Bool) (num den : Nat) : Option Double :=
  if h : roundUnits num den < tooLarge then
    some (.finite negative (roundUnits num den) ⟨h, roundUnits_steps num den⟩)
  else none

/-- The number nearest to `num / den` units; from `2 ^ 1024` upwards that is infinity. -/
def ofUnits (negative : Bool) (num den : Nat) : Double := (ofUnits? negative num den).getD (.infinite negative)

/-- The number nearest to an integer, unless that integer is too large for a finite number. -/
def ofInt? (n : Int) : Option Double := ofUnits? (n < 0) (n.natAbs * one) 1

/-- The number nearest to `mantissa * 10 ^ exponent`. An exponent beyond the range of all numbers is
not multiplied out. -/
def ofDecimal (negative : Bool) (mantissa : Nat) (exponent : Int) : Double :=
  if mantissa = 0 then zero negative
  else if exponent > 400 then .infinite negative
  else if exponent < -(400 + mantissa.log2 + 1) then zero negative
  else if 0 ≤ exponent then ofUnits negative (mantissa * Nat.pow 10 exponent.toNat * one) 1
  else ofUnits negative (mantissa * one) (Nat.pow 10 (-exponent).toNat)

/-- Neither infinite nor a NaN. -/
def isFinite : Double → Bool
  | .finite .. => true
  | _ => false

/-- A number of units with a sign. -/
def signed (negative : Bool) (units : Nat) : Int := if negative then -units else units

/-- The exact value of a finite number, in units. -/
def units? : Double → Option Int
  | .finite s n _ => some (signed s n)
  | _ => none

/-- The number with the opposite sign. -/
def neg : Double → Double
  | .finite s n h => .finite (!s) n h
  | .infinite s => .infinite (!s)
  | .nan p => .nan p

/-- The number without its sign. -/
def abs : Double → Double
  | .finite _ n h => .finite false n h
  | .infinite _ => .infinite false
  | .nan p => .nan p

/-- The sum of two numbers, rounded once. A sum of zero is negative only if both numbers are. -/
def add : Double → Double → Double
  | .nan p, _ => .nan p
  | _, .nan p => .nan p
  | .infinite s, .infinite t => if s = t then .infinite s else .nan 0
  | .infinite s, .finite .. => .infinite s
  | .finite .., .infinite t => .infinite t
  | .finite s m _, .finite t n _ =>
    let sum := signed s m + signed t n
    if sum = 0 then zero (s && t) else ofUnits (sum < 0) sum.natAbs 1

/-- How two numbers compare; a NaN compares with nothing. -/
def compare? : Double → Double → Option Ordering
  | .nan _, _ => none
  | _, .nan _ => none
  | .infinite s, .infinite t => some (if s = t then .eq else if s then .lt else .gt)
  | .infinite s, .finite .. => some (if s then .lt else .gt)
  | .finite .., .infinite t => some (if t then .gt else .lt)
  | .finite s m _, .finite t n _ => some (compare (signed s m) (signed t n))

/-- How a number compares with an integer, exactly. -/
def compareInt? (d : Double) (n : Int) : Option Ordering :=
  match d with
  | .nan _ => none
  | .infinite s => some (if s then .lt else .gt)
  | .finite s m _ => some (compare (signed s m) (n * one))

/-- The integer that a number is, if it is one. -/
def int? : Double → Option Int
  | .finite s n _ => if n % one = 0 then some (signed s (n / one)) else none
  | _ => none

/-- A finite number without its fraction. -/
def truncate? : Double → Option Int
  | .finite s n _ => some (signed s (n / one))
  | _ => none

end Double

end FacetSearch

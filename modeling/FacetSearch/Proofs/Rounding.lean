import FacetSearch.Number.Double
import Mathlib.Data.Nat.Log
import Mathlib.Tactic.Ring
/-!
# Rounding to binary64

A number of units is rounded to a magnitude, and no magnitude lies between the two: what is below a magnitude is rounded to
at most that magnitude (`Double.roundUnits_le`), what is above it to at least that magnitude (`Double.le_roundUnits`). So a
magnitude is rounded to itself, no other is nearer than the one that a number is rounded to (`Double.roundUnits_nearest`),
and rounding keeps the order of a sum and its first term (`Double.le_add`). An integer is rounded beyond all numbers exactly
from half a step above the greatest one on (`Double.ofInt?_eq_none_iff`).
-/

namespace FacetSearch.Double

/-! ## Magnitudes -/

/-- A number of units with at most 53 significant bits. -/
def HasSignificand (m : Nat) : Prop := ∃ q k, q < significandBound ∧ m = q * Nat.pow 2 k

/-- A magnitude is a multiple of the distance between the magnitudes around a number, or is below all numbers with that
distance. -/
theorem HasSignificand.step_dvd_or_lt {m : Nat} (hm : HasSignificand m) (num : Nat) :
    step num ∣ m ∨ (m < 2 ^ 52 * step num ∧ 2 ^ 52 * step num ≤ num) := by
  obtain ⟨q, k, hq, rfl⟩ := hm
  by_cases hk : num.log2 - 52 ≤ k
  · exact .inl (Dvd.dvd.mul_left (Nat.pow_dvd_pow 2 hk) q)
  · have hlog : num.log2 = 52 + (num.log2 - 52) := by omega
    have hnum : num ≠ 0 := by
      rintro rfl
      simp at hk
    right
    constructor
    · calc q * Nat.pow 2 k < 2 ^ 53 * 2 ^ k := Nat.mul_lt_mul_of_pos_right hq (Nat.two_pow_pos k)
        _ = 2 ^ 52 * 2 ^ (k + 1) := by ring
        _ ≤ 2 ^ 52 * 2 ^ (num.log2 - 52) := Nat.mul_le_mul_left _ (Nat.pow_le_pow_right (by decide) (by omega))
    · calc 2 ^ 52 * 2 ^ (num.log2 - 52) = 2 ^ num.log2 := by rw [← Nat.pow_add, ← hlog]
        _ ≤ num := Nat.log2_self_le hnum

/-- A magnitude below a number is at most the multiple below it. -/
theorem HasSignificand.le_below {m num : Nat} (hm : HasSignificand m) (h : m ≤ num) : m ≤ num / step num * step num := by
  rcases hm.step_dvd_or_lt num with ⟨c, rfl⟩ | ⟨hbelow, hnum⟩
  · rw [Nat.mul_comm (step num)] at h ⊢
    exact Nat.mul_le_mul_right _ ((Nat.le_div_iff_mul_le (step_pos num)).2 h)
  · have hq : 2 ^ 52 ≤ num / step num := (Nat.le_div_iff_mul_le (step_pos num)).2 hnum
    exact Nat.le_trans (Nat.le_of_lt hbelow) (Nat.mul_le_mul_right _ hq)

/-- A magnitude above a number that is no multiple is at least the next one. -/
theorem HasSignificand.above_le {m num : Nat} (hm : HasSignificand m) (h : num ≤ m) (hmod : 0 < num % step num) :
    (num / step num + 1) * step num ≤ m := by
  have hdiv := Nat.div_add_mod' num (step num)
  rcases hm.step_dvd_or_lt num with ⟨c, rfl⟩ | ⟨hbelow, hnum⟩
  · have hc : num / step num < c := by
      refine Nat.lt_of_mul_lt_mul_right (a := step num) ?_
      rw [Nat.mul_comm c]
      omega
    rw [Nat.mul_comm (step num)]
    exact Nat.mul_le_mul_right _ hc
  · omega

/-- A number is rounded down to a multiple of the distance, or up to the next one, whichever is nearer. -/
theorem roundUnits_cases (num : Nat) :
    (roundUnits num 1 = num / step num * step num ∧ 2 * (num % step num) ≤ step num) ∨
      (roundUnits num 1 = (num / step num + 1) * step num ∧ step num ≤ 2 * (num % step num)) := by
  unfold roundUnits
  simp only [Nat.div_one, Nat.one_mul]
  split
  · rename_i hdown
    exact .inl ⟨rfl, by omega⟩
  · rename_i hup
    exact .inr ⟨rfl, by omega⟩

theorem roundUnits_le {num m : Nat} (hm : HasSignificand m) (h : num ≤ m) : roundUnits num 1 ≤ m := by
  have hpos := step_pos num
  rcases roundUnits_cases num with ⟨hround, -⟩ | ⟨hround, hmod⟩
  · rw [hround]
    exact Nat.le_trans (Nat.div_mul_le_self num (step num)) h
  · rw [hround]
    exact hm.above_le h (by omega)

theorem le_roundUnits {num m : Nat} (hm : HasSignificand m) (h : m ≤ num) : m ≤ roundUnits num 1 := by
  have hbelow := hm.le_below h
  rcases roundUnits_cases num with ⟨hround, -⟩ | ⟨hround, -⟩
  · rwa [hround]
  · rw [hround]
    exact Nat.le_trans hbelow (Nat.mul_le_mul_right _ (Nat.le_succ _))

/-- No magnitude is nearer to a number than what it is rounded to. -/
theorem roundUnits_nearest {m : Nat} (hm : HasSignificand m) (num : Nat) :
    ((num : Int) - roundUnits num 1).natAbs ≤ ((num : Int) - m).natAbs := by
  have hpos := step_pos num
  have hdiv := Nat.div_add_mod' num (step num)
  have hmod := Nat.mod_lt num hpos
  have hsucc := Nat.add_one_mul (num / step num) (step num)
  rcases Nat.le_total m num with h | h
  · have hbelow := hm.le_below h
    rcases roundUnits_cases num with ⟨hround, hhalf⟩ | ⟨hround, hhalf⟩ <;> omega
  · rcases Nat.eq_zero_or_pos (num % step num) with hzero | hmodpos
    · have hround := roundUnits_cases num
      omega
    · have habove := hm.above_le h hmodpos
      rcases roundUnits_cases num with ⟨hround, hhalf⟩ | ⟨hround, hhalf⟩ <;> omega

/-- A magnitude is rounded to itself. -/
theorem roundUnits_eq {m : Nat} (hm : HasSignificand m) : roundUnits m 1 = m :=
  Nat.le_antisymm (roundUnits_le hm (Nat.le_refl m)) (le_roundUnits hm (Nat.le_refl m))

/-! ## Numbers with a sign -/

/-- The number of units that a number of units with a sign is rounded to. -/
def roundSigned (k : Int) : Int := signed (k < 0) (roundUnits k.natAbs 1)

theorem roundSigned_of_neg {k : Int} (h : k < 0) : roundSigned k = -(roundUnits k.natAbs 1 : Int) := by
  rw [roundSigned, decide_eq_true h]
  rfl

theorem roundSigned_of_nonneg {k : Int} (h : 0 ≤ k) : roundSigned k = roundUnits k.natAbs 1 := by
  rw [roundSigned, decide_eq_false (by omega)]
  rfl

theorem roundSigned_le {k m : Int} (hm : HasSignificand m.natAbs) (h : k ≤ m) : roundSigned k ≤ m := by
  rcases Int.lt_or_le k 0 with hk | hk
  · rw [roundSigned_of_neg hk]
    rcases Int.lt_or_le m 0 with hneg | hnonneg
    · have := le_roundUnits hm (show m.natAbs ≤ k.natAbs by omega)
      omega
    · omega
  · rw [roundSigned_of_nonneg hk]
    have := roundUnits_le hm (show k.natAbs ≤ m.natAbs by omega)
    omega

theorem le_roundSigned {k m : Int} (hm : HasSignificand m.natAbs) (h : m ≤ k) : m ≤ roundSigned k := by
  rcases Int.lt_or_le k 0 with hk | hk
  · rw [roundSigned_of_neg hk]
    have := roundUnits_le hm (show k.natAbs ≤ m.natAbs by omega)
    omega
  · rw [roundSigned_of_nonneg hk]
    rcases Int.lt_or_le m 0 with hneg | hnonneg
    · omega
    · have := le_roundUnits hm (show m.natAbs ≤ k.natAbs by omega)
      omega

/-- Nothing with at most 53 significant bits is nearer to a number than what it is rounded to. -/
theorem roundSigned_nearest {m : Int} (hm : HasSignificand m.natAbs) (k : Int) :
    (k - roundSigned k).natAbs ≤ (k - m).natAbs := by
  have hnearest := roundUnits_nearest hm k.natAbs
  have hzero := roundUnits_nearest (m := 0) ⟨0, 0, by decide, rfl⟩ k.natAbs
  rcases Int.lt_or_le k 0 with hk | hk
  · rw [roundSigned_of_neg hk]
    omega
  · rw [roundSigned_of_nonneg hk]
    omega

theorem roundSigned_eq {m : Int} (hm : HasSignificand m.natAbs) : roundSigned m = m :=
  Int.le_antisymm (roundSigned_le hm (Int.le_refl m)) (le_roundSigned hm (Int.le_refl m))

/-! ## Binary64 numbers -/

theorem natAbs_signed (negative : Bool) (m : Nat) : (signed negative m).natAbs = m := by
  cases negative <;> simp [signed]

theorem hasSignificand_of_units? {d : Double} {u : Int} (h : d.units? = some u) : HasSignificand u.natAbs := by
  cases d with
  | finite negative m hm =>
    obtain rfl := Option.some.inj h
    rw [natAbs_signed]
    exact hm.2
  | _ => cases h

theorem units?_ofUnits? {negative : Bool} {num : Nat} {d : Double} (h : ofUnits? negative num 1 = some d) :
    d.units? = some (signed negative (roundUnits num 1)) := by
  unfold ofUnits? at h
  split at h
  · obtain rfl := Option.some.inj h
    rfl
  · cases h

theorem intCast_one_pos : (0 : Int) < one := by
  unfold one
  generalize 1074 = k
  exact Int.natCast_pos.2 (Nat.two_pow_pos k)

/-- The number that is nearest to an integer. -/
theorem units?_ofInt? {n : Int} {d : Double} (h : ofInt? n = some d) : d.units? = some (roundSigned (n * one)) := by
  have hneg : (n * one < 0) ↔ n < 0 := by
    constructor
    · intro hlt
      by_contra hn
      exact absurd hlt (Int.not_lt.2 (Int.mul_nonneg (Int.not_lt.1 hn) intCast_one_pos.le))
    · exact fun hn => Int.mul_neg_of_neg_of_pos hn intCast_one_pos
  rw [units?_ofUnits? h, roundSigned, decide_eq_decide.2 hneg, Int.natAbs_mul, Int.natAbs_natCast]

/-- The sum of two numbers is their exact sum, rounded. -/
theorem units?_add {d e : Double} {a b r : Int} (hd : d.units? = some a) (he : e.units? = some b)
    (h : (d.add e).units? = some r) : r = roundSigned (a + b) := by
  cases d with
  | finite s m hm =>
    cases e with
    | finite t n hn =>
      obtain rfl := Option.some.inj hd
      obtain rfl := Option.some.inj he
      rw [add] at h
      split at h
      · rename_i hzero
        rw [hzero]
        obtain rfl := Option.some.inj h
        have hround : roundUnits 0 1 = 0 := roundUnits_eq ⟨0, 0, by decide, rfl⟩
        cases s <;> cases t <;> simp [roundSigned, signed, hround]
      · unfold ofUnits at h
        cases hsum : ofUnits? (decide (signed s m + signed t n < 0)) (signed s m + signed t n).natAbs 1 with
        | none =>
          rw [hsum] at h
          cases h
        | some d =>
          rw [hsum, Option.getD_some, units?_ofUnits? hsum] at h
          exact (Option.some.inj h).symm
    | _ => cases he
  | _ => cases hd

section

variable {d e : Double} {a b r : Int} (hd : d.units? = some a) (he : e.units? = some b)
  (h : (d.add e).units? = some r)

include hd he h

theorem add_le (hb : b ≤ 0) : r ≤ a := by
  rw [units?_add hd he h]
  exact roundSigned_le (hasSignificand_of_units? hd) (by omega)

theorem le_add (hb : 0 ≤ b) : a ≤ r := by
  rw [units?_add hd he h]
  exact le_roundSigned (hasSignificand_of_units? hd) (by omega)

end

/-! ## Integers beyond all numbers -/

/-- The last half step below a power of two. -/
theorem step_eq_of_le {num k s : Nat} (hs : s = Nat.pow 2 k) (hlow : (2 * significandBound - 1) * s ≤ num)
    (hhigh : num < 2 * significandBound * s) : step num = 2 * s := by
  have hpos : 0 < s := Nat.pos_of_mul_pos_left (Nat.zero_lt_of_lt hhigh)
  have hlog : num.log2 = 53 + k := by
    refine (Nat.log2_eq_iff ?_).2 ⟨?_, ?_⟩
    · unfold significandBound at hlow
      omega
    · calc 2 ^ (53 + k) = significandBound * s := hs ▸ Nat.pow_add 2 53 k
        _ ≤ (2 * significandBound - 1) * s := Nat.mul_le_mul_right s (by decide)
        _ ≤ num := hlow
    · calc num < 2 * significandBound * s := hhigh
        _ = 2 ^ (54 + k) := hs ▸ (Nat.pow_add 2 54 k).symm
        _ = 2 ^ (53 + k + 1) := congrArg _ (by omega)
  rw [step, hlog, show 53 + k - 52 = k + 1 by omega, hs]
  exact Nat.pow_succ'

/-- What is at most half a step below a power of two is rounded to it or beyond: the half step itself as well, because
the significand below the power is odd. -/
theorem le_roundUnits_iff (num k : Nat) :
    2 * significandBound * Nat.pow 2 k ≤ roundUnits num 1 ↔ (2 * significandBound - 1) * Nat.pow 2 k ≤ num := by
  have hpower : HasSignificand (2 * significandBound * Nat.pow 2 k) := by
    refine ⟨1, 54 + k, by decide, ?_⟩
    rw [Nat.one_mul]
    exact (Nat.pow_add 2 54 k).symm
  have hbelow : HasSignificand ((significandBound - 1) * (2 * Nat.pow 2 k)) :=
    ⟨significandBound - 1, k + 1, by decide, congrArg _ Nat.pow_succ'.symm⟩
  constructor
  · intro h
    have hnearest := roundUnits_nearest hbelow num
    generalize Nat.pow 2 k = s at *
    unfold significandBound at *
    omega
  · intro h
    rcases Nat.lt_or_ge num (2 * significandBound * Nat.pow 2 k) with hhigh | hhigh
    · have hstep := step_eq_of_le rfl h hhigh
      generalize Nat.pow 2 k = s at *
      have hquotient : num / (2 * s) = significandBound - 1 := by
        unfold significandBound at *
        exact Nat.div_eq_of_lt_le (by omega) (by omega)
      have hdiv := Nat.div_add_mod num (2 * s)
      unfold roundUnits
      simp only [Nat.div_one, Nat.one_mul, hstep, hquotient] at hdiv ⊢
      unfold significandBound at *
      rw [if_neg (by omega)]
      omega
    · exact le_roundUnits hpower hhigh

/-- The least size of integers that are rounded beyond all numbers: half a step above the greatest one. -/
def overflowBound : Nat := (2 * significandBound - 1) * Nat.pow 2 970

-- the exponents are made variables, so that no power is evaluated

theorem tooLarge_eq : tooLarge = 2 * significandBound * Nat.pow 2 2044 := by
  unfold tooLarge
  generalize hk : 2044 = k
  generalize hc : 2098 = c
  obtain rfl : c = 54 + k := by omega
  exact Nat.pow_add 2 54 k

theorem overflowBound_mul_one : overflowBound * one = (2 * significandBound - 1) * Nat.pow 2 2044 := by
  unfold overflowBound one
  generalize ha : 970 = a
  generalize hb : 1074 = b
  generalize hc : 2044 = c
  obtain rfl : c = a + b := by omega
  rw [Nat.mul_assoc]
  exact congrArg _ (Nat.pow_add 2 a b).symm

theorem ofUnits?_eq_none_iff {negative : Bool} {num den : Nat} :
    ofUnits? negative num den = none ↔ tooLarge ≤ roundUnits num den := by
  unfold ofUnits?
  split <;> simp_all

theorem ofInt?_eq_none_iff {n : Int} : ofInt? n = none ↔ overflowBound ≤ n.natAbs := by
  have hone : 0 < one := Int.natCast_pos.1 intCast_one_pos
  obtain ⟨k, htop, hbound⟩ : ∃ k, tooLarge = 2 * significandBound * Nat.pow 2 k ∧
      overflowBound * one = (2 * significandBound - 1) * Nat.pow 2 k := ⟨2044, tooLarge_eq, overflowBound_mul_one⟩
  rw [ofInt?, ofUnits?_eq_none_iff, htop, le_roundUnits_iff, ← hbound]
  exact Nat.mul_le_mul_right_iff hone

end FacetSearch.Double

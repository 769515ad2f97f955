import FacetSearch.Number.Shortest
import FacetSearch.Proofs.ExactValues
import Mathlib.Algebra.Order.Field.Power
import Mathlib.Data.Rat.Cast.Order
import Mathlib.Tactic.FieldSimp
import Mathlib.Tactic.Linarith
/-!
# The shortest decimal lies near its magnitude

The decimal that is found for a magnitude lies between the ends of the interval of what is rounded to it
(`Double.holds_shortest`): on the grid of decimals with seventeen digits, which is finer than that of magnitudes, one of the
two neighbours does. The intervals of two magnitudes have no number in common (`Double.Rounding.Holds.unique`), since where
they meet one of them is without its ends. So no two magnitudes have the same shortest decimal.
-/

namespace FacetSearch

/-! ## Comparisons -/

namespace Decimal

/-- The number of quarter units that a decimal is. -/
def quarters (d : Decimal) : ℚ := d.digits * 10 ^ d.exponent * (4 * Double.one)

theorem againstQuarters_eq (d : Decimal) (q : Nat) : ∃ scale : ℚ, 0 < scale ∧
    ((d.againstQuarters q).1 : ℚ) = d.quarters * scale ∧ ((d.againstQuarters q).2 : ℚ) = q * scale := by
  unfold againstQuarters quarters
  generalize Double.one = one
  split
  · rename_i h
    refine ⟨1, one_pos, ?_, by rw [mul_one]⟩
    rw [mul_one, ← Int.toNat_of_nonneg h, zpow_natCast]
    simp only [Nat.pow_eq, Nat.cast_mul, Nat.cast_pow, Nat.cast_ofNat, Int.toNat_natCast]
  · rename_i h
    refine ⟨10 ^ (-d.exponent).toNat, pow_pos (by norm_num) _, ?_, ?_⟩
    rotate_left
    · simp only [Nat.pow_eq, Nat.cast_mul, Nat.cast_pow, Nat.cast_ofNat]
    have hexp : d.exponent = -((-d.exponent).toNat : Int) := by omega
    have hne : (10 : ℚ) ^ (-d.exponent).toNat ≠ 0 := pow_ne_zero _ (by norm_num)
    rw [hexp, zpow_neg, zpow_natCast, Int.neg_neg, Int.toNat_natCast]
    simp only [Nat.cast_mul, Nat.cast_ofNat]
    field_simp

theorem atLeastQuarters_iff {d : Decimal} {q : Nat} {inclusive : Bool} :
    d.atLeastQuarters q inclusive = true ↔ (q : ℚ) < d.quarters ∨ inclusive = true ∧ (q : ℚ) = d.quarters := by
  obtain ⟨scale, hscale, ha, hb⟩ := d.againstQuarters_eq q
  have hlt : (d.againstQuarters q).2 < (d.againstQuarters q).1 ↔ (q : ℚ) < d.quarters := by
    rw [← Nat.cast_lt (α := ℚ), ha, hb, mul_lt_mul_iff_of_pos_right hscale]
  have heq : (d.againstQuarters q).1 = (d.againstQuarters q).2 ↔ (q : ℚ) = d.quarters := by
    rw [← Nat.cast_inj (R := ℚ), ha, hb, mul_left_inj' hscale.ne', eq_comm]
  simp only [atLeastQuarters, Bool.or_eq_true, Bool.and_eq_true, decide_eq_true_eq, beq_iff_eq, hlt, heq]

theorem atMostQuarters_iff {d : Decimal} {q : Nat} {inclusive : Bool} :
    d.atMostQuarters q inclusive = true ↔ d.quarters < q ∨ inclusive = true ∧ d.quarters = q := by
  obtain ⟨scale, hscale, ha, hb⟩ := d.againstQuarters_eq q
  have hlt : (d.againstQuarters q).1 < (d.againstQuarters q).2 ↔ d.quarters < q := by
    rw [← Nat.cast_lt (α := ℚ), ha, hb, mul_lt_mul_iff_of_pos_right hscale]
  have heq : (d.againstQuarters q).1 = (d.againstQuarters q).2 ↔ d.quarters = q := by
    rw [← Nat.cast_inj (R := ℚ), ha, hb, mul_left_inj' hscale.ne']
  simp only [atMostQuarters, Bool.or_eq_true, Bool.and_eq_true, decide_eq_true_eq, beq_iff_eq, hlt, heq]

end Decimal

namespace Double

/-- A number of quarter units lies in the interval. -/
structure Rounding.Holds (r : Rounding) (x : ℚ) : Prop where
  low : (r.low : ℚ) < x ∨ r.inclusive = true ∧ (r.low : ℚ) = x
  high : x < r.high ∨ r.inclusive = true ∧ x = r.high

theorem Rounding.contains_iff {r : Rounding} {d : Decimal} : r.contains d = true ↔ r.Holds d.quarters := by
  rw [contains, Bool.and_eq_true, Decimal.atLeastQuarters_iff, Decimal.atMostQuarters_iff]
  exact ⟨fun ⟨h, h'⟩ => ⟨h, h'⟩, fun ⟨h, h'⟩ => ⟨h, h'⟩⟩

/-! ## The intervals of two magnitudes -/

/-- A magnitude is a multiple of the distance to the next one. -/
theorem HasSignificand.step_dvd {m : Nat} (hm : HasSignificand m) : step m ∣ m := by
  rcases hm.step_dvd_or_lt m with h | ⟨hlt, hle⟩
  · exact h
  · omega

/-- The distance to the next magnitude is that for all smaller numbers, or it is at least twice as great and there are 53 bits. -/
theorem step_eq_or_lt {m n : Nat} (h : m ≤ n) :
    step n = step m ∨ ∃ w, 0 < w ∧ step n = 2 * (step m * w) ∧ 52 < n.log2 ∧ 2 ^ n.log2 = 2 ^ 52 * step n := by
  have hlog : m.log2 ≤ n.log2 := by
    rw [Nat.log2_eq_log_two, Nat.log2_eq_log_two]
    exact Nat.log_mono_right h
  unfold step
  rcases Nat.eq_or_lt_of_le (Nat.sub_le_sub_right hlog 52) with heq | hlt
  · exact .inl (by rw [heq])
  · obtain ⟨k, hk⟩ := Nat.exists_eq_add_of_lt hlt
    refine .inr ⟨2 ^ k, Nat.two_pow_pos k, ?_, by omega, ?_⟩
    · rw [hk]
      simp only [Nat.pow_eq]
      ring
    · simp only [Nat.pow_eq]
      rw [← Nat.pow_add]
      congr 1
      omega

theorem le_rounding_low (m : Nat) : 4 * m - 2 * step m ≤ (rounding m).low := by
  unfold rounding
  dsimp only
  split <;> omega

/-- Below a power of two the distance is half as great. -/
theorem rounding_low_of_pow {m : Nat} (h : m = 2 ^ m.log2) (hlog : 52 < m.log2) :
    (rounding m).low = 4 * m - step m := by
  unfold rounding
  dsimp only
  rw [if_pos ⟨h, hlog⟩]

theorem inclusive_rounding_iff {m q : Nat} (hq : m = step m * q) : (rounding m).inclusive = true ↔ q % 2 = 0 := by
  have hquotient : m / step m = q := Nat.div_eq_of_eq_mul_right (step_pos m) hq
  simp only [rounding, hquotient, decide_eq_true_eq]

/-- The interval of a magnitude ends in front of that of another one, or they meet and not both have even significands. -/
def Apart (m q n p : Nat) : Prop :=
  (rounding m).high < (rounding n).low ∨ (rounding m).high = (rounding n).low ∧ ¬ (q % 2 = 0 ∧ p % 2 = 0)

theorem rounding_high (m : Nat) : (rounding m).high = 4 * m + 2 * step m := rfl

/-- Of multiples of one distance, neighbours are an even one and an odd one. -/
theorem apart_of_step_eq {m q n p : Nat} (hq : m = step m * q) (hp : n = step n * p) (hmn : m < n)
    (heq : step n = step m) : Apart m q n p := by
  have hlow := le_rounding_low n
  rw [heq] at hp hlow
  rw [Apart, rounding_high]
  have hqp : q < p := by
    refine Nat.lt_of_mul_lt_mul_left (a := step m) ?_
    rwa [← hq, ← hp]
  obtain ⟨j, rfl⟩ := Nat.exists_eq_add_of_lt hqp
  have hn : n = m + step m * j + step m := by
    rw [hp, Nat.mul_add, Nat.mul_add, Nat.mul_one, ← hq]
  rcases Nat.eq_zero_or_pos j with rfl | hj
  · rw [Nat.mul_zero] at hn
    omega
  · have := Nat.mul_le_mul_left (step m) hj
    have := step_pos m
    omega

/-- A magnitude has at most 53 bits, and the greatest of them is odd. -/
theorem le_greatest {m q : Nat} (hq : m = step m * q) :
    m ≤ (2 ^ 53 - 1) * step m ∧ (m = (2 ^ 53 - 1) * step m → q % 2 = 1) := by
  have hlt : m < 2 ^ 53 * step m := lt_mul_step m
  have hq' : q < 2 ^ 53 := Nat.lt_of_mul_lt_mul_left (a := step m) (by rw [← hq, Nat.mul_comm]; exact hlt)
  rw [Nat.mul_comm] at hq
  constructor
  · calc m = q * step m := hq
      _ ≤ (2 ^ 53 - 1) * step m := Nat.mul_le_mul_right _ (by omega)
  · intro h
    have := Nat.eq_of_mul_eq_mul_right (step_pos m) (hq.symm.trans h)
    omega

/-- A magnitude with a greater distance is the power of two behind the 53 bits, or comes after it. -/
theorem apart_of_step_lt {m q n p w : Nat} (hq : m = step m * q) (hp : n = step n * p) (hw : 0 < w)
    (hstep : step n = 2 * (step m * w)) (hlog : 52 < n.log2) (hpow : 2 ^ n.log2 = 2 ^ 52 * step n) : Apart m q n p := by
  have hlow := le_rounding_low n
  have hpos := step_pos m
  have hw' := Nat.mul_le_mul_left (step m) hw
  obtain ⟨hgreatest, hodd⟩ := le_greatest hq
  have hne : n ≠ 0 := by
    rintro rfl
    exact absurd hlog (by decide)
  have hge : 2 ^ 52 * step n ≤ n := hpow ▸ Nat.log2_self_le hne
  rw [Apart, rounding_high]
  by_cases hpower : n = 2 ^ n.log2
  · rw [rounding_low_of_pow hpower hlog]
    rw [← hpower] at hpow
    rcases Nat.eq_or_lt_of_le (show 4 * m + 2 * step m ≤ 4 * n - step n by omega) with hmeet | hmeet
    · have := hodd (by omega)
      exact .inr ⟨hmeet, fun h => by omega⟩
    · exact .inl hmeet
  · have hlt : 2 ^ 52 < p := by
      refine Nat.lt_of_mul_lt_mul_left (a := step n) ?_
      rw [← hp, Nat.mul_comm]
      omega
    have hnext := Nat.mul_le_mul_left (step n) hlt
    rw [← hp, Nat.mul_succ, Nat.mul_comm] at hnext
    omega

/-- Where the intervals of two magnitudes meet, one of them is without its ends. -/
theorem rounding_apart {m n : Nat} (hm : HasSignificand m) (hn : HasSignificand n) (hmn : m < n) :
    (rounding m).high < (rounding n).low ∨
      (rounding m).high = (rounding n).low ∧ ¬ ((rounding m).inclusive = true ∧ (rounding n).inclusive = true) := by
  obtain ⟨q, hq⟩ := hm.step_dvd
  obtain ⟨p, hp⟩ := hn.step_dvd
  rw [inclusive_rounding_iff hq, inclusive_rounding_iff hp]
  rcases step_eq_or_lt hmn.le with heq | ⟨w, hw, hstep, hlog, hpow⟩
  · exact apart_of_step_eq hq hp hmn heq
  · exact apart_of_step_lt hq hp hw hstep hlog hpow

/-- The intervals of two magnitudes have no number in common. -/
theorem Rounding.Holds.unique {m n : Nat} (hm : HasSignificand m) (hn : HasSignificand n) {x : ℚ}
    (hmx : (rounding m).Holds x) (hnx : (rounding n).Holds x) : m = n := by
  have hnot : ∀ {m n : Nat}, HasSignificand m → HasSignificand n → (rounding m).Holds x → (rounding n).Holds x → ¬ m < n := by
    intro m n hm hn hmx hnx hmn
    have hle : x ≤ (rounding m).high := hmx.high.elim le_of_lt fun h => h.2.le
    have hge : ((rounding n).low : ℚ) ≤ x := hnx.low.elim le_of_lt fun h => h.2.le
    rcases rounding_apart hm hn hmn with hlt | ⟨heq, hends⟩
    · have : ((rounding m).high : ℚ) < (rounding n).low := Nat.cast_lt.2 hlt
      linarith
    · rw [heq] at hle
      have hx : x = (rounding n).low := le_antisymm hle hge
      refine hends ⟨?_, ?_⟩
      · exact (hmx.high.resolve_left (by rw [heq, hx]; exact lt_irrefl _)).1
      · exact (hnx.low.resolve_left (by rw [hx]; exact lt_irrefl _)).1
  rcases Nat.lt_trichotomy m n with h | h | h
  · exact absurd h (hnot hm hn hmx hnx)
  · exact h
  · exact absurd h (hnot hn hm hnx hmx)

/-! ## Seventeen digits -/

/-- A number is between the multiples of a divisor. -/
theorem cast_div_bounds (a : Nat) {b : Nat} (hb : 0 < b) :
    ((a / b : Nat) : ℚ) * b ≤ a ∧ (a : ℚ) < (a / b : Nat) * b + b := by
  have hle : a / b * b ≤ a := Nat.div_mul_le_self a b
  have hlt : a < a / b * b + b := by
    have := Nat.lt_mul_of_div_lt (Nat.lt_succ_self (a / b)) hb
    rwa [Nat.succ_mul] at this
  exact ⟨by exact_mod_cast hle, by exact_mod_cast hlt⟩

/-- The neighbours on a grid of decimals are around the number. -/
theorem quarters_floorAt (m : Nat) (e : Int) :
    (floorAt m e).quarters ≤ 4 * m ∧ (4 * m : ℚ) < (floorAt m e).quarters + 4 * (10 ^ e * one) := by
  have one_pos := one_pos
  unfold floorAt Decimal.quarters
  generalize one = one at *
  split
  · rename_i he
    obtain ⟨k, rfl⟩ := Int.eq_ofNat_of_zero_le he
    obtain ⟨hle, hlt⟩ := cast_div_bounds m (Nat.mul_pos one_pos (Nat.pow_pos (n := k) (show 0 < 10 by decide)))
    simp only [Int.toNat_natCast, zpow_natCast, Nat.pow_eq, Nat.cast_mul, Nat.cast_pow, Nat.cast_ofNat] at hle hlt ⊢
    constructor <;> linarith
  · rename_i he
    obtain ⟨k, hk⟩ : ∃ k : Nat, e = -(k : Int) := ⟨(-e).toNat, by omega⟩
    subst hk
    have hpow : (0 : ℚ) < 10 ^ k := pow_pos (by norm_num) k
    obtain ⟨hle, hlt⟩ := cast_div_bounds (m * Nat.pow 10 k) one_pos
    simp only [Int.neg_neg, Int.toNat_natCast, zpow_neg, zpow_natCast, Nat.pow_eq, Nat.cast_mul, Nat.cast_pow,
      Nat.cast_ofNat] at hle hlt ⊢
    constructor
    · rw [← mul_le_mul_iff_of_pos_right hpow]
      field_simp
      linarith
    · rw [← mul_lt_mul_iff_of_pos_right hpow]
      field_simp
      linarith

theorem rounding_low_cases (m : Nat) : (rounding m).low = 4 * m - 2 * step m ∨
    (rounding m).low = 4 * m - step m ∧ m = 2 ^ 52 * step m := by
  unfold rounding
  dsimp only
  split
  · rename_i h
    have hstep : 2 ^ 52 * step m = 2 ^ m.log2 := by
      unfold step
      simp only [Nat.pow_eq]
      rw [← Nat.pow_add]
      congr 1
      omega
    exact .inr ⟨rfl, by rw [hstep]; exact h.1⟩
  · exact .inl rfl

/-- On a grid that has sixteen more digits than a number, one of the neighbours is rounded to the number. -/
theorem exists_nearestAt? {m : Nat} (hm : 0 < m) {e : Int} (h : (10 : ℚ) ^ 16 * (10 ^ e * one) ≤ m) :
    ∃ d, nearestAt? m e = some d := by
  obtain ⟨hlower, hupper⟩ := quarters_floorAt m e
  have hspacing : (⟨(floorAt m e).digits + 1, e⟩ : Decimal).quarters = (floorAt m e).quarters + 4 * (10 ^ e * one) := by
    have hexponent : (floorAt m e).exponent = e := by
      unfold floorAt
      split <;> rfl
    simp only [Decimal.quarters, hexponent, Nat.cast_add, Nat.cast_one]
    ring
  generalize (10 : ℚ) ^ e * one = spacing at h hupper hspacing
  have hstep : (0 : ℚ) < step m := Nat.cast_pos.2 (step_pos m)
  have hle : step m ≤ m := step_le hm.ne'
  have hbits : (m : ℚ) < 2 ^ 53 * step m := by exact_mod_cast lt_mul_step m
  have hhigh : ((rounding m).high : ℚ) = 4 * m + 2 * step m := by
    simp only [rounding, Nat.cast_add, Nat.cast_mul, Nat.cast_ofNat]
  have hcontains : (rounding m).contains (floorAt m e) = true ∨
      (rounding m).contains ⟨(floorAt m e).digits + 1, e⟩ = true := by
    rw [Rounding.contains_iff, Rounding.contains_iff, hspacing]
    by_cases hnear : (floorAt m e).quarters + 4 * spacing < 4 * m + 2 * step m
    · refine .inr ⟨.inl ?_, .inl (by rwa [hhigh])⟩
      have hlow : ((rounding m).low : ℚ) ≤ 4 * m := by
        have : (rounding m).low ≤ 4 * m := Nat.sub_le _ _
        exact_mod_cast this
      linarith
    · -- the upper neighbour is too far away, so the lower one is near
      refine .inl ⟨.inl ?_, .inl (by rw [hhigh]; linarith)⟩
      rcases rounding_low_cases m with hlow | ⟨-, hpower⟩
      · rw [hlow, Nat.cast_sub (by omega)]
        push_cast
        norm_num at h hbits
        linarith
      · have hpower : (m : ℚ) = 2 ^ 52 * step m := by exact_mod_cast hpower
        norm_num at h hpower
        linarith
  unfold nearestAt?
  dsimp only
  rcases hcontains with hc | hc <;> rw [hc] <;> split <;> first | exact ⟨_, rfl⟩ | simp_all

theorem contains_of_nearestAt? {m : Nat} {e : Int} {d : Decimal} (h : nearestAt? m e = some d) :
    (rounding m).contains d = true := by
  unfold nearestAt? at h
  dsimp only at h
  split at h <;> rename_i hlower hupper
  · cases h
  · obtain rfl := Option.some.inj h
    exact hlower
  · obtain rfl := Option.some.inj h
    exact hupper
  · obtain rfl := Option.some.inj h
    split
    · exact hlower
    · exact hupper

theorem one_le_ten_pow {k : Nat} (h : 1074 ≤ 3 * k) : one ≤ Nat.pow 10 k := by
  unfold one
  generalize 1074 = j at h ⊢
  calc 2 ^ j ≤ 2 ^ (3 * k) := Nat.pow_le_pow_right (by decide) h
    _ = 8 ^ k := by rw [Nat.pow_mul]
    _ ≤ 10 ^ k := Nat.pow_le_pow_left (by decide) k

/-- Digits of a number that is shifted by so many places count the digits in front of its point. -/
theorem pow_length_le {m k : Nat} (hm : 0 < m) (hk : one ≤ Nat.pow 10 k) :
    (10 : ℚ) ^ (((Nat.toDigits 10 (m * Nat.pow 10 k / one)).length : Int) - k - 1) * one ≤ m := by
  set n := m * Nat.pow 10 k / one with hn
  have hpos : 0 < n := Nat.div_pos (Nat.le_trans hk (Nat.le_mul_of_pos_left _ hm)) one_pos
  have hlength := List.length_pos_of_ne_nil (Nat.toDigits_ne_nil (b := 10) (n := n))
  have hdigits : 10 ^ ((Nat.toDigits 10 n).length - 1) ≤ n := by
    rcases Nat.eq_zero_or_pos ((Nat.toDigits 10 n).length - 1) with h | h
    · rw [h]
      exact hpos
    · have := mt (Nat.length_toDigits_le_iff (b := 10) (n := n) (by decide) h).2 (by omega)
      omega
  have hle : 10 ^ ((Nat.toDigits 10 n).length - 1) * one ≤ m * Nat.pow 10 k :=
    Nat.le_trans (Nat.mul_le_mul_right _ hdigits) (Nat.div_mul_le_self _ _)
  have hcast : (10 : ℚ) ^ ((Nat.toDigits 10 n).length - 1) * one ≤ m * 10 ^ k := by exact_mod_cast hle
  rw [show ((Nat.toDigits 10 n).length : Int) - k - 1 = (((Nat.toDigits 10 n).length - 1 : Nat) : Int) - k by omega,
    zpow_sub₀ (by norm_num), zpow_natCast, zpow_natCast, div_mul_eq_mul_div, div_le_iff₀ (by positivity)]
  exact hcast

theorem pow_decimalExponent_le {m : Nat} (hm : 0 < m) : (10 : ℚ) ^ (decimalExponent m - 1) * one ≤ m := by
  unfold decimalExponent
  rw [show (400 : Int) = (400 : Nat) from rfl]
  generalize hk : 400 = k
  exact pow_length_le hm (one_le_ten_pow (by omega))

/-- The shortest decimal is rounded to its magnitude. -/
theorem holds_shortest {m : Nat} (hm : 0 < m) : (rounding m).Holds (shortest m).quarters := by
  rw [← Rounding.contains_iff]
  have hgrid : (10 : ℚ) ^ 16 * (10 ^ (decimalExponent m - (16 + 1 : Nat)) * one) ≤ m := by
    have h := pow_decimalExponent_le hm
    rwa [show decimalExponent m - 1 = (16 : Nat) + (decimalExponent m - (16 + 1 : Nat)) by omega,
      zpow_add₀ (by norm_num), zpow_natCast, mul_assoc] at h
  obtain ⟨d, hd⟩ := exists_nearestAt? hm hgrid
  cases hfind : (List.range 17).findSome? fun (i : Nat) => nearestAt? m (decimalExponent m - (i + 1 : Nat)) with
  | none =>
    have hnone := List.findSome?_eq_none_iff.1 hfind 16 (List.mem_range.2 (by decide))
    rw [hd] at hnone
    cases hnone
  | some d =>
    obtain ⟨i, -, hi⟩ := List.exists_of_findSome?_eq_some hfind
    rw [shortest, hfind, Option.getD_some]
    exact contains_of_nearestAt? hi

end Double

end FacetSearch

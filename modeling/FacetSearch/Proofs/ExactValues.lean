import FacetSearch.Proofs.Rounding
import FacetSearch.Proofs.FiniteNumbers
/-!
# Exact values of binary64 numbers

A finite number is a whole number of units, so that comparisons with integers and with other finite numbers are comparisons
of integers (`Double.compareInt?_of_units?`, `Double.compare?_of_units?`). A number is equal to an integer exactly if it has
as many units (`Double.compareInt?_eq_iff`), and then the integer is near to no other number
(`Double.exists_ofInt?_of_units?`).
-/

namespace FacetSearch.Double

/-- The exact value of a finite number. -/
def rational? (d : Double) : Option ℚ := d.units?.map fun u : Int => (u : ℚ) / one

theorem rational?_of_units? {d : Double} {u : Int} (h : d.units? = some u) : d.rational? = some ((u : ℚ) / one) := by
  rw [rational?, h]
  rfl

theorem cast_one_pos : (0 : ℚ) < (one : ℚ) := Nat.cast_pos.2 one_pos

theorem isFinite_iff {d : Double} : d.isFinite = true ↔ ∃ u, d.units? = some u := by
  cases d <;> simp [isFinite, units?]

/-! ## Comparisons -/

theorem compareInt?_of_units? {d : Double} {u : Int} (hu : d.units? = some u) (n : Int) :
    d.compareInt? n = some (compare u (n * one)) := by
  cases d with
  | finite s m hm =>
    obtain rfl := Option.some.inj hu
    rfl
  | _ => cases hu

theorem compare?_of_units? {d e : Double} {u v : Int} (hu : d.units? = some u) (hv : e.units? = some v) :
    d.compare? e = some (compare u v) := by
  cases d with
  | finite s m hm =>
    cases e with
    | finite t n hn =>
      obtain rfl := Option.some.inj hu
      obtain rfl := Option.some.inj hv
      rfl
    | _ => cases hv
  | _ => cases hu

theorem compareInt?_eq_iff {d : Double} {n : Int} : d.compareInt? n = some .eq ↔ d.units? = some (n * one) := by
  constructor
  · intro h
    cases d with
    | finite s m hm =>
      have heq : compare (signed s m) (n * one) = .eq := Option.some.inj h
      exact congrArg some (compare_eq_iff_eq.1 heq)
    | infinite s => cases s <;> cases h
    | nan => cases h
  · intro h
    rw [compareInt?_of_units? h, compare_eq_iff_eq.2 rfl]

/-- Equal numbers have the same units, and are both finite or both infinite. -/
theorem units?_of_compare? {d e : Double} (h : d.compare? e = some .eq) : d.units? = e.units? := by
  cases d with
  | finite s m hm =>
    cases e with
    | finite t n hn =>
      have heq : compare (signed s m) (signed t n) = .eq := Option.some.inj h
      exact congrArg some (compare_eq_iff_eq.1 heq)
    | infinite t => cases t <;> cases h
    | nan => cases h
  | infinite s =>
    cases e with
    | finite t n hn => cases s <;> cases h
    | infinite t => rfl
    | nan => cases h
  | nan => cases h

theorem compare?_self {d : Double} (h : d.isFinite = true) : d.compare? d = some .eq := by
  obtain ⟨u, hu⟩ := isFinite_iff.1 h
  rw [compare?_of_units? hu hu, compare_eq_iff_eq.2 rfl]

/-! ## Integers -/

theorem signed_mul (negative : Bool) (m n : Nat) : signed negative (m * n) = signed negative m * n := by
  cases negative <;> simp [signed]

/-- A number without fraction is an integer of units. -/
theorem int?_eq_some_iff {d : Double} {n : Int} : d.int? = some n ↔ d.units? = some (n * one) := by
  have hone : (one : Int) ≠ 0 := intCast_one_pos.ne'
  cases d with
  | finite s m hm =>
    simp only [int?, units?, Option.some.injEq]
    constructor
    · intro h
      split at h
      · rename_i hdvd
        obtain rfl := Option.some.inj h
        rw [← signed_mul, Nat.div_mul_cancel (Nat.dvd_of_mod_eq_zero hdvd)]
      · cases h
    · intro h
      have hm : m = n.natAbs * one := by rw [← natAbs_signed s m, h, Int.natAbs_mul, Int.natAbs_natCast]
      have hdvd : m % one = 0 := by rw [hm, Nat.mul_mod_left]
      have hmul := signed_mul s (m / one) one
      rw [Nat.div_mul_cancel (Nat.dvd_of_mod_eq_zero hdvd), h] at hmul
      rw [if_pos hdvd, Int.eq_of_mul_eq_mul_right hone hmul]
  | _ =>
    constructor
    · intro h
      cases h
    · intro h
      cases h

/-- An integer that has as many units as a number is near to a number with as many units. -/
theorem exists_ofInt?_of_units? {d : Double} {n : Int} (h : d.units? = some (n * one)) :
    ∃ e, ofInt? n = some e ∧ e.units? = d.units? := by
  have hsignificand := hasSignificand_of_units? h
  have hmagnitude : n.natAbs * one < tooLarge := by
    cases d with
    | finite s m hm =>
      have hm' : m = n.natAbs * one := by
        rw [← natAbs_signed s m, Option.some.inj h, Int.natAbs_mul, Int.natAbs_natCast]
      rw [← hm']
      exact hm.1
    | _ => cases h
  rw [Int.natAbs_mul, Int.natAbs_natCast] at hsignificand
  obtain ⟨e, he⟩ : ∃ e, ofInt? n = some e := by
    rw [ofInt?, ofUnits?, dif_pos ((roundUnits_eq hsignificand).symm ▸ hmagnitude)]
    exact ⟨_, rfl⟩
  exact ⟨e, he, by rw [units?_ofInt? he, h, roundSigned_eq (hasSignificand_of_units? h)]⟩

theorem hasSignificand_mul_one {q : Nat} (k : Nat) (hq : q < significandBound) : HasSignificand (q * 2 ^ k * one) := by
  refine ⟨q, k + 1074, hq, ?_⟩
  unfold one
  generalize 1074 = j
  exact (Nat.mul_assoc q (2 ^ k) (2 ^ j)).trans (congrArg (q * ·) (Nat.pow_add 2 k j).symm)

/-- An integer of 64 bits is near to a binary64 number. -/
theorem exists_ofInt? {n : Int} (hn : n.natAbs < 2 ^ 63) : ∃ d, ofInt? n = some d := by
  have hround : roundUnits (n.natAbs * one) 1 ≤ 1 * 2 ^ 63 * one :=
    roundUnits_le (hasSignificand_mul_one 63 (by decide)) (Nat.mul_le_mul_right _ (by omega))
  have hlarge : 1 * 2 ^ 63 * one < tooLarge := by
    unfold one tooLarge
    have hpow : ∀ j k, 63 + j < k → 1 * 2 ^ 63 * Nat.pow 2 j < Nat.pow 2 k := by
      intro j k h
      calc 1 * 2 ^ 63 * 2 ^ j = 2 ^ (63 + j) := by rw [Nat.one_mul, Nat.pow_add]
        _ < 2 ^ k := Nat.pow_lt_pow_right (by decide) h
    exact hpow 1074 2098 (by decide)
  rw [ofInt?, ofUnits?, dif_pos (Nat.lt_of_le_of_lt hround hlarge)]
  exact ⟨_, rfl⟩

/-- An integer of 53 bits is a binary64 number. -/
theorem roundSigned_of_small {n : Int} (hn : n.natAbs ≤ 2 ^ 53) : roundSigned (n * one) = n * one := by
  refine roundSigned_eq ?_
  rw [Int.natAbs_mul, Int.natAbs_natCast]
  rcases Nat.lt_or_ge n.natAbs (2 ^ 53) with hlt | hge
  · have h := hasSignificand_mul_one 0 hlt
    rwa [Nat.pow_zero, Nat.mul_one] at h
  · have h := hasSignificand_mul_one (q := 2 ^ 52) 1 (by decide)
    rwa [show n.natAbs = 2 ^ 52 * 2 ^ 1 by omega]

end FacetSearch.Double

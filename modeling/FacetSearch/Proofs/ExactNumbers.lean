import FacetSearch.Proofs.Scalars
import Mathlib.Algebra.Order.Field.Power
import Mathlib.Tactic.FieldSimp
/-!
# Equality of numbers in different notations

Integers, truth values, binary64 numbers and numbers in decimal notation stand for rational numbers, infinities or NaNs.
`Exact` is what one of them stands for, and numbers are equal if they stand for the same, within binary64 and integers
(`Number.same_iff`) and across notations (`Value.same_iff_of_exactly?`).
-/

namespace FacetSearch

/-- What a number stands for, whatever its notation. -/
inductive Exact where
  | finite (q : ℚ)
  | infinite (negative : Bool)
  | nan (payload : Nat)
  | decimalNaN (payload : Nat)

/-! ## Integers and binary64 numbers -/

namespace Number

/-- What a number stands for. -/
def exact : Number → Exact
  | .int n => .finite n
  | .flag b => .finite b.toNat
  | .double (.finite s m _) => .finite ((Double.signed s m : Int) / (Double.one : ℚ))
  | .double (.infinite s) => .infinite s
  | .double (.nan p) => .nan p

theorem exact_of_units? {n : Number} {u : Int} (h : n.units? = some u) : n.exact = .finite (u / (Double.one : ℚ)) := by
  have hone : (Double.one : ℚ) ≠ 0 := Double.cast_one_pos.ne'
  cases n with
  | int k =>
    obtain rfl := Option.some.inj h
    rw [exact, Int.cast_mul, Int.cast_natCast, mul_div_cancel_right₀ _ hone]
  | flag b =>
    obtain rfl := Option.some.inj h
    rw [exact, Int.cast_mul, Int.cast_natCast, Int.cast_natCast, mul_div_cancel_right₀ _ hone]
  | double d =>
    cases d with
    | finite s m hm =>
      obtain rfl := Option.some.inj h
      rfl
    | _ => cases h

theorem units?_of_exact {n : Number} {q : ℚ} (h : n.exact = .finite q) : ∃ u, n.units? = some u := by
  cases n with
  | double d =>
    cases d with
    | finite s m hm => exact ⟨_, rfl⟩
    | _ => cases h
  | _ => exact ⟨_, rfl⟩

theorem same_of_compare? {m n : Number} (h : m.compare? n = some .eq) : m.same n = true := by
  unfold same
  split
  · cases h
  · exact beq_iff_eq.2 h

/-- Numbers that are not finite are equal only to such. -/
theorem exact_of_same_infinite {m n : Number} (hm : m.units? = none) (hn : n.units? = none) (h : m.same n = true) :
    m.exact = n.exact := by
  cases m with
  | double d =>
    cases n with
    | double e =>
      cases d with
      | finite => cases hm
      | infinite s =>
        cases e with
        | finite => cases hn
        | infinite t => cases s <;> cases t <;> first | rfl | cases h
        | nan => cases h
      | nan p =>
        cases e with
        | nan q => exact congrArg Exact.nan (beq_iff_eq.1 h)
        | _ => cases h
    | _ => cases hn
  | _ => cases hm

theorem exact_of_same {m n : Number} (h : m.same n = true) : m.exact = n.exact := by
  cases hm : m.units? with
  | some u => rw [exact_of_units? hm, exact_of_units? (units?_of_same h ▸ hm)]
  | none => exact exact_of_same_infinite hm (units?_of_same h ▸ hm) h

theorem same_of_exact {m n : Number} (h : m.exact = n.exact) : m.same n = true := by
  have hone : (Double.one : ℚ) ≠ 0 := Double.cast_one_pos.ne'
  cases hm : m.exact with
  | finite q =>
    obtain ⟨u, hu⟩ := units?_of_exact hm
    obtain ⟨v, hv⟩ := units?_of_exact (h ▸ hm)
    have heq : (u : ℚ) = v := by
      rw [exact_of_units? hu, exact_of_units? hv] at h
      exact (div_left_inj' hone).1 (Exact.finite.inj h)
    obtain rfl := Int.cast_injective heq
    exact same_of_compare? ((compare?_of_units? hu hv).trans (congrArg some (compare_eq_iff_eq.2 rfl)))
  | infinite s =>
    rcases m with _ | _ | _ | _ | _ <;> cases hm
    rcases n with _ | _ | _ | _ | _ <;> cases h
    exact same_self _
  | nan p =>
    rcases m with _ | _ | _ | _ | _ <;> cases hm
    rcases n with _ | _ | _ | _ | _ <;> cases h
    exact same_self _
  | decimalNaN p => rcases m with _ | _ | _ | _ | _ <;> cases hm

/-- Numbers are equal if they stand for the same. -/
theorem same_iff {m n : Number} : m.same n = true ↔ m.exact = n.exact := ⟨exact_of_same, same_of_exact⟩

end Number

/-! ## Decimal notation -/

namespace ExactDecimal

/-- What a number in decimal notation stands for. -/
def exact : ExactDecimal → Exact
  | finite s c e => .finite ((Double.signed s c : Int) * 10 ^ e)
  | infinite s => .infinite s
  | nan _ p => .decimalNaN p

/-- Without zeros at its end a number is as great as with them. -/
theorem bare_value (c : Nat) (e : Int) : ((bare c e).1 : ℚ) * 10 ^ (bare c e).2 = c * 10 ^ e := by
  fun_induction bare c e with
  | case1 e => simp
  | case2 c e hc hdvd ih =>
    have hten : (c : ℚ) = (c / 10 : Nat) * 10 := by
      exact_mod_cast (Nat.div_mul_cancel (Nat.dvd_of_mod_eq_zero hdvd)).symm
    rw [ih, zpow_add₀ (by norm_num), zpow_one, hten]
    ring
  | case3 c e hc hdvd => rfl

theorem bare_of_le {c d : Nat} {e f : Int} (hef : e ≤ f) (h : (c : ℚ) * 10 ^ e = d * 10 ^ f) : bare c e = bare d f := by
  obtain ⟨k, rfl⟩ := Int.exists_add_of_le hef
  have hc : c = d * Nat.pow 10 k := by
    rw [zpow_add₀ (by norm_num), mul_left_comm, mul_comm] at h
    have hcast := mul_left_cancel₀ (zpow_ne_zero e (by norm_num)) h
    rw [zpow_natCast] at hcast
    exact_mod_cast hcast
  have hscaled := bare_scaled d k (e + k)
  rwa [Int.add_sub_cancel, ← hc] at hscaled

/-- Without zeros at the end two coefficients with exponents agree if they are equally great. -/
theorem bare_eq_iff {c d : Nat} {e f : Int} : bare c e = bare d f ↔ (c : ℚ) * 10 ^ e = d * 10 ^ f := by
  constructor
  · intro h
    rw [← bare_value c e, ← bare_value d f, h]
  · intro h
    rcases le_total e f with hef | hef
    · exact bare_of_le hef h
    · exact (bare_of_le hef h.symm).symm

theorem abs_signed_cast (s : Bool) (c : Nat) : |((Double.signed s c : Int) : ℚ)| = c := by
  rw [← Int.cast_abs, Int.abs_eq_natAbs, Double.natAbs_signed, Int.cast_natCast]

/-- Signed numbers are equal if they are equally great and have one sign, unless they are zero. -/
theorem signed_value_eq_iff {s t : Bool} {c d : Nat} {e f : Int} :
    (Double.signed s c : ℚ) * 10 ^ e = (Double.signed t d : ℚ) * 10 ^ f ↔
      (c : ℚ) * 10 ^ e = d * 10 ^ f ∧ (s = t ∨ c = 0) := by
  have hpos : ∀ k : Int, (0 : ℚ) < 10 ^ k := fun k => zpow_pos (by norm_num) k
  constructor
  · intro h
    have habs : (c : ℚ) * 10 ^ e = d * 10 ^ f := by
      have := congrArg abs h
      rwa [abs_mul, abs_mul, abs_signed_cast, abs_signed_cast, abs_of_pos (hpos e), abs_of_pos (hpos f)] at this
    refine ⟨habs, ?_⟩
    by_cases hst : s = t
    · exact .inl hst
    · -- a number that is equal to its negative is zero
      have hneg : (c : ℚ) * 10 ^ e = -(c * 10 ^ e) := by
        cases s <;> cases t <;> simp [Double.signed] at hst h <;> linarith
      have hzero : (c : ℚ) * 10 ^ e = 0 := by linarith
      exact .inr (Nat.cast_eq_zero.1 ((mul_eq_zero.1 hzero).resolve_right (hpos e).ne'))
  · rintro ⟨h, rfl | rfl⟩
    · cases s <;> simp [Double.signed, h]
    · have hd : d = 0 := by
        rw [Nat.cast_zero, zero_mul] at h
        exact Nat.cast_eq_zero.1 ((mul_eq_zero.1 h.symm).resolve_right (hpos f).ne')
      subst hd
      cases s <;> cases t <;> simp [Double.signed]

/-- Numbers in decimal notation are equal if they stand for the same and are no NaN. -/
theorem same_iff {x y : ExactDecimal} : x.same y = true ↔ x.exact = y.exact ∧ ∀ p, x.exact ≠ .decimalNaN p := by
  cases x with
  | finite s c e =>
    cases y with
    | finite t d f =>
      simp only [same, exact, Bool.and_eq_true, Bool.or_eq_true, beq_iff_eq, Exact.finite.injEq, signed_value_eq_iff,
        bare_eq_iff, ne_eq, reduceCtorEq, not_false_eq_true, implies_true, and_true]
    | _ => simp [same, exact]
  | infinite s => cases y <;> simp [same, exact]
  | nan s p => cases y <;> simp [same, exact]

/-- A power of five and the same power of ten below it leave that power of two below. -/
theorem five_pow_value (k : Nat) : ((Nat.pow 5 k : Nat) : ℚ) * 10 ^ (-(k : Int)) = 1 / (Nat.pow 2 k : Nat) := by
  rw [zpow_neg, zpow_natCast, show (10 : ℚ) = 5 * 2 by norm_num, mul_pow]
  simp only [Nat.pow_eq, Nat.cast_pow, Nat.cast_ofNat]
  field_simp

/-- In decimal notation a number stands for what it stands for as it is, unless it is a NaN. -/
theorem exact_ofNumber {n : Number} (h : ∀ p, n.exact ≠ .nan p) : (ofNumber n).exact = n.exact := by
  have hsigned : ∀ k : Int, Double.signed (k < 0) k.natAbs = k := by
    intro k
    unfold Double.signed
    split <;> rename_i hk <;> rw [decide_eq_true_eq] at hk <;> omega
  cases n with
  | int k => simp only [ofNumber, Number.count, exact, Number.exact, hsigned, zpow_zero, mul_one]
  | flag b => cases b <;> simp [ofNumber, Number.count, exact, Number.exact, Double.signed]
  | double d =>
    cases d with
    | finite s m hm =>
      have hpow : ((Nat.pow 5 1074 : Nat) : ℚ) * 10 ^ (-((1074 : Nat) : Int)) = 1 / (Double.one : ℚ) := by
        unfold Double.one
        generalize 1074 = k
        exact five_pow_value k
      rw [Nat.cast_ofNat] at hpow
      simp only [ofNumber, Number.count, ofDouble, exact, Number.exact, Double.signed_mul, Int.cast_mul, Int.cast_natCast,
        mul_assoc, hpow, mul_one_div]
    | infinite s => rfl
    | nan p => exact absurd rfl (h p)

theorem same_ofNumber_iff {n : Number} {y : ExactDecimal} :
    ((ofNumber n).same y = true ↔ n.exact = y.exact) ∧ (y.same (ofNumber n) = true ↔ y.exact = n.exact) := by
  by_cases h : ∀ p, n.exact ≠ .nan p
  · have hdecimal : ∀ p, n.exact ≠ .decimalNaN p := by
      intro p hp
      rcases n with _ | _ | _ | _ | _ <;> cases hp
    rw [same_iff, same_iff, exact_ofNumber h]
    exact ⟨and_iff_left hdecimal, and_iff_left_of_imp fun heq p hp => hdecimal p (heq ▸ hp)⟩
  · -- a NaN in binary64 is equal to nothing in decimal notation
    push Not at h
    obtain ⟨p, hp⟩ := h
    rcases n with _ | _ | _ | _ | _ <;> cases hp
    cases y <;> simp [ofNumber, Number.count, ofDouble, same, exact, Number.exact]

end ExactDecimal

/-! ## Values -/

namespace Value

/-- What a value that is a number stands for. -/
def exactly? : Value → Option Exact
  | .decimal d => some d.exact
  | v => v.number?.map Number.exact

theorem exactly?_cases {v : Value} {x : Exact} (h : v.exactly? = some x) :
    (∃ d, v = .decimal d ∧ d.exact = x) ∨ ∃ n, v.number? = some n ∧ n.exact = x := by
  unfold exactly? at h
  split at h
  · exact .inl ⟨_, rfl, Option.some.inj h⟩
  · exact .inr (Option.map_eq_some_iff.1 h)

theorem same_decimal_iff {x y : ExactDecimal} : (decimal x).same (.decimal y) = true ↔ x.exact = y.exact := by
  cases x with
  | nan s p =>
    cases y with
    | nan t q => exact beq_iff_eq.trans (by simp [ExactDecimal.exact])
    | _ => simp [same, sameScalar, sameDecimal, decimal?, number?, ExactDecimal.same, ExactDecimal.exact]
  | _ =>
    have hsame : ∀ z : ExactDecimal, (∀ p, z.exact ≠ .decimalNaN p) → ((decimal z).same (.decimal y) = z.same y) := by
      intro z hz
      cases z with
      | nan s p => exact absurd rfl (hz p)
      | _ => rfl
    rw [hsame _ (fun p hp => by cases hp), ExactDecimal.same_iff]
    exact and_iff_left fun p hp => by cases hp

/-- Numbers are equal if they stand for the same, whatever their notation. -/
theorem same_iff_of_exactly? {v w : Value} {x y : Exact} (hv : v.exactly? = some x) (hw : w.exactly? = some y) :
    v.same w = true ↔ x = y := by
  rcases exactly?_cases hv with ⟨d, rfl, rfl⟩ | ⟨m, hm, rfl⟩ <;> rcases exactly?_cases hw with ⟨e, rfl, rfl⟩ | ⟨n, hn, rfl⟩
  · exact same_decimal_iff
  · have hsame : (decimal d).same w = d.same (.ofNumber n) := by
      cases d <;> cases w <;> cases hn <;> rfl
    rw [hsame]
    exact ExactDecimal.same_ofNumber_iff.2
  · have hsame : v.same (.decimal e) = (ExactDecimal.ofNumber m).same e := by
      cases v <;> cases hm <;> rfl
    rw [hsame]
    exact ExactDecimal.same_ofNumber_iff.1
  · rw [same_of_numbers hm hn]
    exact Number.same_iff

end Value

end FacetSearch

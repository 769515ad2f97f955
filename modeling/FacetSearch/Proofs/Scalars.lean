import FacetSearch.Proofs.ExactValues
import FacetSearch.Value.Equality
/-!
# Equality of values without parts

Two values without parts are equal if they are the same value, or if both are numbers and the numbers are equal
(`Value.same_cases`). Every such value is equal to itself (`Value.same_self`).
-/

namespace FacetSearch

namespace Number

theorem same_self (n : Number) : n.same n = true := by
  cases n with
  | int k => exact beq_iff_eq.2 (congrArg some (compare_eq_iff_eq.2 rfl))
  | flag b => exact beq_iff_eq.2 (congrArg some (compare_eq_iff_eq.2 rfl))
  | double d =>
    cases d with
    | finite s m hm => exact beq_iff_eq.2 (Double.compare?_self (d := .finite s m hm) rfl)
    | infinite s => exact beq_iff_eq.2 (congrArg some (if_pos rfl))
    | nan p => exact beq_iff_eq.2 rfl

/-- Equal numbers are one and the same NaN, or they compare as equal. -/
theorem compare?_of_same {m n : Number} (h : m.same n = true) :
    m.compare? n = some .eq ∨ ∃ p, m = .double (.nan p) ∧ n = .double (.nan p) := by
  unfold same at h
  split at h
  · obtain rfl := beq_iff_eq.1 h
    exact .inr ⟨_, rfl, rfl⟩
  · exact .inl (beq_iff_eq.1 h)

/-- The exact value of a number in units of binary64; none for those that are not finite. -/
def units? (n : Number) : Option Int :=
  match n.count with
  | .inl k => some (k * Double.one)
  | .inr d => d.units?

theorem compare_mul_one (k l : Int) : compare (k * Double.one) (l * Double.one) = compare k l := by
  have hone := Double.intCast_one_pos
  rcases lt_trichotomy k l with h | rfl | h
  · rw [compare_lt_iff_lt.2 h, compare_lt_iff_lt.2 (Int.mul_lt_mul_of_pos_right h hone)]
  · rw [compare_eq_iff_eq.2 rfl, compare_eq_iff_eq.2 rfl]
  · rw [compare_gt_iff_gt.2 h, compare_gt_iff_gt.2 (Int.mul_lt_mul_of_pos_right h hone)]

/-- Numbers compare as their exact values do. -/
theorem compare?_of_units? {m n : Number} {a b : Int} (hm : m.units? = some a) (hn : n.units? = some b) :
    m.compare? n = some (compare a b) := by
  unfold units? at hm hn
  unfold compare?
  cases hmc : m.count <;> cases hnc : n.count <;> simp only [hmc, hnc] at hm hn ⊢
  · rw [← Option.some.inj hm, ← Option.some.inj hn, compare_mul_one]
  · rw [← Option.some.inj hm, Double.compareInt?_of_units? hn, Option.map_some, Int.compare_swap]
  · rw [← Option.some.inj hn, Double.compareInt?_of_units? hm]
  · exact Double.compare?_of_units? hm hn

theorem units?_of_compare? {m n : Number} (h : m.compare? n = some .eq) : m.units? = n.units? := by
  unfold compare? at h
  unfold units?
  split at h <;> rename_i hm hn <;> simp only [hm, hn]
  · rw [compare_eq_iff_eq.1 (Option.some.inj h)]
  · exact Double.compareInt?_eq_iff.1 h
  · obtain ⟨o, ho, hswap⟩ := Option.map_eq_some_iff.1 h
    cases o <;> cases hswap
    exact (Double.compareInt?_eq_iff.1 ho).symm
  · exact Double.units?_of_compare? h

/-- Equal numbers have the same exact value. -/
theorem units?_of_same {m n : Number} (h : m.same n = true) : m.units? = n.units? := by
  rcases compare?_of_same h with h | ⟨p, rfl, rfl⟩
  · exact units?_of_compare? h
  · rfl

/-- Finite numbers with the same exact value are equal. -/
theorem same_of_units? {d e : Double} {u : Int} (hd : d.units? = some u) (he : e.units? = some u) :
    (Number.double d).same (.double e) = true := by
  have hcompare : (Number.double d).compare? (.double e) = some .eq :=
    (Double.compare?_of_units? hd he).trans (congrArg some (compare_eq_iff_eq.2 rfl))
  cases d with
  | finite s m hm => exact beq_iff_eq.2 hcompare
  | _ => cases hd

end Number

namespace Value

/-- The value has no parts: it is missing, a truth value, a number or a text. -/
def IsScalar : Value → Prop
  | .null | .bool _ | .int _ | .float _ | .text _ => True
  | _ => False

theorem same_of_numbers {a b : Value} {m n : Number} (ha : a.number? = some m) (hb : b.number? = some n) :
    a.same b = m.same n := by
  cases a <;> cases ha <;> cases b <;> cases hb <;> rfl

theorem same_self {v : Value} (h : v.IsScalar) : v.same v = true := by
  cases v with
  | null => rfl
  | bool b => exact Number.same_self (.flag b)
  | int k => exact Number.same_self (.int k)
  | float d => exact Number.same_self (.double d)
  | text s => exact beq_iff_eq.2 rfl
  | _ => cases h

theorem same_cases {v w : Value} (hv : v.IsScalar) (hw : w.IsScalar) (h : v.same w = true) :
    v = w ∨ ∃ m n, v.number? = some m ∧ w.number? = some n ∧ m.same n = true := by
  cases v with
  | null => cases w <;> first | exact .inl rfl | cases h
  | text s =>
    cases w with
    | text t => exact .inl (congrArg Value.text (beq_iff_eq.1 h))
    | null | bool _ | int _ | float _ => cases h
    | _ => cases hw
  | bool _ | int _ | float _ =>
    cases w with
    | bool _ | int _ | float _ => exact .inr ⟨_, _, rfl, rfl, h⟩
    | null | text _ => cases h
    | _ => cases hw
  | _ => cases hv

end Value

end FacetSearch

import FacetSearch.Proofs.Literals
import FacetSearch.Proofs.Selections
/-!
# What parameters of a type can be

Each type has a domain: identifiers, texts, integers of a certain size, finite numbers, timestamps; that of arrays is empty.
Whatever a value becomes for a column is in the domain of its type (`ColumnType.domain_of_literal?`), and the domain is just
what is left as it is (`ColumnType.coerce_self_iff`).
-/

namespace FacetSearch.ColumnType

/-- The values that parameters of a type have. -/
def Domain : ColumnType → Value → Prop
  | uuid, .uuid _ | string, .text _ | timestamp, .timestamp _ => True
  | integer, .int n => -2 ^ 31 ≤ n ∧ n ≤ 2 ^ 31 - 1
  | bigint, .int n => -2 ^ 63 ≤ n ∧ n ≤ 2 ^ 63 - 1
  | oid, .int n => 0 ≤ n ∧ n ≤ 2 ^ 32 - 1
  | double, .float d => d.isFinite = true
  | _, _ => False

/-- The type holds integers, whole ones between two bounds. -/
def isInteger : ColumnType → Bool
  | integer | bigint | oid => true
  | _ => false

variable {type : ColumnType} {v l : Value}

/-! ## Integers -/

theorem intWithin?_eq_some_iff {range : Int × Int} {n : Int} :
    intWithin? range v = some n ↔ intOf? v = some n ∧ range.1 ≤ n ∧ n ≤ range.2 := by
  rw [intWithin?, Option.filter_eq_some_iff, Bool.and_eq_true, decide_eq_true_iff, decide_eq_true_iff]

theorem domain_int_iff {range : Int × Int} (hr : type.intRange? = some range) {n : Int} :
    type.Domain (.int n) ↔ range.1 ≤ n ∧ n ≤ range.2 := by
  cases type <;> cases hr <;> simp only [Domain] <;> omega

/-- A literal of a type that holds integers is the integer that the value stands for, if that one is in the domain. -/
theorem literal?_eq_some_int_iff (ht : type.isInteger = true) :
    type.literal? v = some l ↔ ∃ n, intOf? v = some n ∧ type.Domain (.int n) ∧ l = .int n := by
  have hliteral : type.literal? v = (type.intRange?.bind fun range => intWithin? range v).map .int := by
    cases type with
    | integer | bigint | oid =>
      cases v with
      | null =>
        have hnull : intOf? .null = none := rfl
        rw [intRange?, Option.bind_some, intWithin?, hnull]
        rfl
      | _ => rfl
    | _ => cases ht
  obtain ⟨range, hr⟩ : ∃ range, type.intRange? = some range := by
    cases type <;> first | exact ⟨_, rfl⟩ | cases ht
  rw [hliteral, hr, Option.bind_some, Option.map_eq_some_iff]
  refine exists_congr fun n => ?_
  rw [intWithin?_eq_some_iff, domain_int_iff hr, and_assoc, @eq_comm _ l]

/-! ## Literals -/

/-- A literal is in the domain of its type. -/
theorem domain_of_literal? (h : type.literal? v = some l) : type.Domain l := by
  have hint (ht : type.isInteger = true) : type.Domain l := by
    obtain ⟨n, -, hn, rfl⟩ := (literal?_eq_some_int_iff ht).1 h
    exact hn
  unfold literal? at h
  split at h
  · cases h
  · cases h
  · obtain ⟨s, -, rfl⟩ := Option.map_eq_some_iff.1 h
    trivial
  · obtain ⟨u, -, rfl⟩ := Option.map_eq_some_iff.1 h
    trivial
  · obtain ⟨d, hd, rfl⟩ := Option.map_eq_some_iff.1 h
    exact (Option.filter_eq_some_iff.1 hd).2
  · obtain ⟨t, -, rfl⟩ := Option.map_eq_some_iff.1 h
    trivial
  · exact hint rfl
  · exact hint rfl
  · exact hint rfl

/-- What is in the domain of a type is a literal in its final form. -/
theorem literal?_of_domain (h : type.Domain v) : type.literal? v = some v := by
  have hint (ht : type.isInteger = true) {n : Int} (hv : v = .int n) : type.literal? v = some v := by
    subst hv
    exact (literal?_eq_some_int_iff ht).2 ⟨n, rfl, h, rfl⟩
  unfold Domain at h
  split at h
  · rfl
  · rfl
  · rfl
  · exact hint rfl rfl
  · exact hint rfl rfl
  · exact hint rfl rfl
  · rename_i d
    show ((some d).filter Double.isFinite).map Value.float = some (.float d)
    rw [Option.filter_eq_some_iff.2 ⟨rfl, h⟩, Option.map_some]
  · cases h

/-- Just the values of its domain are left as they are by a type. -/
theorem coerce_self_iff {column : Option Value} : type.coerce v column = .ok v ↔ type.Domain v :=
  coerce_eq_ok.trans ⟨domain_of_literal?, literal?_of_domain⟩

/-- What a value becomes for a type that is not that of arrays is in the domain of the type, and stays what it is however
often it is read again. Arrays have no values. -/
theorem domain_of_coerce {column : Option Value} (h : type.coerce v column = .ok l) :
    type ≠ array ∧ type.Domain l ∧ ∀ column', type.coerce l column' = .ok l := by
  have hdomain := domain_of_literal? (coerce_eq_ok.1 h)
  refine ⟨?_, hdomain, fun column' => coerce_self_iff.2 hdomain⟩
  rintro rfl
  exact hdomain

theorem domain_leastInteger : integer.coerce (.text " -2147483648 ") none = .ok (.int (-2147483648)) ∧
    integer ≠ array ∧ integer.Domain (.int (-2147483648)) ∧
    ∀ column, integer.coerce (.int (-2147483648)) column = .ok (.int (-2147483648)) := by
  have h : integer.coerce (.text " -2147483648 ") none = .ok (.int (-2147483648)) := rfl
  exact ⟨h, domain_of_coerce h⟩

end FacetSearch.ColumnType

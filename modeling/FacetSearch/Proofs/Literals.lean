import FacetSearch.Column.Literal
import Mathlib.Data.Option.Basic
/-!
# Literals are in their final form

What a value becomes for a column is a literal already: to read it once more for the same type leaves it as it is
(`literal?_of_literal?`), so it does not matter how often values are read. Types without literals cannot be bound, and
all others can (`exists_bindType`).
-/

namespace FacetSearch.ColumnType

theorem intWithin?_of_intWithin? {range : Int × Int} {v : Value} {n : Int} (h : intWithin? range v = some n) :
    intWithin? range (.int n) = some n := by
  unfold intWithin? at h ⊢
  rw [Option.filter_eq_some_iff] at h ⊢
  exact ⟨rfl, h.2⟩

theorem int_of_range {type : ColumnType} {v l : Value}
    (h : (type.intRange?.bind fun r => intWithin? r v).map .int = some l) :
    ∃ n, l = .int n ∧ (type.intRange?.bind fun r => intWithin? r (.int n)).map Value.int = some (.int n) := by
  obtain ⟨n, hn, rfl⟩ := Option.map_eq_some_iff.1 h
  obtain ⟨r, hr, hn⟩ := Option.bind_eq_some_iff.1 hn
  refine ⟨n, rfl, ?_⟩
  rw [hr, Option.bind_some, intWithin?_of_intWithin? hn, Option.map_some]

/-- A literal is read as itself. -/
theorem literal?_of_literal? {type : ColumnType} {v l : Value} (h : type.literal? v = some l) :
    type.literal? l = some l := by
  unfold literal? at h
  split at h
  · cases h
  · cases h
  · obtain ⟨s, -, rfl⟩ := Option.map_eq_some_iff.1 h
    rfl
  · obtain ⟨u, -, rfl⟩ := Option.map_eq_some_iff.1 h
    rfl
  · obtain ⟨d, hd, rfl⟩ := Option.map_eq_some_iff.1 h
    have hfinite : d.isFinite = true := (Option.filter_eq_some_iff.1 hd).2
    show ((some d).filter Double.isFinite).map Value.float = some (.float d)
    rw [Option.filter_eq_some_iff.2 ⟨rfl, hfinite⟩, Option.map_some]
  · obtain ⟨t, -, rfl⟩ := Option.map_eq_some_iff.1 h
    rfl
  · obtain ⟨n, rfl, hn⟩ := int_of_range h
    exact hn
  · obtain ⟨n, rfl, hn⟩ := int_of_range h
    exact hn
  · obtain ⟨n, rfl, hn⟩ := int_of_range h
    exact hn

/-- What has literals can be bound. -/
theorem exists_bindType {type : ColumnType} {v l : Value} (h : type.literal? v = some l) :
    ∃ b, type.bindType? = some b := by
  cases type with
  | array => cases v <;> cases h
  | _ => exact ⟨_, rfl⟩

end FacetSearch.ColumnType

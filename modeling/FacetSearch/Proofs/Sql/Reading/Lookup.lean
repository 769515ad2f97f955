import FacetSearch.Proofs.Sql.Reading.Search
/-!
# Lookups are read as what they are meant to be

A lookup is a selection of all columns by one test for its key (`Statement.ofLookup`), which is read as any other
condition is (`read_lookup`).
-/

namespace FacetSearch.Sql

/-- The statement that a lookup is. -/
def Statement.ofLookup (table key : String) (values : List Param) (limit : Option Value) : Statement where
  query := .select (.all .nil) (.table table table) (.ofCondition (.among key values)) []
  limit := limit.map .value

section

variable {table key : String} (ht : IsName table) (hk : IsName key) {values : List Param} (hv : values ≠ [])

include ht hk hv

theorem tokens_lookup (limit : Option Value) : (Lookup.fragment table key values limit).tokens =
    [.keyword .select, .sign .star, .keyword .from, .name table, .keyword .where] ++
      ((Condition.among key values).fragment.tokens ++ limitTokens limit) := by
  have hopening : tokens ("SELECT * FROM " ++ table ++ " WHERE ") =
      [.keyword .select, .sign .star, .keyword .from, .name table, .keyword .where] := by
    rw [tokens_append (.inr rfl), tokens_append (.inl rfl), tokens_name ht]
    rfl
  have hfrom : (Fragment.ofText ("SELECT * FROM " ++ table ++ " WHERE ")).WellFormed := by
    apply Fragment.wellFormed_ofText
    rw [Fragment.placeholders_append, Fragment.placeholders_append, ht.placeholders_eq]
    rfl
  rw [Lookup.fragment, Fragment.tokens_append (Lookup.wellFormed_opening ht hk hv)
    (.inr (startsWord_limitClause limit)), Fragment.tokens_ofText_append hfrom (endsWord_append _ rfl), hopening,
    tokens_limitClause, List.append_assoc]

/-- A lookup is read as what it is meant to be. -/
theorem read_lookup (limit : Option Value) : Statement.read (Lookup.fragment table key values limit).tokens =
    some (.ofLookup table key values limit) := by
  have hends := ends_limitTokens limit
  rw [tokens_lookup ht hk hv limit, Statement.read]
  generalize hlen : 4 * List.length _ = n
  simp only [List.length_append, List.length_cons, List.length_nil] at hlen
  obtain ⟨n, rfl⟩ : ∃ m, n = m + 4 := ⟨n - 4, by omega⟩
  have htest := Test.read_of_readBoth (n := n + 1) ((Test.reads_of_proper (.among (.column hk) hv)).2 (n + 1)
    (limitTokens limit) (by omega) hends.apart hends.and) hends.or
  simp only [List.cons_append, List.nil_append]
  rw [Query.read, Query.readSelect_where (Items.read_all _ _ _) (Tables.read_table _ _ (by simp)) htest]
  cases limit with
  | none => rfl
  | some v => rfl

end

end FacetSearch.Sql

import FacetSearch.Proofs.Fragments
import FacetSearch.Proofs.Names
import FacetSearch.Query.Condition
/-!
# Conditions that get into statements

`Condition.Proper` is the shape of the conditions that selections have: columns are names, lists of
alternatives are not empty, and what stands in front of an `AND` is a single predicate. The fragment of a
condition is put together from pieces, constructor by constructor (`fragment_matching` and those after it),
so that laws of conditions follow from laws of pieces; `Condition.Proper.wellFormed` is the first of them.
-/

namespace FacetSearch

/-- A column as statements refer to it: by its name, or by the name of its table and its own. -/
inductive IsReference : String → Prop
  | column {c : String} (h : IsName c) : IsReference c
  | ofTable {t c : String} (ht : IsName t) (hc : IsName c) : IsReference (t ++ "." ++ c)

namespace Fragment

@[simp] theorem text_ofText (s : String) : (ofText s).text = s := rfl

@[simp] theorem params_ofText (s : String) : (ofText s).params = [] := rfl

theorem text_joined (separator : String) (gs : List Fragment) :
    (joined separator gs).text = separator.intercalate (gs.map text) := by
  cases gs with
  | nil => simp [joined, empty]
  | cons g gs =>
    rw [joined]
    induction gs generalizing g with
    | nil => simp [joinedAfter, empty]
    | cons h gs ih =>
      simp only [List.map_cons, String.intercalate_cons_cons] at ih ⊢
      rw [← ih h]
      simp [joinedAfter, String.append_assoc]

theorem params_joined (separator : String) (gs : List Fragment) :
    (joined separator gs).params = gs.flatMap params := by
  cases gs with
  | nil => rfl
  | cons g gs =>
    rw [joined, params_append, List.flatMap_cons]
    congr 1
    induction gs with
    | nil => rfl
    | cons h gs ih =>
      rw [List.flatMap_cons, ← ih]
      rfl

/-- A list of parameters, each at a placeholder of its own with the same text around it. -/
def list (mark : String) (values : List Param) : Fragment := joined ", " (values.map fun v => ⟨mark, [v]⟩)

theorem list_eq (mark : String) (values : List Param) :
    list mark values = ⟨", ".intercalate (List.replicate values.length mark), values⟩ := by
  ext1
  · rw [list, text_joined, List.map_map, ← List.map_const]
    rfl
  · rw [list, params_joined, List.flatMap_map, List.flatMap_singleton']

theorem wellFormed_list {mark : String} (h : placeholders mark = 1) (values : List Param) :
    (list mark values).WellFormed := by
  apply wellFormed_joined rfl
  intro g hg
  obtain ⟨v, _, rfl⟩ := List.mem_map.1 hg
  exact h

end Fragment

namespace Condition

open Fragment

/-- A condition that is no conjunction. -/
def IsPredicate : Condition → Prop
  | .both _ _ => False
  | _ => True

/-- Columns are referred to by names, and lists have members. -/
inductive Proper : Condition → Prop
  | matching {column p} (h : IsReference column) : Proper (.matching column p)
  | among {column values} (h : IsReference column) (hv : values ≠ []) : Proper (.among column values)
  | foldedAmong {column values} (h : IsReference column) (hv : values ≠ []) : Proper (.foldedAmong column values)
  | foldedEqual {column p} (h : IsReference column) : Proper (.foldedEqual column p)
  | within {column low high} (h : IsReference column) : Proper (.within column low high)
  | anyOf {alternatives} (h : alternatives ≠ []) (ha : ∀ c ∈ alternatives, Proper c) : Proper (.anyOf alternatives)
  | both {first second} (h : first.IsPredicate) (h₁ : Proper first) (h₂ : Proper second) :
    Proper (.both first second)

/-- The text of a condition with its parameters. -/
def fragment (c : Condition) : Fragment := ⟨c.sql, c.params⟩

/-! ## The pieces of a condition -/

theorem sqls_eq (cs : List Condition) : sqls cs = cs.map sql := by
  induction cs with
  | nil => rfl
  | cons c cs ih => rw [sqls, ih, List.map_cons]

theorem allParams_eq (cs : List Condition) : allParams cs = cs.flatMap params := by
  induction cs with
  | nil => rfl
  | cons c cs ih => rw [allParams, ih, List.flatMap_cons]

theorem fragment_matching (column : String) (p : Param) :
    (matching column p).fragment = ofText column ++ ⟨" ~* ?", [p]⟩ := rfl

theorem fragment_among (column : String) (values : List Param) :
    (among column values).fragment = ofText (column ++ " IN (") ++ list "?" values ++ ofText ")" := by
  rw [list_eq]
  ext1 <;> simp [fragment, sql, params, marks]

theorem fragment_foldedAmong (column : String) (values : List Param) :
    (foldedAmong column values).fragment =
      ofText ("UPPER(" ++ column ++ ") IN (") ++ list "UPPER(?)" values ++ ofText ")" := by
  rw [list_eq]
  ext1 <;> simp [fragment, sql, params, foldedMarks]

theorem fragment_foldedEqual (column : String) (p : Param) :
    (foldedEqual column p).fragment = ofText ("UPPER(" ++ column ++ ") = ") ++ list "UPPER(?)" [p] := by
  rw [list_eq]
  ext1 <;> simp [fragment, sql, params, foldedMarks]

theorem fragment_within (column : String) (low high : Param) :
    (within column low high).fragment = ofText column ++ ⟨" BETWEEN ? AND ?", [low, high]⟩ := rfl

theorem fragment_anyOf (cs : List Condition) :
    (anyOf cs).fragment = ofText "(" ++ joined " OR " (cs.map fragment) ++ ofText ")" := by
  ext1
  · simp [fragment, sql, text_joined, sqls_eq, List.map_map, Function.comp_def]
  · simp [fragment, params, params_joined, allParams_eq, List.flatMap_map]

theorem fragment_both (a b : Condition) : (both a b).fragment = a.fragment ++ ofText " AND " ++ b.fragment := by
  ext1
  · rfl
  · simp [fragment, params]

end Condition

/-! ## Placeholders -/

theorem placeholders_eq_zero {s : String} (h : '?' ∉ s.toList) : Fragment.placeholders s = 0 :=
  List.count_eq_zero.2 h

theorem IsName.no_placeholder {s : String} (h : IsName s) : '?' ∉ s.toList := by
  intro hm
  have := h.inner '?' hm
  revert this
  decide

theorem IsReference.no_placeholder {s : String} (h : IsReference s) : '?' ∉ s.toList := by
  cases h with
  | column h => exact h.no_placeholder
  | ofTable ht hc =>
    simp only [String.toList_append, List.mem_append]
    rintro ((h | h) | h)
    · exact ht.no_placeholder h
    · revert h; decide
    · exact hc.no_placeholder h

namespace Condition

open Fragment

theorem wellFormed_around {before after s : String} (hb : placeholders before = 0) (ha : placeholders after = 0)
    (h : IsReference s) : (ofText (before ++ s ++ after)).WellFormed := by
  apply wellFormed_ofText
  rw [placeholders_append, placeholders_append, hb, ha, placeholders_eq_zero h.no_placeholder]

theorem Proper.wellFormed {c : Condition} (h : c.Proper) : c.fragment.WellFormed := by
  induction h with
  | matching h =>
    rw [fragment_matching]
    exact (wellFormed_ofText (placeholders_eq_zero h.no_placeholder)).append (wellFormed_mk rfl)
  | among h hv =>
    rw [fragment_among]
    refine (WellFormed.append ?_ (wellFormed_list rfl _)).append (wellFormed_ofText rfl)
    simpa using wellFormed_around (show placeholders "" = 0 from rfl) (show placeholders " IN (" = 0 from rfl) h
  | foldedAmong h hv =>
    rw [fragment_foldedAmong]
    exact ((wellFormed_around rfl rfl h).append (wellFormed_list rfl _)).append (wellFormed_ofText rfl)
  | foldedEqual h =>
    rw [fragment_foldedEqual]
    exact (wellFormed_around rfl rfl h).append (wellFormed_list rfl _)
  | within h =>
    rw [fragment_within]
    exact (wellFormed_ofText (placeholders_eq_zero h.no_placeholder)).append (wellFormed_mk rfl)
  | anyOf h ha ih =>
    rw [fragment_anyOf]
    refine ((wellFormed_ofText rfl).append (wellFormed_joined rfl fun g hg => ?_)).append (wellFormed_ofText rfl)
    obtain ⟨c, hc, rfl⟩ := List.mem_map.1 hg
    exact ih c hc
  | both h h₁ h₂ ih₁ ih₂ =>
    rw [fragment_both]
    exact (ih₁.append (wellFormed_ofText rfl)).append ih₂

end Condition

end FacetSearch

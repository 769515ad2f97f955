import FacetSearch.Proofs.Answers
import FacetSearch.Proofs.Binding
import FacetSearch.Proofs.Literals
import FacetSearch.Proofs.Members
/-!
# Values that are bound as they are

Literals are read when a search is compiled, and once more when its statement is bound. All parameters of selections
are settled (`Selection.settled_of_ofCriteria`): the second reading leaves them as they are. The limit is read when it
is bound only, as an integer of four bytes, and that is the one value that may be refused (`rebound_of_compile`).
-/

namespace FacetSearch

/-- The value is a literal of its type, in its final form. -/
def Param.Settled (p : Param) : Prop := p.type.literal? p.value = some p.value

/-! ## Parameters of selections -/

namespace Condition

/-- All parameters are settled. -/
def Settled (c : Condition) : Prop := ∀ p ∈ c.params, p.Settled

theorem settled_anyOf {cs : List Condition} (h : ∀ c ∈ cs, c.Settled) : Settled (.anyOf cs) := by
  intro p hp
  rw [params, allParams_eq, List.mem_flatMap] at hp
  obtain ⟨c, hc, hp⟩ := hp
  exact h c hc p hp

theorem settled_both {a b : Condition} (ha : a.Settled) (hb : b.Settled) : Settled (.both a b) := by
  intro p hp
  rw [params, List.mem_append] at hp
  rcases hp with hp | hp
  · exact ha p hp
  · exact hb p hp

theorem settled_of_params_eq {c : Condition} {p : Param} (hc : c.params = [p]) (h : p.Settled) : c.Settled := by
  intro q hq
  rw [hc] at hq
  obtain rfl := List.mem_singleton.1 hq
  exact h

theorem settled_within (column : String) {low high : Param} (hl : low.Settled) (hh : high.Settled) :
    Settled (.within column low high) := by
  intro q hq
  rw [params, List.mem_cons, List.mem_singleton] at hq
  rcases hq with rfl | rfl
  · exact hl
  · exact hh

end Condition

namespace Selection

open Condition

theorem settled_textParam (s : String) : (textParam s).Settled := rfl

theorem settled_valueCondition {kind : GroupKind} {mode : Option MatchMode} {regex : Bool} {group : Group}
    {c : Condition} (h : valueCondition kind mode regex group = some c) : c.Settled := by
  cases kind with
  | tags =>
    obtain ⟨p, -, rfl⟩ := Option.map_eq_some_iff.1 h
    exact settled_of_params_eq rfl (settled_textParam p)
  | attributes =>
    simp only [valueCondition] at h
    split at h
    · cases h
      exact settled_of_params_eq rfl (settled_textParam _)
    · cases h
      intro p hp
      obtain ⟨s, -, rfl⟩ := List.mem_map.1 hp
      exact settled_textParam s

theorem settled_columnCondition (column : String) (type : ColumnType) (regex : Bool) {ps : List Param}
    (h : ∀ p ∈ ps, p.Settled) : (columnCondition column type regex ps).Settled := by
  unfold columnCondition
  split
  · split
    · refine settled_anyOf fun c hc => ?_
      obtain ⟨p, hp, rfl⟩ := List.mem_map.1 hc
      exact settled_of_params_eq rfl (h p hp)
    · exact h
  · exact h

/-- Whatever the criteria and the catalog hold, the parameters of all selections are settled. -/
theorem settled_of_ofCriteria {catalog : Catalog} {v : Value} {c : Criteria} {ss : List Selection}
    (h : ofCriteria catalog v c = .ok ss) : ∀ s ∈ ss, s.condition.Settled := by
  obtain ⟨table, key, tags, attributes, columns, numeric, hk, rfl, ht, ha, hc, hn⟩ := ofCriteria_eq_ok h
  have hgroup {kind : GroupKind} {g : Group} {s : Selection} (hg : ofGroup catalog kind (.text table)
      (.list (g.map .text)) c.matchMode c.regexEnabled = .ok s) : s.condition.Settled := by
    obtain ⟨-, d, hd, rfl⟩ := ofGroup_eq_ok hg
    exact settled_both (settled_valueCondition hd) (settled_of_params_eq rfl (settled_textParam table))
  intro s hs
  simp only [List.mem_append] at hs
  rcases hs with ((hs | hs) | hs) | hs
  · obtain ⟨g, -, hg⟩ := exists_of_mem_right ht hs
    exact hgroup hg
  · obtain ⟨g, -, hg⟩ := exists_of_mem_right ha hs
    exact hgroup hg
  · obtain ⟨e, -, he⟩ := exists_of_mem_right hc hs
    obtain ⟨name, t, type, literals, -, -, -, -, hl, rfl⟩ := ofColumn_eq_ok he
    refine settled_columnCondition name type _ fun p hp => ?_
    obtain ⟨l, hmem, rfl⟩ := List.mem_map.1 hp
    obtain ⟨v, -, hv⟩ := exists_of_mem_right hl hmem
    exact ColumnType.literal?_of_literal? hv
  · obtain ⟨e, -, he⟩ := exists_of_mem_right hn hs
    obtain ⟨name, t, type, windows, cs, -, -, -, -, -, -, hcs, rfl⟩ := ofNumeric_eq_ok he
    refine settled_anyOf fun d hd => ?_
    obtain ⟨w, -, hw⟩ := exists_of_mem_right hcs hd
    obtain ⟨l, u, hl, hu, rfl⟩ := windowCondition_eq_ok hw
    exact settled_within name (ColumnType.literal?_of_literal? hl) (ColumnType.literal?_of_literal? hu)

end Selection

/-! ## Binding -/

namespace Bound

theorem bindParam_of_settled {p : Param} (h : p.Settled) (i : Nat) :
    ∃ b, bindParam i p = .ok b ∧ b.value = p.value := by
  obtain ⟨type, htype⟩ := ColumnType.exists_bindType h
  refine ⟨⟨paramName i, p.value, type⟩, ?_, rfl⟩
  rw [bindParam, ColumnType.coerce_eq_ok.2 h]
  simp only [htype]
  rfl

/-- Settled parameters are bound, each with its value. -/
theorem bindParams_of_settled {ps : List Param} (h : ∀ p ∈ ps, p.Settled) (i : Nat) :
    ∃ bs, bindParams i ps = .ok bs ∧ bs.map BoundParam.value = ps.map Param.value := by
  induction ps generalizing i with
  | nil => exact ⟨[], rfl, rfl⟩
  | cons p ps ih =>
    obtain ⟨b, hb, hv⟩ := bindParam_of_settled (h p (by simp)) i
    obtain ⟨bs, hbs, hvs⟩ := ih (fun q hq => h q (by simp [hq])) (i + 1)
    refine ⟨b :: bs, ?_, List.cons_eq_cons.2 ⟨hv, hvs⟩⟩
    rw [bindParams, hb, hbs]
    rfl

/-- One parameter that is refused behind settled ones is what binding fails for. -/
theorem bindParams_eq_error {ps : List Param} (h : ∀ p ∈ ps, p.Settled) {q : Param} {e : Error}
    (hq : ∀ i, bindParam i q = .error e) (i : Nat) : bindParams i (ps ++ [q]) = .error e := by
  induction ps generalizing i with
  | nil =>
    rw [List.nil_append, bindParams, hq]
    rfl
  | cons p ps ih =>
    obtain ⟨b, hb, -⟩ := bindParam_of_settled (h p (by simp)) i
    rw [List.cons_append, bindParams, hb]
    have hrest := ih (fun r hr => h r (by simp [hr])) (i + 1)
    simp only [bind, Except.bind, hrest]

/-- A text that is read to its end is bound as soon as its parameters are. -/
theorem ofFragment_of_bindParams {f : Fragment} (hw : f.WellFormed) (ha : f.Accepted) {bs : List BoundParam}
    (h : bindParams 0 f.params = .ok bs) : ofFragment f = .ok ⟨String.ofList (named 0 f.text.toList), bs⟩ := by
  have hmarks : ¬Fragment.placeholders f.text ≠ f.params.length := not_not_intro hw
  have hfails := ofFragment_failsOnly hw ha
  simp only [ofFragment, if_neg hmarks, h, bind, Except.bind, pure, Except.pure] at hfails ⊢
  split
  · rfl
  · rename_i hnames
    rw [if_neg hnames] at hfails
    exact absurd rfl (hfails _ rfl).2

theorem ofFragment_eq_error {f : Fragment} (hw : f.WellFormed) {e : Error} (h : bindParams 0 f.params = .error e) :
    ofFragment f = .error e := by
  have hmarks : ¬Fragment.placeholders f.text ≠ f.params.length := not_not_intro hw
  simp only [ofFragment, if_neg hmarks, h, bind, Except.bind]

end Bound

/-! ## Searches -/

/-- The parameters of a search are those of its selections and its limit. -/
theorem Search.params_fragment (table key : String) (ss : List Selection) (limit : Option Value) :
    (fragment table key (ss.map Selection.fragment) limit).params =
      ss.flatMap (fun s => s.condition.params) ++ (Fragment.limitClause limit).params := by
  have hsets : (Fragment.restriction (" WHERE " ++ key ++ " IN (") (ss.map Selection.fragment) ")").params =
      ss.flatMap fun s => s.condition.params := by
    cases ss with
    | nil => rfl
    | cons s ss =>
      rw [Fragment.restriction, if_neg (by simp), Fragment.params_append, Fragment.params_append,
        Fragment.params_joined, List.flatMap_map]
      simp [Selection.fragment]
  rw [fragment, Fragment.params_append, Fragment.params_append, hsets]
  rfl

theorem Param.settled_integer {n : Int} (hpos : 0 < n) (h : n ≤ 2147483647) : Settled ⟨.int n, .integer⟩ := by
  have hrange : (decide (-2147483648 ≤ n) && decide (n ≤ 2147483647)) = true := by
    rw [Bool.and_eq_true, decide_eq_true_iff, decide_eq_true_iff]
    omega
  show (ColumnType.intWithin? (-2147483648, 2147483647) (.int n)).map Value.int = some (.int n)
  rw [ColumnType.intWithin?, ColumnType.intOf?, Option.filter_some, if_pos hrange]
  rfl

theorem Bound.bindParam_large {n : Int} (h : 2147483647 < n) (i : Nat) :
    bindParam i ⟨.int n, .integer⟩ = .error (ColumnType.integer.mismatch (.int n) none) := by
  have hrange : (decide (-2147483648 ≤ n) && decide (n ≤ 2147483647)) = false := by
    rw [Bool.and_eq_false_iff, decide_eq_false_iff_not, decide_eq_false_iff_not]
    omega
  have hnone : ColumnType.integer.literal? (.int n) = none := by
    show (ColumnType.intWithin? (-2147483648, 2147483647) (.int n)).map Value.int = none
    rw [ColumnType.intWithin?, ColumnType.intOf?, Option.filter_some, if_neg (by simp [hrange])]
    rfl
  simp only [bindParam, ColumnType.coerce, hnone, reduceCtorEq, false_and, if_false, Option.filter_none]
  rfl

theorem Selection.settled_params {ss : List Selection} (h : ∀ s ∈ ss, s.condition.Settled) :
    ∀ p ∈ ss.flatMap fun s => s.condition.params, p.Settled := by
  intro p hp
  obtain ⟨s, hmem, hp⟩ := List.mem_flatMap.1 hp
  exact h s hmem p hp

/-- With a limit that fits into four bytes, all parameters of a search are settled. -/
theorem Search.settled_fragment (table key : String) {ss : List Selection} {limit : Option Int}
    (h : ∀ s ∈ ss, s.condition.Settled) (hpos : ∀ n, limit = some n → 0 < n)
    (hlimit : ∀ n, limit = some n → n ≤ 2147483647) :
    ∀ p ∈ (fragment table key (ss.map Selection.fragment) (limit.map .int)).params, p.Settled := by
  intro p hp
  rw [params_fragment, List.mem_append] at hp
  rcases hp with hp | hp
  · exact Selection.settled_params h p hp
  · cases limit with
    | none => cases hp
    | some n =>
      obtain rfl := List.mem_singleton.1 hp
      exact Param.settled_integer (hpos n rfl) (hlimit n rfl)

/-- A search whose limit fits into four bytes is bound with the very values that it was compiled to, each under the
name of its place. Any other limit is refused when it is bound, and nothing else ever is. -/
theorem rebound_of_compile {v tolerance : Value} {c : Criteria} (hc : Criteria.ofObject v tolerance = .ok c)
    {catalog : Catalog} {table : Value} {f : Fragment} (h : Search.compile catalog table c = .ok f) :
    ((∀ n, c.limit = some n → n ≤ 2147483647) → ∃ b, Bound.ofFragment f = .ok b ∧
      b.params.map BoundParam.value = f.params.map Param.value ∧
      b.params.map BoundParam.name = (List.range f.params.length).map Bound.paramName) ∧
    ∀ n, c.limit = some n → 2147483647 < n →
      Bound.ofFragment f = .error (ColumnType.integer.mismatch (.int n) none) := by
  have hstatement := Inquiry.statement_of_compile (q := .search c) h
  have hpos := limit_pos_of_build (Criteria.build_of_ofObject hc)
  obtain ⟨name, key, ss, -, hs, rfl⟩ := Search.compile_eq_ok h
  have hsettled := Selection.settled_of_ofCriteria hs
  constructor
  · intro hlimit
    have hall := Search.settled_fragment name key hsettled hpos hlimit
    obtain ⟨bs, hbs, hvalues⟩ := Bound.bindParams_of_settled hall 0
    refine ⟨_, Bound.ofFragment_of_bindParams hstatement.wellFormed hstatement.accepted hbs, hvalues, ?_⟩
    rw [List.range_eq_range']
    exact Bound.names_of_bindParams hbs
  · intro n hn hlarge
    -- the limit comes last, so all other parameters are bound before it is refused
    apply Bound.ofFragment_eq_error hstatement.wellFormed
    rw [Search.params_fragment, hn]
    exact Bound.bindParams_eq_error (Selection.settled_params hsettled) (Bound.bindParam_large hlarge) 0

theorem rebound_byName : ∃ f b, Search.compile .people (.text " People ") .byName = .ok f ∧
    Bound.ofFragment f = .ok b ∧ b.params.map BoundParam.value = [.text "O'Hara; --", .int 5] := by
  have hlimit : ∀ n, Criteria.byName.limit = some n → n ≤ 2147483647 := by
    rintro n ⟨⟩
    decide
  obtain ⟨b, hb, hvalues, -⟩ := (rebound_of_compile ofObject_byName Inquiry.compile_byName).1 hlimit
  exact ⟨_, b, Inquiry.compile_byName, hb, hvalues⟩

/-- Criteria as they are written, for more rows than four bytes count. -/
def Value.manyRows : Value := .object [(.text "limit", .int 2147483648)]

theorem unbound_manyRows : ∃ c f, Criteria.ofObject .manyRows .null = .ok c ∧
    Search.compile .people (.text "people") c = .ok f ∧ ∀ b, Bound.ofFragment f ≠ .ok b := by
  refine ⟨_, _, Criteria.ofObject_eq_build .null rfl, rfl, ?_⟩
  intro b h
  cases h

end FacetSearch

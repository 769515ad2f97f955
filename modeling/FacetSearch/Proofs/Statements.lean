import FacetSearch.Proofs.Selections
import FacetSearch.Query.Extraction
import FacetSearch.Query.Lookup
/-!
# Statements

An inquiry is whatever a table can be asked: a search, an extraction or a lookup. Each compiler ends in a
fragment that is written down here as a whole (`Search.fragment`, `Extraction.fragment`, `Lookup.fragment`), of
names, proper selections and values; `Inquiry.statement_of_compile` says so for all three. So laws of
statements need not look at a catalog again.
-/

namespace FacetSearch

open Fragment

/-- What is asked of a table. -/
inductive Inquiry where
  | search (c : Criteria)
  | extraction (e : Extraction)
  | lookup (identifiers : Value) (limit : Option Value)

/-- The statement for an inquiry on a table of the catalog. -/
def Inquiry.compile (catalog : Catalog) (table : Value) : Inquiry → Except Error Fragment
  | .search c => Search.compile catalog table c
  | .extraction e => Extraction.compile catalog table e
  | .lookup identifiers limit => Lookup.compile catalog table identifiers limit

/-- Fragments of proper selections. -/
def AllProper (sets : List Fragment) : Prop :=
  ∃ ss : List Selection, (∀ s ∈ ss, s.Proper) ∧ sets = ss.map Selection.fragment

theorem AllProper.wellFormed {sets : List Fragment} (h : AllProper sets) : ∀ f ∈ sets, f.WellFormed := by
  obtain ⟨ss, hs, rfl⟩ := h
  intro f hf
  obtain ⟨s, hmem, rfl⟩ := List.mem_map.1 hf
  exact (hs s hmem).wellFormed

theorem allProper_of_ofCriteria {catalog : Catalog} {v : Value} {c : Criteria} {ss : List Selection}
    (h : Selection.ofCriteria catalog v c = .ok ss) : AllProper (ss.map Selection.fragment) :=
  ⟨ss, Selection.proper_of_ofCriteria h, rfl⟩

theorem IsName.placeholders_eq {s : String} (h : IsName s) : placeholders s = 0 :=
  placeholders_eq_zero h.no_placeholder

/-! ## Searches -/

namespace Search

/-- A search as a whole. -/
def fragment (table key : String) (sets : List Fragment) (limit : Option Value) : Fragment :=
  ofText ("SELECT * FROM " ++ table) ++ restriction (" WHERE " ++ key ++ " IN (") sets ")" ++ limitClause limit

theorem statement_eq {table key : String} (ht : IsName table) (hk : IsName key) {sets : List Fragment}
    (h : ∀ f ∈ sets, f.WellFormed) (limit : Option Value) :
    statement table key sets limit = .ok (fragment table key sets limit) := by
  have htext : placeholders ("SELECT * FROM " ++ table) = 0 := by
    rw [placeholders_append, ht.placeholders_eq]
    rfl
  have ho : placeholders (" WHERE " ++ key ++ " IN (") = 0 := by
    rw [placeholders_append, placeholders_append, hk.placeholders_eq]
    rfl
  have hc : placeholders ")" = 0 := rfl
  simp only [statement, append_text _ htext, restricted_eq _ ho hc h, limited_eq, bind, Except.bind, empty_append]
  rfl

theorem wellFormed_fragment {table key : String} (ht : IsName table) (hk : IsName key) {sets : List Fragment}
    (h : ∀ f ∈ sets, f.WellFormed) (limit : Option Value) : (fragment table key sets limit).WellFormed := by
  refine (WellFormed.append (wellFormed_ofText ?_) (wellFormed_restriction ?_ rfl h)).append
    (wellFormed_limitClause limit)
  · rw [placeholders_append, ht.placeholders_eq]
    rfl
  · rw [placeholders_append, placeholders_append, hk.placeholders_eq]
    rfl

theorem compile_eq_ok {catalog : Catalog} {table : Value} {c : Criteria} {f : Fragment}
    (h : compile catalog table c = .ok f) : ∃ name key ss, Name.tableAndKey catalog table = .ok (name, key) ∧
      Selection.ofCriteria catalog table c = .ok ss ∧
      f = fragment name key (ss.map Selection.fragment) (c.limit.map .int) := by
  simp only [compile, compose, bind_eq_ok] at h
  obtain ⟨ss, hs, ⟨name, key⟩, hk, h⟩ := h
  obtain ⟨htable, hkey⟩ := Name.isName_of_tableAndKey hk
  rw [statement_eq htable hkey (allProper_of_ofCriteria hs).wellFormed] at h
  exact ⟨name, key, ss, hk, hs, (Except.ok.inj h).symm⟩

theorem compile_of_ofCriteria {catalog : Catalog} {table : Value} {c : Criteria} {name key : String}
    {ss : List Selection} (hk : Name.tableAndKey catalog table = .ok (name, key))
    (hs : Selection.ofCriteria catalog table c = .ok ss) :
    compile catalog table c = .ok (fragment name key (ss.map Selection.fragment) (c.limit.map .int)) := by
  obtain ⟨htable, hkey⟩ := Name.isName_of_tableAndKey hk
  simp only [compile, compose, hs, hk, bind, Except.bind]
  exact statement_eq htable hkey (allProper_of_ofCriteria hs).wellFormed _

end Search

/-! ## Extractions -/

namespace Extraction

/-- All names of an extraction are names. -/
structure Names.Proper (n : Names) : Prop where
  table : IsName n.table
  key : IsName n.key
  entity : IsName n.entity
  start : IsName n.start
  stop : IsName n.stop

/-- An extraction as a whole. -/
def fragment (n : Names) (inner outer : List Fragment) (lower upper : Value) (limit : Option Value) : Fragment :=
  ofText ("SELECT * FROM (SELECT base.*, ARRAY(SELECT related." ++ n.key ++ " FROM " ++ n.table ++
      " AS related WHERE ") ++
    restriction ("related." ++ n.key ++ " IN (") outer ") AND " ++
    ⟨relation n, [⟨lower, .double⟩, ⟨upper, .double⟩]⟩ ++
    ofText (" ORDER BY related." ++ n.start ++ ") AS extracted FROM " ++ n.table ++ " AS base") ++
    restriction (" WHERE base." ++ n.key ++ " IN (") inner ")" ++
    ofText (") AS extraction WHERE cardinality(extracted) > 0 ORDER BY " ++ n.entity ++ ", " ++ n.start) ++
    limitClause limit

theorem proper_of_names {catalog : Catalog} {table : Value} {e : Extraction} {n : Names}
    (h : e.names catalog table = .ok n) : n.Proper := by
  simp only [names, bind_eq_ok] at h
  obtain ⟨⟨table, key⟩, hk, entity, he, start, hs, stop, hp, h⟩ := h
  obtain rfl := pure_eq_ok.1 h
  obtain ⟨htable, hkey⟩ := Name.isName_of_tableAndKey hk
  exact ⟨htable, hkey, Name.isName_of_column he, Name.isName_of_column hs, Name.isName_of_column hp⟩

section

variable {n : Names} (hn : n.Proper)

include hn

theorem placeholders_opening : placeholders ("SELECT * FROM (SELECT base.*, ARRAY(SELECT related." ++ n.key ++
    " FROM " ++ n.table ++ " AS related WHERE ") = 0 := by
  simp only [placeholders_append, hn.key.placeholders_eq, hn.table.placeholders_eq]
  rfl

theorem placeholders_relation : placeholders (relation n) = 2 := by
  -- joining literals inside a long sum of texts takes exponential time
  unfold relation
  simp only [-String.reduceAppend, placeholders_append, hn.key.placeholders_eq, hn.entity.placeholders_eq,
    hn.start.placeholders_eq, hn.stop.placeholders_eq]
  decide +kernel

theorem placeholders_source : placeholders (" ORDER BY related." ++ n.start ++ ") AS extracted FROM " ++ n.table ++
    " AS base") = 0 := by
  simp only [placeholders_append, hn.start.placeholders_eq, hn.table.placeholders_eq]
  rfl

theorem placeholders_closing : placeholders (") AS extraction WHERE cardinality(extracted) > 0 ORDER BY " ++
    n.entity ++ ", " ++ n.start) = 0 := by
  simp only [placeholders_append, hn.entity.placeholders_eq, hn.start.placeholders_eq]
  rfl

theorem placeholders_keyIn {before : String} (hb : placeholders before = 0) :
    placeholders (before ++ n.key ++ " IN (") = 0 := by
  rw [placeholders_append, placeholders_append, hb, hn.key.placeholders_eq]
  rfl

theorem statement_eq {inner outer : List Fragment} (hi : ∀ f ∈ inner, f.WellFormed)
    (ho : ∀ f ∈ outer, f.WellFormed) (lower upper : Value) (limit : Option Value) :
    statement n inner outer lower upper limit = .ok (fragment n inner outer lower upper limit) := by
  have hrelated := placeholders_keyIn hn (show placeholders "related." = 0 from rfl)
  have hbase := placeholders_keyIn hn (show placeholders " WHERE base." = 0 from rfl)
  have hand : placeholders ") AND " = 0 := rfl
  have hclose : placeholders ")" = 0 := rfl
  have hrel : WellFormed ⟨relation n, [⟨lower, .double⟩, ⟨upper, .double⟩]⟩ :=
    wellFormed_mk (placeholders_relation hn)
  simp only [statement, append_text _ (placeholders_opening hn), restricted_eq _ hrelated hand ho, append_eq _ hrel,
    append_text _ (placeholders_source hn), restricted_eq _ hbase hclose hi, append_text _ (placeholders_closing hn),
    limited_eq, bind, Except.bind, empty_append]
  rfl

theorem wellFormed_fragment {inner outer : List Fragment} (hi : ∀ f ∈ inner, f.WellFormed)
    (ho : ∀ f ∈ outer, f.WellFormed) (lower upper : Value) (limit : Option Value) :
    (fragment n inner outer lower upper limit).WellFormed := by
  refine WellFormed.append (.append (.append (.append (.append (.append ?_ ?_) ?_) ?_) ?_) ?_)
    (wellFormed_limitClause limit)
  · exact wellFormed_ofText (placeholders_opening hn)
  · exact wellFormed_restriction (placeholders_keyIn hn rfl) rfl ho
  · exact wellFormed_mk (placeholders_relation hn)
  · exact wellFormed_ofText (placeholders_source hn)
  · exact wellFormed_restriction (placeholders_keyIn hn rfl) rfl hi
  · exact wellFormed_ofText (placeholders_closing hn)

end

theorem proper_of_prepare {catalog : Catalog} {table : Value} {e : Extraction} {n : Names} {lower upper : Value}
    (h : e.prepare catalog table = .ok (n, lower, upper)) : n.Proper := by
  simp only [prepare, bind_eq_ok] at h
  obtain ⟨n', hn, l, -, u, -, h⟩ := h
  split at h
  · obtain ⟨_, h, -⟩ := bind_eq_ok.1 h
    cases h
  · cases h
    exact proper_of_names hn

theorem compile_eq_ok {catalog : Catalog} {table : Value} {e : Extraction} {f : Fragment}
    (h : compile catalog table e = .ok f) : ∃ n lower upper inner outer,
      e.prepare catalog table = .ok (n, lower, upper) ∧
      Selection.ofCriteria catalog (.text n.table) e.inner = .ok inner ∧
      Selection.ofCriteria catalog (.text n.table) e.outer = .ok outer ∧
      f = fragment n (inner.map Selection.fragment) (outer.map Selection.fragment) lower upper e.limit := by
  simp only [compile, bind_eq_ok] at h
  obtain ⟨⟨n, lower, upper⟩, hp, inner, hi, outer, ho, h⟩ := h
  rw [statement_eq (proper_of_prepare hp) (allProper_of_ofCriteria hi).wellFormed
    (allProper_of_ofCriteria ho).wellFormed] at h
  exact ⟨n, lower, upper, inner, outer, hp, hi, ho, (Except.ok.inj h).symm⟩

theorem compile_of_prepare {catalog : Catalog} {table : Value} {e : Extraction} {n : Names} {lower upper : Value}
    {inner outer : List Selection} (hp : e.prepare catalog table = .ok (n, lower, upper))
    (hi : Selection.ofCriteria catalog (.text n.table) e.inner = .ok inner)
    (ho : Selection.ofCriteria catalog (.text n.table) e.outer = .ok outer) :
    compile catalog table e =
      .ok (fragment n (inner.map Selection.fragment) (outer.map Selection.fragment) lower upper e.limit) := by
  simp only [compile, hp, hi, ho, bind, Except.bind]
  exact statement_eq (proper_of_prepare hp) (allProper_of_ofCriteria hi).wellFormed
    (allProper_of_ofCriteria ho).wellFormed _ _ _

end Extraction

/-! ## Lookups -/

namespace Lookup

/-- A lookup as a whole. -/
def fragment (table key : String) (values : List Param) (limit : Option Value) : Fragment :=
  ofText ("SELECT * FROM " ++ table ++ " WHERE ") ++ (Condition.among key values).fragment ++ limitClause limit

section

variable {table key : String} (ht : IsName table) (hk : IsName key) {values : List Param} (hv : values ≠ [])

include ht hk hv

theorem wellFormed_opening :
    (ofText ("SELECT * FROM " ++ table ++ " WHERE ") ++ (Condition.among key values).fragment).WellFormed := by
  have htext : placeholders ("SELECT * FROM " ++ table ++ " WHERE ") = 0 := by
    rw [placeholders_append, placeholders_append, ht.placeholders_eq]
    rfl
  exact (wellFormed_ofText htext).append (Condition.Proper.among (.column hk) hv).wellFormed

theorem wellFormed_fragment (limit : Option Value) : (fragment table key values limit).WellFormed :=
  WellFormed.append (wellFormed_opening ht hk hv) (wellFormed_limitClause limit)

end

theorem append_opening {table key : String} {values : List Param} (ht : IsName table) (hk : IsName key)
    (hv : values ≠ []) :
    Fragment.empty.append ("SELECT * FROM " ++ table ++ " WHERE " ++ (Condition.among key values).sql)
        (Condition.among key values).params =
      .ok (ofText ("SELECT * FROM " ++ table ++ " WHERE ") ++ (Condition.among key values).fragment) := by
  have h := append_eq empty (wellFormed_opening ht hk hv)
  rwa [empty_append] at h

theorem itemsOf_ne_nil {v : Value} {f : ConfigurationFault} {items : List Value}
    (h : Selection.itemsOf v f = .ok items) : items ≠ [] := by
  unfold Selection.itemsOf at h
  split at h
  · cases h
  · rename_i htruthy
    split at h
    · rename_i xs hxs
      cases h
      cases v <;> simp_all [Value.items?, Value.isTruthy] <;> rintro rfl <;> simp_all
    · cases h

theorem params_ne_nil {items bound : List Value} {type : ColumnType} {column : Option Value} (hi : items ≠ [])
    (h : items.mapM (fun v => type.coerce v column) = .ok bound) : bound.map (fun v => Param.mk v type) ≠ [] := by
  intro hb
  rw [mapM_eq_ok, List.map_eq_nil_iff.1 hb] at h
  exact hi (List.forall₂_nil_right_iff.1 h)

theorem compile_eq_ok {catalog : Catalog} {table identifiers : Value} {limit : Option Value} {f : Fragment}
    (h : compile catalog table identifiers limit = .ok f) : ∃ name key items bound,
      Name.tableAndKey catalog table = .ok (name, key) ∧ Selection.itemsOf identifiers .noIdentifiers = .ok items ∧
      items.mapM (fun v => ((catalog.columnType? name key).getD .string).coerce v (some (.text key))) = .ok bound ∧
      f = fragment name key (bound.map fun v => ⟨v, (catalog.columnType? name key).getD .string⟩) limit := by
  simp only [compile, bind_eq_ok] at h
  obtain ⟨⟨name, key⟩, hk, items, hi, bound, hb, h⟩ := h
  obtain ⟨htable, hkey⟩ := Name.isName_of_tableAndKey hk
  rw [append_opening htable hkey (params_ne_nil (itemsOf_ne_nil hi) hb)] at h
  obtain ⟨g, hg, h⟩ := h
  obtain rfl := Except.ok.inj hg
  rw [limited_eq] at h
  exact ⟨name, key, items, bound, hk, hi, hb, (Except.ok.inj h).symm⟩

end Lookup

/-! ## Inquiries -/

/-- A catalog of one table. -/
def Catalog.people : Catalog := .ofLists [("people", [("id", some .uuid), ("name", some .string)])] [("people", ["id"])]

/-- Criteria for a name with characters that would do harm in the text of a statement. -/
def Criteria.byName : Criteria :=
  { tagGroups := [], attributeGroups := [], columnFilters := [("Name", [.text "O'Hara; --"])], numericFilters := [],
    matchMode := none, regexEnabled := false, limit := some 5 }

namespace Inquiry

/-- A search by a name. -/
def byName : Inquiry := .search .byName

open Error Selection

/-- Statements of inquiries are those of names, proper selections and values. -/
inductive Statement : Fragment → Prop
  | search {table key sets} (ht : IsName table) (hk : IsName key) (hs : AllProper sets) (limit) :
    Statement (Search.fragment table key sets limit)
  | extraction {n inner outer} (hn : n.Proper) (hi : AllProper inner) (ho : AllProper outer) (lower upper limit) :
    Statement (Extraction.fragment n inner outer lower upper limit)
  | lookup {table key values} (ht : IsName table) (hk : IsName key) (hv : values ≠ []) (limit) :
    Statement (Lookup.fragment table key values limit)

theorem statement_of_compile {catalog : Catalog} {table : Value} {q : Inquiry} {f : Fragment}
    (h : q.compile catalog table = .ok f) : Statement f := by
  cases q with
  | search c =>
    obtain ⟨name, key, ss, hk, hs, rfl⟩ := Search.compile_eq_ok h
    obtain ⟨htable, hkey⟩ := Name.isName_of_tableAndKey hk
    exact .search htable hkey (allProper_of_ofCriteria hs) _
  | extraction e =>
    obtain ⟨n, lower, upper, inner, outer, hp, hi, ho, rfl⟩ := Extraction.compile_eq_ok h
    exact .extraction (Extraction.proper_of_prepare hp) (allProper_of_ofCriteria hi) (allProper_of_ofCriteria ho) _ _ _
  | lookup identifiers limit =>
    obtain ⟨name, key, items, bound, hk, hi, hb, rfl⟩ := Lookup.compile_eq_ok h
    obtain ⟨htable, hkey⟩ := Name.isName_of_tableAndKey hk
    exact .lookup htable hkey (Lookup.params_ne_nil (Lookup.itemsOf_ne_nil hi) hb) _

theorem Statement.wellFormed {f : Fragment} (h : Statement f) : f.WellFormed := by
  cases h with
  | search ht hk hs limit => exact Search.wellFormed_fragment ht hk hs.wellFormed limit
  | extraction hn hi ho lower upper limit =>
    exact Extraction.wellFormed_fragment hn hi.wellFormed ho.wellFormed lower upper limit
  | lookup ht hk hv limit => exact Lookup.wellFormed_fragment ht hk hv limit

/-- Inquiries fail for many reasons, but never because placeholders and parameters disagree. -/
theorem compile_failsOnly (catalog : Catalog) (table : Value) (q : Inquiry) :
    FailsOnly NotBinding (q.compile catalog table) := by
  cases q with
  | search c =>
    refine .bind (ofCriteria_failsOnly catalog table c) fun ss hs => .bind (tableAndKey_failsOnly catalog table)
      fun ⟨name, key⟩ hk => ?_
    obtain ⟨htable, hkey⟩ := Name.isName_of_tableAndKey hk
    exact .of_eq_ok (Search.statement_eq htable hkey (allProper_of_ofCriteria hs).wellFormed _)
  | extraction e =>
    refine .bind (.bind (.bind (tableAndKey_failsOnly catalog table) fun _ _ => .bind (column_failsOnly _ _ _)
      fun _ _ => .bind (column_failsOnly _ _ _) fun _ _ => .bind (column_failsOnly _ _ _) fun _ _ => .ok _) fun n _ =>
      .bind (coerce_failsOnly _ _ _) fun _ _ => .bind (coerce_failsOnly _ _ _) fun _ _ =>
        .ite (fun _ => .throw (notBinding_configuration _)) fun _ => .ok _) fun ⟨n, lower, upper⟩ hp => ?_
    refine .bind (ofCriteria_failsOnly _ _ _) fun inner hi => .bind (ofCriteria_failsOnly _ _ _) fun outer ho => ?_
    exact .of_eq_ok (Extraction.statement_eq (Extraction.proper_of_prepare hp)
      (allProper_of_ofCriteria hi).wellFormed (allProper_of_ofCriteria ho).wellFormed _ _ _)
  | lookup identifiers limit =>
    refine .bind (tableAndKey_failsOnly catalog table) fun ⟨name, key⟩ hk => .bind (itemsOf_failsOnly _ _)
      fun items hi => .bind (.mapM fun v _ => coerce_failsOnly _ _ _) fun bound hb => ?_
    obtain ⟨htable, hkey⟩ := Name.isName_of_tableAndKey hk
    refine .bind (.of_eq_ok (Lookup.append_opening htable hkey
      (Lookup.params_ne_nil (Lookup.itemsOf_ne_nil hi) hb))) fun g _ => .of_eq_ok (limited_eq g limit)

theorem compile_byName : byName.compile .people (.text " People ") =
    .ok ⟨"SELECT * FROM people WHERE id IN (SELECT id FROM people WHERE UPPER(name) IN (UPPER(?))) LIMIT ?",
      [⟨.text "O'Hara; --", .string⟩, ⟨.int 5, .integer⟩]⟩ := by
  rfl

end Inquiry

end FacetSearch

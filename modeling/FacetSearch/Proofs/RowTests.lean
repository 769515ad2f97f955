import FacetSearch.Proofs.Answers
/-!
# Which rows a search answers for its filters

A column filter or numeric filter is a test of one row (`Criteria.rowTests`), but a search asks for the keys of the
rows that pass it, and a key is the first column of a primary key. So a row that is answered has a row with its key for
each filter that passes it, and passes all of them itself if no other row has its key, as in a table whose primary key
has one column (`rowTests_of_answer`). Where rows share the first column of a longer key, a row is answered for what
others say (`answer_sharedKey`).
-/

namespace FacetSearch

open Sql

/-! ## Tests of rows -/

namespace Criteria

variable (s : Server)

/-- The column of the row is what one of the values says, as a literal of the column's type. -/
def columnTest (catalog : Catalog) (table : String) (regex : Bool) (filter : String × List Value) (row : Row) : Prop :=
  ∃ type, catalog.columnType? table (Text.lower (Text.strip filter.1)) = some type ∧
    ∃ v ∈ filter.2, ∃ literal, type.literal? v = some literal ∧
      meets s type regex (row.cell (Text.lower (Text.strip filter.1))) literal = true

/-- The column of the row lies in the window around one of the centres. -/
def windowTest (filter : String × NumericFilter) (row : Row) : Prop :=
  ∃ centre ∈ filter.2.centres, ∃ low high l u,
    centre.sum filter.2.lower = .ok low ∧ centre.sum filter.2.upper = .ok high ∧
    ColumnType.double.literal? low = some l ∧ ColumnType.double.literal? high = some u ∧
    s.isBetween (row.cell (Text.lower (Text.strip filter.1))) l u = true

/-- The tests that criteria put to a row: one for each column filter and each numeric filter. -/
def rowTests (catalog : Catalog) (table : String) (c : Criteria) : List (Row → Prop) :=
  c.columnFilters.map (columnTest s catalog table c.regexEnabled) ++ c.numericFilters.map (windowTest s)

variable {s} {db : Sql.Database}

/-- A column of texts is compared with a text in capitals. -/
theorem columnTest_text {catalog : Catalog} {table name text : String} {row : Row}
    (h : catalog.columnType? table (Text.lower (Text.strip name)) = some .string) :
    columnTest s catalog table false (name, [.text text]) row ↔
      s.sameFolded (row.cell (Text.lower (Text.strip name))) (.text text) = true := by
  have hl : ColumnType.string.literal? (.text text) = some (.text text) := rfl
  simp [columnTest, h, hl, meets]

/-- The keys of the rows that pass a test are among the sets that a search is restricted to. -/
theorem keys_mem_identifierSets {catalog : Catalog} {table : String} (key : String) {c : Criteria} {test : Row → Prop}
    (h : test ∈ c.rowTests s catalog table) :
    {id | ∃ row ∈ db.rows table, test row ∧ id = row.cell key} ∈ c.identifierSets s db catalog table key := by
  rcases List.mem_append.1 h with h | h
  · obtain ⟨filter, hf, rfl⟩ := List.mem_map.1 h
    exact List.mem_append_left _ (List.mem_append_right _ (List.mem_map_of_mem hf))
  · obtain ⟨filter, hf, rfl⟩ := List.mem_map.1 h
    exact List.mem_append_right _ (List.mem_map_of_mem hf)

end Criteria

/-! ## Rows of answers -/

/-- A limit leaves only rows that are there without it. -/
theorem Sql.Statement.mem_rows_of_answer {s : Server} {db : Sql.Database} {st : Statement} {rows : List Row}
    (h : st.answer s db = some rows) {row : Row} (hrow : row ∈ rows) : row ∈ st.query.rows s db [] := by
  unfold Statement.answer at h
  split at h
  · cases h
    exact hrow
  · unfold cut at h
    split at h
    · cases h
      exact hrow
    · split at h
      · cases h
        exact List.mem_of_mem_take hrow
      · cases h
    · cases h

/-- What a search answers is what its statement means. -/
theorem answer_fragment {catalog : Catalog} {table : Value} {c : Criteria} {name key : String} {ss : List Selection}
    (hk : Name.tableAndKey catalog table = .ok (name, key)) (hs : Selection.ofCriteria catalog table c = .ok ss)
    (limit : Option Value) (s : Server) (db : Sql.Database) :
    (Search.fragment name key (ss.map Selection.fragment) limit).answer s db =
      (Statement.ofSearch name key ss limit).answer s db := by
  obtain ⟨htable, hkey⟩ := Name.isName_of_tableAndKey hk
  rw [Fragment.answer, read_search htable hkey (Selection.proper_of_ofCriteria hs), Option.bind_eq_bind,
    Option.bind_some]

/-- A row that a search answers is one of its table, with a key that is in all sets of identifiers. -/
theorem mem_of_answer {catalog : Catalog} {table : Value} {c : Criteria} {f : Fragment}
    (h : Search.compile catalog table c = .ok f) {s : Server} {db : Sql.Database} {rows : List Row}
    (hr : f.answer s db = some rows) : ∃ name key, Name.tableAndKey catalog table = .ok (name, key) ∧
      ∀ row ∈ rows, row ∈ db.rows name ∧
        ∀ ids ∈ c.identifierSets s db catalog name key, ∃ id ∈ ids, s.same (row.cell key) id = true := by
  obtain ⟨name, key, ss, hk, hs, rfl⟩ := Search.compile_eq_ok h
  rw [answer_fragment hk hs] at hr
  refine ⟨name, key, hk, fun row hrow => ?_⟩
  have hmem := Statement.mem_rows_of_answer hr hrow
  rw [rows_ofSearch, List.mem_filter, holds_ofSelections, yields_iff_identifierSets hk hs] at hmem
  exact hmem

/-- No two rows of a table agree in all columns of its primary key. -/
def Sql.Database.WellKeyed (s : Server) (db : Sql.Database) (catalog : Catalog) (table : String) : Prop :=
  ∀ row ∈ db.rows table, ∀ other ∈ db.rows table,
    (∀ k ∈ catalog.primaryKey table, ∃ column, Name.check k.toValue = .ok column ∧
      s.same (row.cell column) (other.cell column) = true) → other = row

/-- A search answers rows of its table. For each filter some row with the same key passes, whatever the primary key of
the table; a row whose key no other row has passes all filters itself, and where the primary key is one column that are
all rows. -/
theorem rowTests_of_answer {catalog : Catalog} {table : Value} {c : Criteria} {f : Fragment}
    (h : Search.compile catalog table c = .ok f) {s : Server} {db : Sql.Database} {rows : List Row}
    (hr : f.answer s db = some rows) : ∃ name key, Name.tableAndKey catalog table = .ok (name, key) ∧
      (∀ row ∈ rows, row ∈ db.rows name ∧
        (∀ test ∈ c.rowTests s catalog name,
          ∃ other ∈ db.rows name, s.same (row.cell key) (other.cell key) = true ∧ test other) ∧
        ((∀ other ∈ db.rows name, s.same (row.cell key) (other.cell key) = true → other = row) →
          ∀ test ∈ c.rowTests s catalog name, test row)) ∧
      ((catalog.primaryKey name).length = 1 → db.WellKeyed s catalog name →
        ∀ row ∈ rows, ∀ test ∈ c.rowTests s catalog name, test row) := by
  obtain ⟨name, key, hk, hrows⟩ := mem_of_answer h hr
  have hshared : ∀ row ∈ rows, ∀ test ∈ c.rowTests s catalog name,
      ∃ other ∈ db.rows name, s.same (row.cell key) (other.cell key) = true ∧ test other := by
    intro row hrow test htest
    obtain ⟨_, ⟨other, hother, hpass, rfl⟩, hsame⟩ :=
      (hrows row hrow).2 _ (Criteria.keys_mem_identifierSets key htest)
    exact ⟨other, hother, hsame, hpass⟩
  have halone : ∀ row ∈ rows,
      (∀ other ∈ db.rows name, s.same (row.cell key) (other.cell key) = true → other = row) →
      ∀ test ∈ c.rowTests s catalog name, test row := by
    intro row hrow hunique test htest
    obtain ⟨other, hother, hsame, hpass⟩ := hshared row hrow test htest
    exact hunique other hother hsame ▸ hpass
  refine ⟨name, key, hk, fun row hrow => ⟨(hrows row hrow).1, hshared row hrow, halone row hrow⟩, ?_⟩
  intro hone hkeyed row hrow
  obtain ⟨-, k, rest, hkeys, hcheck⟩ := Name.tableAndKey_eq_ok.1 hk
  obtain rfl : rest = [] := by simpa [hkeys] using hone
  refine halone row hrow fun other hother hsame => hkeyed row (hrows row hrow).1 other hother ?_
  rw [hkeys]
  intro k' hk'
  obtain rfl := List.mem_singleton.1 hk'
  exact ⟨key, hcheck, hsame⟩

/-! ### A person, and two links from one source -/

theorem wellKeyed_people : Sql.Database.people.WellKeyed .byText .people "people" := by
  intro row hrow other hother hsame
  obtain ⟨column, hcolumn, hsame⟩ := hsame (.text "id") List.mem_cons_self
  obtain rfl : "id" = column := Except.ok.inj hcolumn
  rcases List.mem_pair.1 hrow with rfl | rfl <;> rcases List.mem_pair.1 hother with rfl | rfl
  · rfl
  · cases hsame
  · cases hsame
  · rfl

theorem rowTests_byName : ∃ f rows, Search.compile .people (.text " People ") .byName = .ok f ∧
    f.answer .byText .people = some rows ∧ rows ≠ [] ∧
    ∀ row ∈ rows, ∀ test ∈ Criteria.byName.rowTests .byText .people "people", test row := by
  obtain ⟨ss, hs⟩ : ∃ ss, Selection.ofCriteria .people (.text " People ") .byName = .ok ss := ⟨_, rfl⟩
  have hk : Name.tableAndKey .people (.text " People ") = .ok ("people", "id") := rfl
  have hcompile := Search.compile_of_ofCriteria hk hs
  have hanswer := answer_fragment hk hs (Criteria.byName.limit.map .int) .byText .people
  rw [answer_ofSearch _ _ _ _ _ (by rintro n ⟨⟩; decide)] at hanswer
  obtain ⟨name, key, hk', -, hall⟩ := rowTests_of_answer hcompile hanswer
  obtain ⟨rfl, rfl⟩ : "people" = name ∧ "id" = key := Prod.mk.inj (Except.ok.inj (hk.symm.trans hk'))
  refine ⟨_, _, hcompile, hanswer, ?_, hall rfl wellKeyed_people⟩
  cases hs
  exact List.cons_ne_nil _ _

/-- A catalog of a table whose primary key has two columns. -/
def Catalog.links : Catalog :=
  .ofLists [("links", [("source", some .string), ("target", some .string), ("kind", some .string)])]
    [("links", ["source", "target"])]

/-- A database of two links. -/
def Sql.Database.links : Database where
  rows
    | "links" => [[("source", .text "a"), ("target", .text "b"), ("kind", .text "road")],
        [("source", .text "a"), ("target", .text "c"), ("kind", .text "rail")]]
    | _ => []

/-- Criteria for the target of the one link and the kind of the other. -/
def Criteria.byTargetAndKind : Criteria :=
  { tagGroups := [], attributeGroups := [], columnFilters := [("target", [.text "b"]), ("kind", [.text "rail"])],
    numericFilters := [], matchMode := none, regexEnabled := false, limit := none }

theorem wellKeyed_links : Sql.Database.links.WellKeyed .byText .links "links" := by
  intro row hrow other hother hsame
  obtain ⟨column, hcolumn, hsame⟩ := hsame (.text "target") (List.mem_cons_of_mem _ List.mem_cons_self)
  obtain rfl : "target" = column := Except.ok.inj hcolumn
  rcases List.mem_pair.1 hrow with rfl | rfl <;> rcases List.mem_pair.1 hother with rfl | rfl
  · rfl
  · cases hsame
  · cases hsame
  · rfl

/-- Both links are answered for the key they share, though neither has the target and the kind. -/
theorem answer_sharedKey : Sql.Database.links.WellKeyed .byText .links "links" ∧
    ∃ f, Search.compile .links (.text "links") .byTargetAndKind = .ok f ∧
      f.answer .byText .links = some (Sql.Database.links.rows "links") ∧
      ∀ row ∈ Sql.Database.links.rows "links",
        ∃ test ∈ Criteria.byTargetAndKind.rowTests .byText .links "links", ¬test row := by
  obtain ⟨ss, hs⟩ : ∃ ss, Selection.ofCriteria .links (.text "links") .byTargetAndKind = .ok ss := ⟨_, rfl⟩
  refine ⟨wellKeyed_links, _, Search.compile_of_ofCriteria rfl hs, ?_, ?_⟩
  · rw [answer_fragment rfl hs, answer_ofSearch _ _ _ _ _ (by rintro n ⟨⟩)]
    cases hs
    rfl
  · intro row hrow
    rcases List.mem_pair.1 hrow with rfl | rfl
    · refine ⟨_, List.mem_cons_of_mem _ List.mem_cons_self, fun h => ?_⟩
      cases (Criteria.columnTest_text rfl).1 h
    · refine ⟨_, List.mem_cons_self, fun h => ?_⟩
      cases (Criteria.columnTest_text rfl).1 h

end FacetSearch

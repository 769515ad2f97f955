import FacetSearch.Proofs.Extractions
import FacetSearch.Proofs.Sql.Scope
/-!
# Statements name what a catalog has

Every table in a compiled statement is one of the catalog, and every column is one that the catalog has for the table
that it is taken from, but for the key: that is the first column of the primary key, which nobody looks up
(`scoped_of_compile`). What another catalog has and this one does not makes it refuse an inquiry with an error of the
schema, and nothing else comes of it (`compile_misses`).
-/

namespace FacetSearch

open Sql

/-- The tables of a catalog and their columns. -/
def Catalog.schema (c : Catalog) : Schema where
  table t := c.hasTable t = true
  column t col := c.hasColumn t col = true

/-- The names of a statement on a table are in the catalog, where the first column of the primary key counts as one of
the table. -/
def Catalog.Covers (c : Catalog) (table : Value) (st : Statement) : Prop :=
  ∃ name key, Name.tableAndKey c table = .ok (name, key) ∧ st.Scoped (c.schema.withColumn name key)

theorem Catalog.hasTable_of_hasColumn {c : Catalog} {t col : CatalogName} (h : c.hasColumn t col = true) :
    c.hasTable t = true := by
  unfold hasColumn columns at h
  unfold hasTable
  cases ht : Keyed.get? c.tables t with
  | none =>
    rw [ht] at h
    cases h
  | some columns => rfl

/-- A key that is a column of its table is no further one. -/
theorem Catalog.withColumn_eq {c : Catalog} {t col : String} (h : c.hasColumn t col = true) :
    c.schema.withColumn t col = c.schema := by
  have hcolumn : ∀ t' c', (c.schema.column t' c' ∨ t' = t ∧ c' = col) = c.schema.column t' c' := by
    intro t' c'
    refine propext ⟨?_, .inl⟩
    rintro (h' | ⟨rfl, rfl⟩)
    · exact h'
    · exact h
  simp only [Schema.withColumn, hcolumn]

theorem Name.hasColumn_of_column {catalog : Catalog} {table n : String} {v : Value} (ht : IsName table)
    (h : column catalog (.text table) v = .ok n) : catalog.hasColumn table n = true := by
  obtain ⟨-, t, hvalue, hn⟩ := column_eq_ok.1 h
  rw [ofValue_name ht] at hvalue
  obtain rfl := Except.ok.inj hvalue
  exact hn

/-! ## What is named -/

namespace Selection

theorem requiredColumns_of_ofGroup {catalog : Catalog} {kind : GroupKind} {table group : Value} {mode : Option MatchMode}
    {regex : Bool} {s : Selection} (h : ofGroup catalog kind table group mode regex = .ok s) :
    ∀ p ∈ kind.requiredColumns, catalog.hasColumn p.1 p.2 = true := by
  simp only [ofGroup, bind_eq_ok] at h
  obtain ⟨literals, -, _, hc, -⟩ := h
  unfold checkColumns at hc
  split at hc
  · cases hc
  · rename_i hnone
    intro p hp
    simpa using List.find?_eq_none.1 hnone p hp

section

variable {catalog : Catalog} {table key : String} (hk : Name.tableAndKey catalog (.text table) = .ok (table, key))

include hk

/-- Selections of rows of the table need no more than their condition does. -/
theorem scoped_rows {c : Condition} {outer : Frame} (hc : (Test.ofCondition c).Scoped (catalog.schema.withColumn table key)
      ((table, (catalog.schema.withColumn table key).column table) :: outer)) :
    (Query.ofSelection ⟨.rows table key, c⟩).Scoped (catalog.schema.withColumn table key) outer := by
  have htable : catalog.hasTable table = true := (Name.table_eq_ok.1 (Name.tableAndKey_eq_ok.1 hk).1).2
  exact Query.scoped_rows htable (Schema.withColumn_self _ table key) hc

omit hk in
theorem scoped_of_ofGroup {kind : GroupKind} {v : Value} {group : Group} {mode : Option MatchMode} {regex : Bool}
    {s : Selection} (h : ofGroup catalog kind v (.list (group.map .text)) mode regex = .ok s) (outer : Frame) :
    (Query.ofSelection s).Scoped (catalog.schema.withColumn table key) outer := by
  have hcolumns := requiredColumns_of_ofGroup h
  obtain ⟨-, c, hc, rfl⟩ := ofGroup_eq_ok h
  exact Query.scoped_group (fun p hp => ⟨Catalog.hasTable_of_hasColumn (hcolumns p hp),
    Schema.withColumn_of_column (hcolumns p hp) _ _⟩) hc _ _

theorem scoped_of_ofColumn {column : String} {values : List Value} {regex : Bool} {s : Selection}
    (h : ofColumn catalog (.text table) (.text key) (.text column) (.list values) regex = .ok s) (outer : Frame) :
    (Query.ofSelection s).Scoped (catalog.schema.withColumn table key) outer := by
  obtain ⟨name, t, type, literals, hn, -, -, -, -, rfl⟩ := ofColumn_eq_ok h
  refine scoped_rows hk (Test.scoped_columnCondition ?_ type regex _)
  rw [(Name.isName_of_column hn).reference_eq]
  exact .inl (Name.hasColumn_of_column (Name.isName_of_tableAndKey hk).1 hn)

theorem scoped_of_ofNumeric {column : String} {f : NumericFilter} {s : Selection}
    (h : ofNumeric catalog (.text table) (.text key) (.text column) f.toValue = .ok s) (outer : Frame) :
    (Query.ofSelection s).Scoped (catalog.schema.withColumn table key) outer := by
  obtain ⟨name, t, type, windows, cs, hn, -, -, -, -, -, hcs, rfl⟩ := ofNumeric_eq_ok h
  refine scoped_rows hk (Test.scoped_ofAlternatives fun c hc => ?_)
  obtain ⟨w, -, hw⟩ := exists_of_mem_right hcs hc
  obtain ⟨l, u, -, -, rfl⟩ := windowCondition_eq_ok hw
  refine ⟨?_, trivial, trivial⟩
  rw [(Name.isName_of_column hn).reference_eq]
  exact .inl (Name.hasColumn_of_column (Name.isName_of_tableAndKey hk).1 hn)

end

theorem scoped_of_ofCriteria {catalog : Catalog} {v : Value} {c : Criteria} {ss : List Selection} {name key : String}
    (hk : Name.tableAndKey catalog v = .ok (name, key)) (h : ofCriteria catalog v c = .ok ss) :
    ∀ s ∈ ss, ∀ outer, (Query.ofSelection s).Scoped (catalog.schema.withColumn name key) outer := by
  obtain ⟨name', key', tags, attributes, columns, numeric, hk', rfl, ht, ha, hc, hn⟩ := ofCriteria_eq_ok h
  obtain ⟨rfl, rfl⟩ := Prod.mk.inj (Except.ok.inj (hk.symm.trans hk'))
  have hname := Name.tableAndKey_name hk
  intro s hs outer
  simp only [List.mem_append] at hs
  rcases hs with ((hs | hs) | hs) | hs
  · obtain ⟨g, -, hg⟩ := exists_of_mem_right ht hs
    exact scoped_of_ofGroup hg outer
  · obtain ⟨g, -, hg⟩ := exists_of_mem_right ha hs
    exact scoped_of_ofGroup hg outer
  · obtain ⟨e, -, he⟩ := exists_of_mem_right hc hs
    exact scoped_of_ofColumn hname he outer
  · obtain ⟨e, -, he⟩ := exists_of_mem_right hn hs
    exact scoped_of_ofNumeric hname he outer

end Selection

theorem Extraction.hasColumn_of_names {catalog : Catalog} {table : Value} {e : Extraction} {n : Names}
    (h : e.names catalog table = .ok n) : catalog.hasColumn n.table n.entity = true ∧
      catalog.hasColumn n.table n.start = true ∧ catalog.hasColumn n.table n.stop = true := by
  simp only [names, bind_eq_ok] at h
  obtain ⟨⟨name, key⟩, hk, entity, he, start, hs, stop, hp, h⟩ := h
  obtain rfl := pure_eq_ok.1 h
  have hname := (Name.isName_of_tableAndKey hk).1
  exact ⟨Name.hasColumn_of_column hname he, Name.hasColumn_of_column hname hs, Name.hasColumn_of_column hname hp⟩

theorem covers_of_compile {catalog : Catalog} {table : Value} {q : Inquiry} {f : Fragment}
    (h : q.compile catalog table = .ok f) : ∃ st, Statement.read f.tokens = some st ∧ catalog.Covers table st := by
  cases q with
  | search c =>
    obtain ⟨name, key, ss, hk, hs, rfl⟩ := Search.compile_eq_ok h
    obtain ⟨hname, hkey⟩ := Name.isName_of_tableAndKey hk
    have htable : catalog.hasTable name = true := (Name.table_eq_ok.1 (Name.tableAndKey_eq_ok.1 hk).1).2
    exact ⟨_, read_search hname hkey (Selection.proper_of_ofCriteria hs) _, name, key, hk,
      Statement.scoped_ofSearch (Selection.scoped_of_ofCriteria hk hs) htable (Schema.withColumn_self _ _ _) _⟩
  | extraction e =>
    obtain ⟨n, lower, upper, inner, outer, hp, hi, ho, rfl⟩ := Extraction.compile_eq_ok h
    obtain ⟨hn, -, -⟩ := Extraction.prepare_eq_ok hp
    have hk := Extraction.tableAndKey_of_names hn
    have hk' := Name.tableAndKey_name hk
    have htable : catalog.hasTable n.table = true := (Name.table_eq_ok.1 (Name.tableAndKey_eq_ok.1 hk).1).2
    obtain ⟨hentity, hstart, hstop⟩ := Extraction.hasColumn_of_names hn
    exact ⟨_, read_extraction lower upper (Extraction.proper_of_names hn) (Selection.proper_of_ofCriteria hi)
      (Selection.proper_of_ofCriteria ho) _, n.table, n.key, hk,
      Statement.scoped_ofExtraction (Selection.scoped_of_ofCriteria hk' hi) (Selection.scoped_of_ofCriteria hk' ho)
        htable (Schema.withColumn_self _ _ _) (.inl hentity) (.inl hstart) (.inl hstop) lower upper _⟩
  | lookup identifiers limit =>
    obtain ⟨name, key, items, bound, hk, hi, hb, rfl⟩ := Lookup.compile_eq_ok h
    obtain ⟨hname, hkey⟩ := Name.isName_of_tableAndKey hk
    have htable : catalog.hasTable name = true := (Name.table_eq_ok.1 (Name.tableAndKey_eq_ok.1 hk).1).2
    exact ⟨_, read_lookup hname hkey (Lookup.params_ne_nil (Lookup.itemsOf_ne_nil hi) hb) _, name, key, hk,
      Statement.scoped_ofLookup hkey htable (Schema.withColumn_self _ _ _) _ _⟩

/-! ## What is missing -/

/-- What the first catalog has, it has as the second does: columns of the same types, and the same primary keys, whose
first columns have the same types too. -/
structure Catalog.Within (c d : Catalog) : Prop where
  type : ∀ t col, c.hasColumn t col = true → c.columnType? t col = d.columnType? t col
  key : ∀ t key rest, c.primaryKey t = key :: rest → d.primaryKey t = key :: rest
  keyType : ∀ t key rest k, c.primaryKey t = key :: rest → Name.check key.toValue = .ok k →
    c.columnType? t k = d.columnType? t k

/-- If the second run succeeds, the first one does the same or is refused with an error of the schema. -/
def Misses {α : Type} (x y : Except Error α) : Prop := ∀ a, y = .ok a → x = .ok a ∨ ∃ e, x = .error (.schema e)

namespace Misses

variable {α β : Type}

theorem refl (x : Except Error α) : Misses x x := fun _ h => .inl h

theorem refused (e : SchemaFault) (y : Except Error α) : Misses (.error (.schema e)) y := fun _ _ => .inr ⟨e, rfl⟩

theorem bind {x y : Except Error α} {f g : α → Except Error β} (hx : Misses x y)
    (hf : ∀ a, x = .ok a → y = .ok a → Misses (f a) (g a)) : Misses (x >>= f) (y >>= g) := by
  intro b hb
  obtain ⟨a, ha, hb⟩ := bind_eq_ok.1 hb
  rcases hx a ha with hxa | ⟨e, rfl⟩
  · rw [hxa]
    exact hf a hxa ha b hb
  · exact .inr ⟨e, rfl⟩

theorem mapM {f g : α → Except Error β} (h : ∀ a, Misses (f a) (g a)) (as : List α) :
    Misses (as.mapM f) (as.mapM g) := by
  induction as with
  | nil => exact refl _
  | cons a as ih =>
    rw [List.mapM_cons, List.mapM_cons]
    exact bind (h a) fun _ _ _ => bind ih fun _ _ _ => refl _

end Misses

section

variable {c d : Catalog} (hw : c.Within d)

namespace Name

theorem table_misses (c d : Catalog) (v : Value) : Misses (table c v) (table d v) := by
  refine .bind (.refl _) fun n _ _ => ?_
  intro m hm
  split
  · split at hm
    · exact .inl hm
    · cases hm
  · exact .inr ⟨_, rfl⟩

include hw

theorem tableAndKey_misses (v : Value) : Misses (tableAndKey c v) (tableAndKey d v) := by
  refine .bind (table_misses c d v) fun n _ _ => ?_
  cases hc : c.primaryKey n with
  | nil => exact .refused _ _
  | cons key rest =>
    rw [hw.key n key rest hc]
    exact .refl _

omit hw in
theorem column_misses (c d : Catalog) (t v : Value) : Misses (column c t v) (column d t v) := by
  refine .bind (.refl _) fun n _ _ => .bind (.refl _) fun t' _ _ => ?_
  intro m hm
  split
  · split at hm
    · exact .inl hm
    · cases hm
  · exact .inr ⟨_, rfl⟩

/-- A column that is found has the same type. -/
theorem columnType?_of_column {t v : Value} {n : String} (h : column c t v = .ok n) :
    ∃ t', CatalogName.ofValue t = .ok t' ∧ c.columnType? t' n = d.columnType? t' n := by
  obtain ⟨-, t', ht, hn⟩ := column_eq_ok.1 h
  exact ⟨t', ht, hw.type t' n hn⟩

end Name

namespace Selection

omit hw in
theorem checkColumns_misses (c d : Catalog) (kind : GroupKind) : Misses (checkColumns c kind) (checkColumns d kind) := by
  intro u _
  unfold checkColumns
  split
  · exact .inr ⟨_, rfl⟩
  · exact .inl rfl

include hw

theorem ofColumn_misses (table key column values : Value) (regex : Bool) :
    Misses (ofColumn c table key column values regex) (ofColumn d table key column values regex) := by
  refine .bind (Name.column_misses c d table column) fun name hc _ => ?_
  obtain ⟨t, ht, htype⟩ := Name.columnType?_of_column hw hc
  simp only [ht, bind, Except.bind, htype]
  exact .refl _

theorem ofNumeric_misses (table key column numeric : Value) :
    Misses (ofNumeric c table key column numeric) (ofNumeric d table key column numeric) := by
  refine .bind (Name.column_misses c d table column) fun name hc _ => ?_
  obtain ⟨t, ht, htype⟩ := Name.columnType?_of_column hw hc
  simp only [ht, bind, Except.bind, htype]
  exact .refl _

theorem ofCriteria_misses (v : Value) (criteria : Criteria) : Misses (ofCriteria c v criteria) (ofCriteria d v criteria) := by
  have hgroup (kind : GroupKind) (table group : Value) : Misses
      (ofGroup c kind table group criteria.matchMode criteria.regexEnabled)
      (ofGroup d kind table group criteria.matchMode criteria.regexEnabled) :=
    .bind (.refl _) fun _ _ _ => .bind (checkColumns_misses c d kind) fun _ _ _ => .refl _
  exact .bind (Name.tableAndKey_misses hw v) fun _ _ _ => .bind (.mapM (fun _ => hgroup _ _ _) _) fun _ _ _ =>
    .bind (.mapM (fun _ => hgroup _ _ _) _) fun _ _ _ => .bind (.mapM (fun _ => ofColumn_misses hw _ _ _ _ _) _)
      fun _ _ _ => .bind (.mapM (fun _ => ofNumeric_misses hw _ _ _ _) _) fun _ _ _ => .refl _

end Selection

include hw

theorem compile_misses (table : Value) (q : Inquiry) : Misses (q.compile c table) (q.compile d table) := by
  cases q with
  | search criteria =>
    exact .bind (Selection.ofCriteria_misses hw table criteria) fun _ _ _ =>
      .bind (Name.tableAndKey_misses hw table) fun _ _ _ => .refl _
  | extraction e =>
    refine .bind (.bind ?_ fun _ _ _ => .refl _) fun _ _ _ => .bind (Selection.ofCriteria_misses hw _ _) fun _ _ _ =>
      .bind (Selection.ofCriteria_misses hw _ _) fun _ _ _ => .refl _
    exact .bind (Name.tableAndKey_misses hw table) fun _ _ _ => .bind (Name.column_misses c d _ _) fun _ _ _ =>
      .bind (Name.column_misses c d _ _) fun _ _ _ => .bind (Name.column_misses c d _ _) fun _ _ _ => .refl _
  | lookup identifiers limit =>
    refine .bind (Name.tableAndKey_misses hw table) fun (name, key) hc _ => ?_
    obtain ⟨-, k, rest, hk, hcheck⟩ := Name.tableAndKey_eq_ok.1 hc
    simp only [hw.keyType name k rest key hk hcheck]
    exact .refl _

end

/-- A compiled statement names tables of the catalog and columns of theirs, where the key is the first column of the
primary key; if that is a column of the table, all names are in the catalog. If a name is not there, but all would be
well with a catalog that has it too, there is an error of the schema. -/
theorem scoped_of_compile (catalog : Catalog) (table : Value) (q : Inquiry) :
    (∀ f, q.compile catalog table = .ok f → ∃ st, Statement.read f.tokens = some st ∧ catalog.Covers table st ∧
      ((∀ name key, Name.tableAndKey catalog table = .ok (name, key) → catalog.hasColumn name key = true) →
        st.Scoped catalog.schema)) ∧
    ∀ full f st, catalog.Within full → q.compile full table = .ok f → Statement.read f.tokens = some st →
      ¬catalog.Covers table st → ∃ e, q.compile catalog table = .error (.schema e) := by
  constructor
  · intro f hf
    obtain ⟨st, hread, hcovers⟩ := covers_of_compile hf
    refine ⟨st, hread, hcovers, fun hkey => ?_⟩
    obtain ⟨name, key, hk, hscoped⟩ := hcovers
    rwa [Catalog.withColumn_eq (hkey name key hk)] at hscoped
  · intro full f st hw hfull hread hmissing
    rcases compile_misses hw table q f hfull with hf | he
    · obtain ⟨st', hread', hcovers⟩ := covers_of_compile hf
      obtain rfl := Option.some.inj (hread.symm.trans hread')
      exact absurd hcovers hmissing
    · exact he

/-! ### A search by a name, a catalog without names, and one without the key -/

/-- The catalog of people without their names. -/
def Catalog.nameless : Catalog where
  tables := [("people", [("id", some .uuid)])]
  keys := [("people", ["id"])]

theorem Catalog.people_eq : Catalog.people =
    ⟨[("people", [("id", some .uuid), ("name", some .string)])], [("people", ["id"])]⟩ := by
  decide +kernel

theorem Catalog.within_nameless : Catalog.nameless.Within .people := by
  rw [people_eq]
  have htype (t col : CatalogName) (h : Catalog.nameless.hasColumn t col = true) : t = "people" ∧ col = "id" := by
    simp only [hasColumn, columns, nameless, Keyed.get?] at h
    split at h
    · rename_i ht
      simp only [Option.getD_some, Keyed.get?] at h
      split at h
      · rename_i hc
        exact ⟨ht.symm, hc.symm⟩
      · cases h
    · cases h
  refine ⟨fun t col h => ?_, fun _ _ _ h => h, fun t key rest k hkey hk => ?_⟩
  · obtain ⟨rfl, rfl⟩ := htype t col h
    rfl
  · simp only [primaryKey, nameless, Keyed.get?] at hkey
    split at hkey
    · rename_i ht
      subst ht
      obtain ⟨rfl, -⟩ := List.cons.inj hkey
      have hid : Name.check (CatalogName.toValue "id") = .ok "id" := Name.check_name (by decide)
      obtain rfl := Except.ok.inj (hid.symm.trans hk)
      rfl
    · cases hkey

/-- The selection of people by a name. -/
def Selection.byName : Selection where
  source := .rows "people" "id"
  condition := .foldedAmong "name" [⟨.text "O'Hara; --", .string⟩]

theorem Selection.ofCriteria_byName : ofCriteria .people (.text " People ") .byName = .ok [.byName] := rfl

theorem Statement.read_byName : ∃ f, Inquiry.byName.compile .people (.text " People ") = .ok f ∧
    Statement.read f.tokens = some (.ofSearch "people" "id" [.byName] (some (.int 5))) := by
  have hk : Name.tableAndKey .people (.text " People ") = .ok ("people", "id") := rfl
  obtain ⟨hname, hkey⟩ := Name.isName_of_tableAndKey hk
  exact ⟨_, Search.compile_of_ofCriteria hk Selection.ofCriteria_byName,
    read_search hname hkey (Selection.proper_of_ofCriteria Selection.ofCriteria_byName) _⟩

theorem Catalog.not_covers_nameless :
    ¬Catalog.nameless.Covers (.text " People ") (.ofSearch "people" "id" [.byName] (some (.int 5))) := by
  rintro ⟨name, key, hk, ⟨-, htest, -⟩, -⟩
  have hk' : Name.tableAndKey .nameless (.text " People ") = .ok ("people", "id") := rfl
  obtain ⟨rfl, rfl⟩ := Prod.mk.inj (Except.ok.inj (hk'.symm.trans hk))
  -- the column of the inner selection is neither catalogued nor the key
  obtain ⟨-, -, hinner, -⟩ := htest
  have hname : (nameless.schema.withColumn "people" "id").column "people" "name" := hinner.1
  rcases hname with hlisted | ⟨-, hkey⟩
  · cases hlisted
  · exact absurd hkey (by decide)

/-- All names of a search by a name are there, and without the column of names it is refused. -/
theorem scoped_byName : (∃ f st, Inquiry.byName.compile .people (.text " People ") = .ok f ∧
      Statement.read f.tokens = some st ∧ st.Scoped Catalog.people.schema) ∧
    ∃ e, Inquiry.byName.compile .nameless (.text " People ") = .error (.schema e) := by
  obtain ⟨f, hf, hread⟩ := Statement.read_byName
  constructor
  · obtain ⟨st, hst, -, hscoped⟩ := (scoped_of_compile .people (.text " People ") .byName).1 f hf
    refine ⟨f, st, hf, hst, hscoped fun name key hk => ?_⟩
    have hk' : Name.tableAndKey .people (.text " People ") = .ok ("people", "id") := rfl
    obtain ⟨rfl, rfl⟩ := Prod.mk.inj (Except.ok.inj (hk'.symm.trans hk))
    rfl
  · exact (scoped_of_compile .nameless (.text " People ") .byName).2 .people f _ Catalog.within_nameless hf hread
      Catalog.not_covers_nameless

/-- A catalog whose table does not have the column that identifies its rows. -/
def Catalog.keyless : Catalog := .ofLists [("events", [("event_tag", some .string)])] [("events", ["event_uuid"])]

/-- Criteria for a tag in a column. -/
def Criteria.byTag : Criteria := { Criteria.unfiltered with columnFilters := [("event_tag", [.text "x"])] }

theorem unscoped_byTag : ∃ f st, (Inquiry.search .byTag).compile .keyless (.text "events") = .ok f ∧
    Statement.read f.tokens = some st ∧ ¬st.Scoped Catalog.keyless.schema := by
  have hk : Name.tableAndKey .keyless (.text "events") = .ok ("events", "event_uuid") := rfl
  have hs : Selection.ofCriteria .keyless (.text "events") .byTag =
    .ok [⟨.rows "events" "event_uuid", .foldedAmong "event_tag" [⟨.text "x", .string⟩]⟩] := rfl
  obtain ⟨hname, hkey⟩ := Name.isName_of_tableAndKey hk
  refine ⟨_, _, Search.compile_of_ofCriteria hk hs, read_search hname hkey (Selection.proper_of_ofCriteria hs) _, ?_⟩
  rintro ⟨⟨-, htest, -⟩, -⟩
  have hcolumn : Catalog.keyless.hasColumn "events" "event_uuid" = true := htest.1
  cases hcolumn

end FacetSearch

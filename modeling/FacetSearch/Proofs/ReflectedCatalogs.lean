import FacetSearch.Catalog.Reflection
import FacetSearch.Proofs.NormalForm
import FacetSearch.Proofs.Reloading
/-!
# Reflected and written catalogs

A catalog may be reflected from a database, or written down with the names of types that the database uses. Both ways give
the same catalog (`Inspector.reflect_eq_written`), although types are looked at in the one before names are brought into
the form in which they are kept, and in the other after that. Tables whose names agree then are merged twice over, once
for their columns and once for their keys: columns and key of a table always come from the same one of them, the last.
-/

namespace FacetSearch

/-! ## Keyed lists -/

namespace Keyed

variable {α β γ δ : Type} [DecidableEq α] [DecidableEq γ]

theorem put_map {g : α → γ} (hg : Function.Injective g) (f : β → δ) (es : List (α × β)) (key : α) (b : β) :
    put (es.map fun e => (g e.1, f e.2)) (g key) (f b) = (put es key b).map fun e => (g e.1, f e.2) := by
  induction es with
  | nil => rfl
  | cons e es ih =>
    obtain ⟨k, c⟩ := e
    by_cases hk : k = key
    · simp [put, hk]
    · simp [put, hk, hg.ne hk, ih]

/-- Keys may be renamed, and what stands under them changed, before or after they are put into the list. -/
theorem ofList_map {g : α → γ} (hg : Function.Injective g) (f : β → δ) (pairs : List (α × β)) :
    ofList (pairs.map fun e => (g e.1, f e.2)) = (ofList pairs).map fun e => (g e.1, f e.2) := by
  induction pairs using List.reverseRecOn with
  | nil => rfl
  | append_singleton pairs p ih =>
    rw [List.map_append, List.map_singleton, ofList_concat, ofList_concat, ih, put_map hg]

end Keyed

/-! ## Names and tables that are kept -/

/-- The name as which a text is kept. -/
def CatalogName.ofText (s : String) : CatalogName := normalize (.text s)

theorem CatalogName.ofValue_text (s : String) : ofValue (.text s) = .ok (ofText s) := by
  unfold ofValue ofText
  split
  · rename_i h
    have hempty : s = "" := by simpa [Value.isTruthy] using h
    subst hempty
    have hblank : normalize (.text "") = .text "" := by decide +kernel
    rw [hblank]
  · rfl

namespace TableDescription

/-- The columns as they are kept. Of columns with the same name the last one counts. -/
def kept (d : TableDescription) : Columns :=
  Keyed.ofList ((Keyed.ofList d.columns).map fun e => (CatalogName.ofText e.1, ColumnType.ofTypeName? e.2))

/-- The columns of the primary key as they are kept. -/
def keptKey (d : TableDescription) : List CatalogName := d.key.map CatalogName.ofText

/-- A column is kept under its name, whatever its type. -/
theorem mem_keys_kept {d : TableDescription} {n : CatalogName} :
    n ∈ d.kept.map Prod.fst ↔ ∃ e ∈ d.columns, CatalogName.ofText e.1 = n := by
  have hkeys : ((Keyed.ofList d.columns).map fun e => (CatalogName.ofText e.1, ColumnType.ofTypeName? e.2)).map Prod.fst =
      ((Keyed.ofList d.columns).map Prod.fst).map CatalogName.ofText := by
    rw [List.map_map, List.map_map]
    rfl
  rw [kept, Keyed.mem_keys_ofList, hkeys, List.mem_map]
  constructor
  · rintro ⟨c, hc, rfl⟩
    obtain ⟨e, he, rfl⟩ := List.mem_map.1 ((Keyed.mem_keys_ofList d.columns c).1 hc)
    exact ⟨e, he, rfl⟩
  · rintro ⟨e, he, rfl⟩
    exact ⟨e.1, (Keyed.mem_keys_ofList d.columns e.1).2 (List.mem_map_of_mem he), rfl⟩

end TableDescription

namespace Catalog

/-- The catalog that keeps tables as they are described. -/
def ofDescriptions (ds : List (String × TableDescription)) : Catalog where
  tables := Keyed.ofList (ds.map fun e => (CatalogName.ofText e.1, e.2.kept))
  keys := Keyed.ofList (ds.map fun e => (CatalogName.ofText e.1, e.2.keptKey))

section

variable (ds : List (String × TableDescription)) (t : CatalogName)

/-- What is kept of a table is taken from the last description whose name is the name of the table. -/
theorem get?_ofDescriptions {β : Type} (f : TableDescription → β) :
    Keyed.get? (Keyed.ofList (ds.map fun e => (CatalogName.ofText e.1, f e.2))) t =
      (ds.reverse.find? fun e => CatalogName.ofText e.1 = t).map fun e => f e.2 := by
  rw [Keyed.get?_ofList, ← List.map_reverse, List.find?_map, Option.map_map]
  rfl

theorem hasTable_ofDescriptions :
    (ofDescriptions ds).hasTable t = true ↔ ∃ e ∈ ds, CatalogName.ofText e.1 = t := by
  rw [hasTable, ofDescriptions, Keyed.isSome_get?_iff, Keyed.mem_keys_ofList]
  simp only [List.map_map, List.mem_map, Function.comp_apply]

end

/-- The table is kept as its description says. -/
structure Keeps (c : Catalog) (t : CatalogName) (d : TableDescription) : Prop where
  columns : c.columns t = d.kept
  hasColumn : ∀ n, c.hasColumn t n = true ↔ ∃ e ∈ d.columns, CatalogName.ofText e.1 = n
  primaryKey : c.primaryKey t = d.keptKey

theorem keeps_ofDescriptions {front back : List (String × TableDescription)} {e : String × TableDescription}
    (hback : ∀ b ∈ back, CatalogName.ofText b.1 ≠ CatalogName.ofText e.1) :
    (ofDescriptions (front ++ e :: back)).Keeps (CatalogName.ofText e.1) e.2 := by
  have hlast : (front ++ e :: back).reverse.find?
      (fun b : String × TableDescription => CatalogName.ofText b.1 = CatalogName.ofText e.1) = some e :=
    find?_reverse_eq_some_iff.2 ⟨decide_eq_true rfl, front, back, rfl, fun b hb => decide_eq_false (hback b hb)⟩
  have hcolumns : (ofDescriptions (front ++ e :: back)).columns (CatalogName.ofText e.1) = e.2.kept := by
    rw [columns, ofDescriptions, get?_ofDescriptions, hlast, Option.map_some, Option.getD_some]
  refine ⟨hcolumns, fun n => ?_, ?_⟩
  · rw [hasColumn, hcolumns, Keyed.isSome_get?_iff, TableDescription.mem_keys_kept]
  · rw [primaryKey, ofDescriptions, get?_ofDescriptions, hlast, Option.map_some, Option.getD_some]

/-- A table that is kept is kept as its last description says. -/
theorem exists_keeps {ds : List (String × TableDescription)} {t : CatalogName}
    (h : (ofDescriptions ds).hasTable t = true) : ∃ front n d back, ds = front ++ (n, d) :: back ∧
      CatalogName.ofText n = t ∧ (∀ b ∈ back, CatalogName.ofText b.1 ≠ t) ∧ (ofDescriptions ds).Keeps t d := by
  obtain ⟨e, he, hname⟩ := (hasTable_ofDescriptions ds t).1 h
  have hfound : (ds.reverse.find? fun e => CatalogName.ofText e.1 = t).isSome = true :=
    List.find?_isSome.2 ⟨e, List.mem_reverse.2 he, decide_eq_true hname⟩
  obtain ⟨⟨n, d⟩, hlast⟩ := Option.isSome_iff_exists.1 hfound
  obtain ⟨hn, front, back, rfl, hback⟩ := find?_reverse_eq_some_iff.1 hlast
  obtain rfl := of_decide_eq_true hn
  have hback : ∀ b ∈ back, CatalogName.ofText b.1 ≠ CatalogName.ofText n := fun b hb => of_decide_eq_false (hback b hb)
  exact ⟨front, n, d, back, rfl, rfl, hback, keeps_ofDescriptions hback⟩

/-! ## Written catalogs -/

/-- The tables as they are written down, with the names of the types of their columns. An object has one member for each
name, the last one. -/
def writtenTables (ds : List (String × TableDescription)) : Value :=
  .object (ds.map fun e => (.text e.1, .object ((Keyed.ofList e.2.columns).map fun c => (.text c.1, .text c.2))))

/-- The primary keys as they are written down. -/
def writtenKeys (ds : List (String × TableDescription)) : Value :=
  .object (ds.map fun e => (.text e.1, .list (e.2.key.map .text)))

theorem typeOf?_text (s : String) : typeOf? (.text s) = ColumnType.ofTypeName? s := by
  simp only [typeOf?, Value.isNull, Bool.false_eq_true, if_false, Value.plain]

/-- A catalog that is written down keeps its tables as they are described. -/
theorem ofValues_written (ds : List (String × TableDescription)) :
    ofValues (writtenTables ds) (writtenKeys ds) = .ok (ofDescriptions ds) := by
  refine ofValues_map (fun e _ => CatalogName.ofValue_text e.1) (fun e _ => ?_) fun e _ => ?_
  · rw [columnsOf_map fun c _ => CatalogName.ofValue_text c.1]
    simp only [typeOf?_text]
  · exact keyOf_map fun n _ => CatalogName.ofValue_text n

end Catalog

/-! ## Reflected catalogs -/

namespace Inspector

/-- The names of the tables that are selected, or of all tables of a schema. -/
def selection (i : Inspector) (schema : String) (selected : Option (List String)) : List String :=
  selected.getD ((i.tables schema).map Prod.fst)

/-- The catalog of tables that are looked up one by one keeps them as they are described. -/
theorem ofLists_described {ds : List (String × TableDescription)} (hnodup : (ds.map Prod.fst).Nodup) :
    Catalog.ofLists
      (Keyed.ofList (ds.map fun (n, d) => (CatalogName.text n,
        Keyed.ofList (d.columns.map fun (c, type) => (CatalogName.text c, ColumnType.ofTypeName? type)))))
      (Keyed.ofList (ds.map fun (n, d) => (CatalogName.text n, d.key.map CatalogName.text))) =
      Catalog.ofDescriptions ds := by
  have htext : Function.Injective CatalogName.text := fun _ _ h => CatalogName.text.inj h
  have hnames {β : Type} (f : TableDescription → β) :
      Keyed.ofList (ds.map fun e => (CatalogName.text e.1, f e.2)) = ds.map fun e => (CatalogName.text e.1, f e.2) := by
    rw [Keyed.ofList_map htext f, Keyed.ofList_of_nodup hnodup]
  have hcolumns (d : TableDescription) :
      Keyed.ofList (d.columns.map fun e => (CatalogName.text e.1, ColumnType.ofTypeName? e.2)) =
        (Keyed.ofList d.columns).map fun e => (CatalogName.text e.1, ColumnType.ofTypeName? e.2) :=
    Keyed.ofList_map htext _ d.columns
  have htables := hnames fun d =>
    (Keyed.ofList d.columns).map fun e => (CatalogName.text e.1, ColumnType.ofTypeName? e.2)
  have hkeys := hnames fun d => d.key.map CatalogName.text
  simp only [Catalog.ofLists, htables, hkeys, hcolumns, List.map_map, Function.comp_def]
  rfl

/-- Tables that are there are described one by one. -/
theorem exists_described {i : Inspector} {schema : String} {names : List String}
    (h : ∀ n ∈ names, ∃ d, i.table schema n = .ok d) : ∃ ds : List (String × TableDescription),
      names.mapM (fun n => do return (n, ← i.table schema n)) = .ok ds ∧ ds.map Prod.fst = names ∧
        ∀ e ∈ ds, i.table schema e.1 = .ok e.2 := by
  obtain ⟨ds, hds⟩ : ∃ ds, names.mapM (fun n => do return (n, ← i.table schema n)) = .ok ds := by
    refine exists_mapM fun n hn => ?_
    obtain ⟨d, hd⟩ := h n hn
    exact ⟨(n, d), bind_eq_ok.2 ⟨d, hd, rfl⟩⟩
  have hread : List.Forall₂ (fun n (e : String × TableDescription) => n = e.1 ∧ i.table schema e.1 = .ok e.2) names ds := by
    refine (mapM_eq_ok.1 hds).imp fun n e he => ?_
    obtain ⟨d, hd, he⟩ := bind_eq_ok.1 he
    obtain rfl := pure_eq_ok.1 he
    exact ⟨rfl, hd⟩
  refine ⟨ds, hds, ?_, fun e he => ?_⟩
  · rw [← List.forall₂_eq_eq_eq, List.forall₂_map_left_iff]
    exact hread.flip.imp fun e n he => he.1.symm
  · obtain ⟨-, -, -, hd⟩ := exists_of_mem_right hread he
    exact hd

/-- Tables that are there, each selected once, are reflected as the catalog that is written down with the same names of
types and the same keys, where a key of which the database says nothing is empty (`TableAnswers.description`). Each of them
is a table of it, and what is kept of a table, columns and key, is what the last of them with its name has, whatever the
types of its columns. -/
theorem reflect_eq_written {i : Inspector} {schema : String} {selected : Option (List String)}
    (hnodup : (i.selection schema selected).Nodup)
    (hthere : ∀ n ∈ i.selection schema selected, ∃ d, i.table schema n = .ok d) :
    ∃ ds c records, ds.map Prod.fst = i.selection schema selected ∧ (∀ e ∈ ds, i.table schema e.1 = .ok e.2) ∧
      i.reflect schema selected = .ok (c, records) ∧
      Catalog.ofValues (Catalog.writtenTables ds) (Catalog.writtenKeys ds) = .ok c ∧
      (∀ e ∈ ds, c.hasTable (CatalogName.ofText e.1) = true) ∧
      ∀ t, c.hasTable t = true → ∃ front n d back, ds = front ++ (n, d) :: back ∧ CatalogName.ofText n = t ∧
        (∀ e ∈ back, CatalogName.ofText e.1 ≠ t) ∧ c.Keeps t d := by
  obtain ⟨ds, hds, hnames, htables⟩ := exists_described hthere
  have hreflect : i.reflect schema selected = .ok (_, _) := bind_eq_ok.2 ⟨ds, hds, rfl⟩
  rw [ofLists_described (hnames ▸ hnodup)] at hreflect
  exact ⟨ds, _, _, hnames, htables, hreflect, Catalog.ofValues_written ds,
    fun e he => (Catalog.hasTable_ofDescriptions ds _).2 ⟨e, he, rfl⟩, fun t ht => Catalog.exists_keeps ht⟩

/-! ### Two tables with one name -/

/-- Two tables whose names agree, only the first of them with a key, and a third one of whose key nothing is said. -/
def colliding : Inspector := ofAnswers [("", [
  ("Events", { columns := [("ID", "INTEGER"), ("Data", "JSONB"), (" id ", "UUID")], key := some (some ["ID"]) }),
  ("events ", { columns := [("event_uuid", "uuid"), ("data", "JSONB")], key := some none }),
  ("Runs", { columns := [("run", "VARCHAR(64)")], key := none })])]

/-- The second table counts, with a column that cannot be searched and without a key. -/
theorem reflect_colliding : (colliding.selection "" none).Nodup ∧
    (∀ n ∈ colliding.selection "" none, ∃ d, colliding.table "" n = .ok d) ∧
    ∃ ds c records, colliding.reflect "" none = .ok (c, records) ∧
      Catalog.ofValues (Catalog.writtenTables ds) (Catalog.writtenKeys ds) = .ok c ∧
      c.columns (.text "events") = [(.text "event_uuid", some .uuid), (.text "data", none)] ∧
      c.primaryKey (.text "events") = [] := by
  have hnodup : (colliding.selection "" none).Nodup := by decide
  have hthere : ∀ n ∈ colliding.selection "" none, ∃ d, colliding.table "" n = .ok d := by
    have hnames : colliding.selection "" none = ["Events", "events ", "Runs"] := rfl
    simp only [hnames, List.forall_mem_cons]
    exact ⟨⟨_, rfl⟩, ⟨_, rfl⟩, ⟨_, rfl⟩, by simp⟩
  obtain ⟨ds, c, records, -, -, hreflect, hwritten, -, -⟩ := reflect_eq_written hnodup hthere
  have hkept : (colliding.reflect "" none).toOption.map (fun r =>
      (r.1.columns (.text "events"), r.1.primaryKey (.text "events"))) =
        some ([(.text "event_uuid", some .uuid), (.text "data", none)], []) := by
    decide +kernel
  rw [hreflect] at hkept
  obtain ⟨hcolumns, hkey⟩ := Prod.mk.inj (Option.some.inj hkept)
  exact ⟨hnodup, hthere, ds, c, records, hreflect, hwritten, hcolumns, hkey⟩

end Inspector

end FacetSearch

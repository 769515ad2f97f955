import FacetSearch.Catalog.File
import FacetSearch.Command.Run
import FacetSearch.Proofs.FiniteNumbers
import FacetSearch.Proofs.JsonTexts
import FacetSearch.Proofs.KeptNames
/-!
# Catalogs are read as they are printed

The command prints the tables of a catalog with their primary keys and the types of their columns. A catalog file with
these tables and keys describes the same tables again (`Catalog.ofFile_described`): names of types stand for the types,
names that are kept are found under themselves, and what is printed is JSON that is read back. What the description leaves
out, primary keys of tables that are not there, no compiler looks at (`Inquiry.compile_congr`).
-/

namespace FacetSearch

/-! ## Catalogs that are built -/

namespace Catalog

/-- A catalog that comes of tables and keys, in whatever form they are given. -/
inductive IsBuilt : Catalog → Prop
  | lists (tables keys) : IsBuilt (.ofLists tables keys)
  | values {tables keys c} (h : ofValues tables keys = .ok c) : IsBuilt c

/-- Tables are told apart by their names, and so are the columns of each; all names are in the form in which they are
kept. -/
structure IsTidy (c : Catalog) : Prop where
  tables_nodup : (c.tables.map Prod.fst).Nodup
  columns_nodup : ∀ e ∈ c.tables, (e.2.map Prod.fst).Nodup
  table_kept : ∀ e ∈ c.tables, e.1.IsKept
  column_kept : ∀ e ∈ c.tables, ∀ p ∈ e.2, p.1.IsKept
  key_kept : ∀ e ∈ c.keys, ∀ n ∈ e.2, n.IsKept

/-- The columns that values describe have names that are kept. -/
theorem isKept_of_columnsOf {v : Value} {cs : Columns} (h : columnsOf v = .ok cs) : ∀ p ∈ cs, p.1.IsKept := by
  obtain ⟨es, -, h⟩ := bind_eq_ok.1 h
  intro p hp
  obtain ⟨e, -, he⟩ := exists_of_mem_right (mapM_eq_ok.1 h) hp
  obtain ⟨n, hn, he⟩ := bind_eq_ok.1 he
  obtain rfl := pure_eq_ok.1 he
  exact CatalogName.isKept_of_ofValue hn

theorem isKept_of_keyOf {v : Value} {ns : List CatalogName} (h : keyOf v = .ok ns) : ∀ n ∈ ns, n.IsKept := by
  unfold keyOf at h
  split at h
  · intro n hn
    obtain ⟨_, -, he⟩ := exists_of_mem_right (mapM_eq_ok.1 h) hn
    exact CatalogName.isKept_of_ofValue he
  · cases h

theorem isTidy_ofLists (tables : List (CatalogName × Columns)) (keys : List (CatalogName × List CatalogName)) :
    (ofLists tables keys).IsTidy where
  tables_nodup := Keyed.nodup_keys_ofList _
  columns_nodup e he := by
    obtain ⟨_, -, rfl⟩ := List.mem_map.1 (Keyed.mem_of_mem_ofList he)
    exact Keyed.nodup_keys_ofList _
  table_kept e he := by
    obtain ⟨_, -, rfl⟩ := List.mem_map.1 (Keyed.mem_of_mem_ofList he)
    exact ⟨_, rfl⟩
  column_kept e he p hp := by
    obtain ⟨_, -, rfl⟩ := List.mem_map.1 (Keyed.mem_of_mem_ofList he)
    obtain ⟨_, -, rfl⟩ := List.mem_map.1 (Keyed.mem_of_mem_ofList hp)
    exact ⟨_, rfl⟩
  key_kept e he n hn := by
    obtain ⟨_, -, rfl⟩ := List.mem_map.1 (Keyed.mem_of_mem_ofList he)
    obtain ⟨_, -, rfl⟩ := List.mem_map.1 hn
    exact ⟨_, rfl⟩

theorem ofValues_eq_ok {tables keys : Value} {c : Catalog} (h : ofValues tables keys = .ok c) :
    ∃ es ts ks, List.Forall₂ (fun (e : Value × Value) (t : CatalogName × Columns) =>
        ∃ cs, columnsOf e.2 = .ok cs ∧ CatalogName.ofValue e.1 = .ok t.1 ∧ t.2 = Keyed.ofList cs) es ts ∧
      (∀ k ∈ ks, ∃ v, keyOf v = .ok k.2) ∧ c = ⟨Keyed.ofList ts, Keyed.ofList ks⟩ := by
  obtain ⟨es, -, h⟩ := bind_eq_ok.1 h
  obtain ⟨ts, hts, h⟩ := bind_eq_ok.1 h
  have htables : List.Forall₂ (fun e t => ∃ cs, columnsOf e.2 = .ok cs ∧ CatalogName.ofValue e.1 = .ok t.1 ∧
      t.2 = Keyed.ofList cs) es ts := by
    refine (mapM_eq_ok.1 hts).imp fun e t ht => ?_
    obtain ⟨cs, hcs, ht⟩ := bind_eq_ok.1 ht
    obtain ⟨n, hn, ht⟩ := bind_eq_ok.1 ht
    obtain rfl := pure_eq_ok.1 ht
    exact ⟨cs, hcs, hn, rfl⟩
  dsimp only at h
  split at h
  · obtain ⟨es', -, h⟩ := bind_eq_ok.1 h
    obtain ⟨ks, hks, h⟩ := bind_eq_ok.1 h
    refine ⟨es, ts, ks, htables, fun k hk => ?_, (pure_eq_ok.1 h).symm⟩
    obtain ⟨e, -, he⟩ := exists_of_mem_right (mapM_eq_ok.1 hks) hk
    obtain ⟨n, -, he⟩ := bind_eq_ok.1 he
    obtain ⟨ns, hns, he⟩ := bind_eq_ok.1 he
    obtain rfl := pure_eq_ok.1 he
    exact ⟨_, hns⟩
  · obtain ⟨ks, hks, h⟩ := bind_eq_ok.1 h
    obtain rfl := Except.ok.inj hks
    exact ⟨es, ts, [], htables, by simp, (pure_eq_ok.1 h).symm⟩

theorem isTidy_of_ofValues {tables keys : Value} {c : Catalog} (h : ofValues tables keys = .ok c) : c.IsTidy := by
  obtain ⟨es, ts, ks, hts, hks, rfl⟩ := ofValues_eq_ok h
  have htable : ∀ e ∈ Keyed.ofList ts, e.1.IsKept ∧ (e.2.map Prod.fst).Nodup ∧ ∀ p ∈ e.2, p.1.IsKept := by
    intro e he
    obtain ⟨_, -, cs, hcs, hn, hcolumns⟩ := exists_of_mem_right hts (Keyed.mem_of_mem_ofList he)
    rw [hcolumns]
    exact ⟨CatalogName.isKept_of_ofValue hn, Keyed.nodup_keys_ofList _,
      fun p hp => isKept_of_columnsOf hcs p (Keyed.mem_of_mem_ofList hp)⟩
  refine ⟨Keyed.nodup_keys_ofList _, fun e he => (htable e he).2.1, fun e he => (htable e he).1,
    fun e he => (htable e he).2.2, fun e he => ?_⟩
  obtain ⟨v, hv⟩ := hks e (Keyed.mem_of_mem_ofList he)
  exact isKept_of_keyOf hv

theorem IsBuilt.isTidy {c : Catalog} (h : c.IsBuilt) : c.IsTidy := by
  cases h with
  | lists tables keys => exact isTidy_ofLists tables keys
  | values h => exact isTidy_of_ofValues h

/-! ## What a file describes -/

/-- The names of the tables, of their columns and of the columns of their keys are texts of ASCII characters. -/
structure HasAsciiNames (c : Catalog) : Prop where
  table : ∀ e ∈ c.tables, e.1.IsAscii
  column : ∀ e ∈ c.tables, ∀ p ∈ e.2, p.1.IsAscii
  key : ∀ e ∈ c.tables, ∀ n ∈ c.primaryKey e.1, n.IsAscii

/-- The catalog of some tables of a catalog in another order. -/
def arranged (c : Catalog) (ns : List CatalogName) : Catalog where
  tables := ns.map fun t => (t, c.columns t)
  keys := ns.map fun t => (t, c.primaryKey t)

end Catalog

theorem Keyed.getD_cases {α β : Type} [DecidableEq α] (es : List (α × List β)) (key : α) :
    (get? es key).getD [] = [] ∨ (key, (get? es key).getD []) ∈ es := by
  cases h : get? es key with
  | none => exact .inl rfl
  | some bs => exact .inr (mem_of_get? h)

theorem Keyed.get?_map {α β : Type} [DecidableEq α] (ns : List α) (f : α → β) (key : α) :
    get? (ns.map fun n => (n, f n)) key = if key ∈ ns then some (f key) else none := by
  induction ns with
  | nil => rfl
  | cons n ns ih =>
    rw [List.map_cons, get?, ih]
    by_cases hn : n = key
    · subst hn
      simp
    · simp [hn, Ne.symm hn]

theorem Keyed.isSome_get?_iff {α β : Type} [DecidableEq α] (es : List (α × β)) (key : α) :
    (get? es key).isSome = true ↔ key ∈ es.map Prod.fst := by
  induction es with
  | nil => simp [get?]
  | cons e es ih =>
    obtain ⟨k, b⟩ := e
    by_cases hk : k = key
    · simp [get?, hk]
    · simp [get?, hk, Ne.symm hk, ih]

namespace Catalog

section

variable {c : Catalog} (ht : c.IsTidy) (ha : c.HasAsciiNames)

include ht ha

omit ha in
theorem nodup_columns (t : CatalogName) : ((c.columns t).map Prod.fst).Nodup := by
  rcases Keyed.getD_cases c.tables t with hnil | hmem
  · rw [columns, hnil]
    exact List.nodup_nil
  · exact ht.columns_nodup _ hmem

theorem ofValue_column {t : CatalogName} {p : CatalogName × Option ColumnType} (hp : p ∈ c.columns t) :
    CatalogName.ofValue p.1.toValue = .ok p.1 := by
  rcases Keyed.getD_cases c.tables t with hnil | hmem
  · rw [columns, hnil] at hp
    cases hp
  · exact CatalogName.ofValue_toValue (ht.column_kept _ hmem p hp) (ha.column _ hmem p hp)

theorem ofValue_table {t : CatalogName} (h : t ∈ c.tables.map Prod.fst) : CatalogName.ofValue t.toValue = .ok t := by
  obtain ⟨e, he, rfl⟩ := List.mem_map.1 h
  exact CatalogName.ofValue_toValue (ht.table_kept e he) (ha.table e he)

theorem ofValue_key {t n : CatalogName} (h : t ∈ c.tables.map Prod.fst) (hn : n ∈ c.primaryKey t) :
    CatalogName.ofValue n.toValue = .ok n := by
  obtain ⟨e, he, rfl⟩ := List.mem_map.1 h
  have hascii := ha.key e he n hn
  rcases Keyed.getD_cases c.keys e.1 with hnil | hmem
  · rw [primaryKey, hnil] at hn
    cases hn
  · exact CatalogName.ofValue_toValue (ht.key_kept _ hmem n hn) hascii

end

/-- The name of a type stands for the type. -/
theorem typeOf?_typeValue (type : Option ColumnType) : typeOf? (typeValue type) = type := by
  cases type with
  | none => rfl
  | some t => cases t <;> decide +kernel

section

variable {α : Type} {as : List α} {name : α → CatalogName} {key : α → Value}
  (hkey : ∀ a ∈ as, CatalogName.ofValue (key a) = .ok (name a))

include hkey

theorem columnsOf_map (type : α → Value) : columnsOf (.object (as.map fun a => (key a, type a))) =
    .ok (as.map fun a => (name a, typeOf? (type a))) := by
  simp only [columnsOf, entriesOf, Value.entries?, bind, Except.bind]
  rw [mapM_eq_ok, List.forall₂_map_left_iff, List.forall₂_map_right_iff, List.forall₂_same]
  intro a ha
  simp only [hkey a ha]
  rfl

theorem keyOf_map : keyOf (.list (as.map key)) = .ok (as.map name) := by
  refine mapM_eq_ok.2 ?_
  rw [List.forall₂_map_left_iff, List.forall₂_map_right_iff, List.forall₂_same]
  exact hkey

/-- Tables and keys that stand under the same names are read one by one. -/
theorem ofValues_map {tables keys : α → Value} {columns : α → Columns} {keyColumns : α → List CatalogName}
    (hcolumns : ∀ a ∈ as, columnsOf (tables a) = .ok (columns a)) (hkeys : ∀ a ∈ as, keyOf (keys a) = .ok (keyColumns a)) :
    ofValues (.object (as.map fun a => (key a, tables a))) (.object (as.map fun a => (key a, keys a))) =
      .ok ⟨Keyed.ofList (as.map fun a => (name a, Keyed.ofList (columns a))),
        Keyed.ofList (as.map fun a => (name a, keyColumns a))⟩ := by
  have htables : (as.map fun a => (key a, tables a)).mapM (fun e => do
      let columns ← columnsOf e.2
      return (← CatalogName.ofValue e.1, Keyed.ofList columns)) =
        .ok (as.map fun a => (name a, Keyed.ofList (columns a))) := by
    rw [mapM_eq_ok, List.forall₂_map_left_iff, List.forall₂_map_right_iff, List.forall₂_same]
    intro a ha
    exact bind_eq_ok.2 ⟨_, hcolumns a ha, bind_eq_ok.2 ⟨_, hkey a ha, rfl⟩⟩
  have hkeys : (as.map fun a => (key a, keys a)).mapM (fun e => do return (← CatalogName.ofValue e.1, ← keyOf e.2)) =
      .ok (as.map fun a => (name a, keyColumns a)) := by
    rw [mapM_eq_ok, List.forall₂_map_left_iff, List.forall₂_map_right_iff, List.forall₂_same]
    intro a ha
    exact bind_eq_ok.2 ⟨_, hkey a ha, bind_eq_ok.2 ⟨_, hkeys a ha, rfl⟩⟩
  refine bind_eq_ok.2 ⟨_, rfl, bind_eq_ok.2 ⟨_, htables, ?_⟩⟩
  dsimp only
  split
  · exact bind_eq_ok.2 ⟨_, rfl, bind_eq_ok.2 ⟨_, hkeys, rfl⟩⟩
  · rename_i hfalse
    cases as with
    | nil => rfl
    | cons a as => exact absurd rfl hfalse

end

theorem columnsOf_columnsValue {cs : Columns} (h : ∀ p ∈ cs, CatalogName.ofValue p.1.toValue = .ok p.1) :
    columnsOf (columnsValue cs) = .ok cs := by
  have hread := columnsOf_map h fun p => typeValue p.2
  simp only [typeOf?_typeValue, Prod.mk.eta, List.map_id'] at hread
  exact hread

theorem keyOf_namesValue {ns : List CatalogName} (h : ∀ n ∈ ns, CatalogName.ofValue n.toValue = .ok n) :
    keyOf (namesValue ns) = .ok ns := by
  have hread := keyOf_map h
  rwa [List.map_id'] at hread

/-- The tables of a catalog, in some order, as a value. -/
def tablesIn (c : Catalog) (ns : List CatalogName) : List (Value × Value) :=
  ns.map fun t => (t.toValue, columnsValue (c.columns t))

/-- The primary keys of tables of a catalog, in some order, as a value. -/
def keysIn (c : Catalog) (ns : List CatalogName) : List (Value × Value) :=
  ns.map fun t => (t.toValue, namesValue (c.primaryKey t))

/-- Tables and keys that are written down describe the tables and the keys. -/
theorem ofValues_in {c : Catalog} (ht : c.IsTidy) (ha : c.HasAsciiNames) {ns : List CatalogName} (hns : ns.Nodup)
    (hmem : ∀ t ∈ ns, t ∈ c.tables.map Prod.fst) :
    ofValues (.object (c.tablesIn ns)) (.object (c.keysIn ns)) = .ok (c.arranged ns) := by
  have hnodup {β : Type} (f : CatalogName → β) : Keyed.ofList (ns.map fun t => (t, f t)) = ns.map fun t => (t, f t) :=
    Keyed.ofList_of_nodup (by rwa [List.map_map, show Prod.fst ∘ (fun t => (t, f t)) = id from rfl, List.map_id])
  have hcolumns : ∀ t ∈ ns, columnsOf (columnsValue (c.columns t)) = .ok (c.columns t) :=
    fun t _ => columnsOf_columnsValue fun p hp => ofValue_column ht ha hp
  have hkeys : ∀ t ∈ ns, keyOf (namesValue (c.primaryKey t)) = .ok (c.primaryKey t) :=
    fun t hn => keyOf_namesValue fun n hkey => ofValue_key ht ha (hmem t hn) hkey
  have hread := ofValues_map (fun t hn => ofValue_table ht ha (hmem t hn)) hcolumns hkeys
  simp only [hnodup, Keyed.ofList_of_nodup (nodup_columns ht _)] at hread
  exact hread

/-! ## What is printed -/

/-- What is printed of tables of a catalog. -/
def described (c : Catalog) (ns : List CatalogName) : Value :=
  .object (ns.map fun t => (t.toValue, .object [(.text "primary_key", namesValue (c.primaryKey t)),
    (.text "columns", columnsValue (c.columns t))]))

/-- The value of a catalog file with the tables and the keys of what is printed. -/
def fileOf (d : Value) : Value :=
  .object [(.text "columns", .object (d.filters.map fun (t, e) => (t, e.part "columns"))),
    (.text "primary_keys", .object (d.filters.map fun (t, e) => (t, e.part "primary_key")))]

theorem fileOf_described (c : Catalog) (ns : List CatalogName) : fileOf (c.described ns) =
    .object [(.text "columns", .object (c.tablesIn ns)), (.text "primary_keys", .object (c.keysIn ns))] := by
  have hcolumns (a b : Value) : (Value.object [(.text "primary_key", a), (.text "columns", b)]).part "columns" = b := rfl
  have hkey (a b : Value) : (Value.object [(.text "primary_key", a), (.text "columns", b)]).part "primary_key" = a := rfl
  simp only [fileOf, described, Value.filters, Value.entries?, Option.getD_some, List.map_map, tablesIn, keysIn]
  simp only [Function.comp_def, hcolumns, hkey]

open Json in
/-- Objects whose keys are different names are plain. -/
theorem isPlain_object {α : Type} {as : List α} {key : α → CatalogName} {f : α → Value} {depth : Nat}
    (hascii : ∀ a ∈ as, (key a).IsAscii) (hnodup : (as.map key).Nodup) (hf : ∀ a ∈ as, IsPlain depth (f a)) :
    IsPlain (depth + 1) (.object (as.map fun a => ((key a).toValue, f a))) := by
  let text (a : α) : String := (key a).text?.getD ""
  have hkey : ∀ a ∈ as, key a = .text (text a) := by
    intro a ha
    obtain ⟨s, hs, -⟩ := hascii a ha
    simp only [text, hs, CatalogName.text?, Option.getD_some]
  have hentries : (as.map fun a => ((key a).toValue, f a)) =
      (as.map fun a => (text a, f a)).map fun e => (.text e.1, e.2) := by
    rw [List.map_map]
    refine List.map_congr_left fun a ha => ?_
    simp only [Function.comp_apply, hkey a ha, CatalogName.toValue]
  rw [hentries]
  refine .object (fun e he => ?_) ?_ fun e he => ?_
  · obtain ⟨a, ha, rfl⟩ := List.mem_map.1 he
    obtain ⟨s, hs, hchars⟩ := hascii a ha
    rwa [← CatalogName.text.inj (hs.symm.trans (hkey a ha))]
  · rw [List.map_congr_left hkey] at hnodup
    rw [List.map_map]
    refine List.Nodup.of_map CatalogName.text ?_
    rwa [List.map_map]
  · obtain ⟨a, ha, rfl⟩ := List.mem_map.1 he
    exact hf a ha

open Json in
theorem isPlain_pair {depth : Nat} {k l : String} {v w : Value} (hk : ∀ c ∈ k.toList, c.toNat < 128)
    (hl : ∀ c ∈ l.toList, c.toNat < 128) (hne : k ≠ l) (hv : IsPlain depth v) (hw : IsPlain depth w) :
    IsPlain (depth + 1) (.object [(.text k, v), (.text l, w)]) :=
  @IsPlain.object depth [(k, v), (l, w)] (by simpa using ⟨hk, hl⟩) (by simpa using hne) (by simpa using ⟨hv, hw⟩)

section

open Json

variable {c : Catalog} (ht : c.IsTidy) (ha : c.HasAsciiNames)

include ht ha

theorem isPlain_columnsValue (depth : Nat) (t : CatalogName) : IsPlain (depth + 1) (columnsValue (c.columns t)) := by
  have hname : ∀ type : ColumnType, ∀ c ∈ type.name.toList, c.toNat < 128 := by
    intro type
    cases type <;> simp [ColumnType.name]
  refine isPlain_object (fun p hp => ?_) (nodup_columns ht t) fun p hp => ?_
  · rcases Keyed.getD_cases c.tables t with hnil | hmem
    · rw [columns, hnil] at hp
      cases hp
    · exact ha.column _ hmem p hp
  · cases p.2 with
    | none => exact .null depth
    | some type => exact .text depth (hname type)

omit ht in
theorem isPlain_namesValue (depth : Nat) {t : CatalogName} (h : t ∈ c.tables.map Prod.fst) :
    IsPlain (depth + 1) (namesValue (c.primaryKey t)) := by
  obtain ⟨e, he, rfl⟩ := List.mem_map.1 h
  refine .list fun v hv => ?_
  obtain ⟨n, hn, rfl⟩ := List.mem_map.1 hv
  obtain ⟨s, rfl, hs⟩ := ha.key e he n hn
  exact .text depth hs

theorem isPlain_described {ns : List CatalogName} (hns : ns.Nodup) (hmem : ∀ t ∈ ns, t ∈ c.tables.map Prod.fst)
    (depth : Nat) : IsPlain (depth + 3) (c.described ns) := by
  refine isPlain_object (fun t hn => ?_) (by rwa [List.map_id']) fun t hn => ?_
  · obtain ⟨e, he, rfl⟩ := List.mem_map.1 (hmem t hn)
    exact ha.table e he
  · exact isPlain_pair (by simp) (by simp) (by decide) (isPlain_namesValue ha depth (hmem t hn))
      (isPlain_columnsValue ht ha depth t)

theorem isPlain_fileOf {ns : List CatalogName} (hns : ns.Nodup) (hmem : ∀ t ∈ ns, t ∈ c.tables.map Prod.fst)
    (depth : Nat) : IsPlain (depth + 3) (fileOf (c.described ns)) := by
  have hascii : ∀ t ∈ ns, t.IsAscii := by
    intro t hn
    obtain ⟨e, he, rfl⟩ := List.mem_map.1 (hmem t hn)
    exact ha.table e he
  have hnodup : (ns.map fun t => t).Nodup := by rwa [List.map_id']
  rw [fileOf_described]
  exact isPlain_pair (by simp) (by simp) (by decide)
    (isPlain_object hascii hnodup fun t _ => isPlain_columnsValue ht ha depth t)
    (isPlain_object hascii hnodup fun t hn => isPlain_namesValue ha depth (hmem t hn))

end

/-- What is written without carriage returns is read from a file as it is. -/
theorem fileValue_of_readUnmarked (path : String) {t : String} (hreturn : '\r' ∉ t.toList) {v : Value}
    (h : Json.readUnmarked t.toList = .ok v) : fileValue path (.ok t) = .ok v := by
  simp only [fileValue, Text.unifyLines_of_notMem hreturn, h]

/-- The names of the tables are in an order in which they stay. -/
theorem exists_tableNames {c : Catalog} (ha : c.HasAsciiNames) :
    ∃ ns, c.tableNames = .ok ns ∧ CatalogName.sorted ns = .ok ns ∧ ns.Perm (c.tables.map Prod.fst) := by
  have hascii : ∀ n ∈ c.tables.map Prod.fst, n.IsAscii := by
    intro n hn
    obtain ⟨e, he, rfl⟩ := List.mem_map.1 hn
    exact ha.table e he
  obtain ⟨ss, hss⟩ := CatalogName.exists_texts hascii
  obtain ⟨hsorted, hstays⟩ := CatalogName.sorted_texts ss
  refine ⟨_, ?_, hstays, ?_⟩
  · rw [tableNames, hss, hsorted]
  · rw [hss]
    exact (List.mergeSort_perm ss _).map _

/-! ## What compilers see of a catalog -/

/-- Two catalogs have the same tables, with the same columns in the same order, of the same types, and with the same
primary keys. -/
structure SameTables (c d : Catalog) : Prop where
  tableNames : c.tableNames = d.tableNames
  hasTable : ∀ t, c.hasTable t = d.hasTable t
  columns : ∀ t, c.columns t = d.columns t
  primaryKey : ∀ t, c.hasTable t = true → c.primaryKey t = d.primaryKey t

theorem sameTables_arranged {c : Catalog} {ns : List CatalogName} (hnames : c.tableNames = .ok ns)
    (hstays : CatalogName.sorted ns = .ok ns) (hmem : ∀ t, t ∈ ns ↔ t ∈ c.tables.map Prod.fst) :
    (c.arranged ns).SameTables c := by
  have hhas (t : CatalogName) : (c.arranged ns).hasTable t = c.hasTable t := by
    rw [Bool.eq_iff_iff, hasTable, hasTable, Keyed.isSome_get?_iff, Keyed.isSome_get?_iff, ← hmem]
    simp [arranged]
  have htables (t : CatalogName) : Keyed.get? (c.arranged ns).tables t = if t ∈ ns then some (c.columns t) else none :=
    Keyed.get?_map ns _ t
  have hkeys (t : CatalogName) : Keyed.get? (c.arranged ns).keys t = if t ∈ ns then some (c.primaryKey t) else none :=
    Keyed.get?_map ns _ t
  refine ⟨?_, hhas, fun t => ?_, fun t ht => ?_⟩
  · have hfst : (c.arranged ns).tables.map Prod.fst = ns := by
      simp [arranged, Function.comp_def]
    rw [hnames, Catalog.tableNames, hfst, hstays]
  · rw [columns, htables]
    split
    · rfl
    · rename_i hno
      have hnone : Keyed.get? c.tables t = none := by
        rw [← Option.not_isSome_iff_eq_none, Keyed.isSome_get?_iff, ← hmem]
        exact hno
      rw [columns, hnone]
  · have hin : t ∈ ns := by
      rw [hmem, ← Keyed.isSome_get?_iff]
      rwa [hhas] at ht
    rw [primaryKey, hkeys, if_pos hin, Option.getD_some]

end Catalog

section

variable {c d : Catalog} (h : c.SameTables d)

include h

theorem Catalog.SameTables.hasColumn_eq : c.hasColumn = d.hasColumn := by
  funext t col
  rw [hasColumn, hasColumn, h.columns]

theorem Catalog.SameTables.columnType?_eq : c.columnType? = d.columnType? := by
  funext t col
  rw [columnType?, columnType?, h.columns]

theorem Name.column_congr (t v : Value) : column c t v = column d t v := by
  simp only [column, h.hasColumn_eq]

theorem Name.tableAndKey_congr (v : Value) : tableAndKey c v = tableAndKey d v := by
  have htable : table c v = table d v := by
    simp only [table, h.hasTable]
  rw [tableAndKey, tableAndKey, ← htable]
  cases hv : table c v with
  | error e => rfl
  | ok n =>
    have hkey := h.primaryKey n (Name.table_eq_ok.1 hv).2
    simp only [bind, Except.bind, hkey]

theorem Selection.ofCriteria_congr (v : Value) (criteria : Criteria) : ofCriteria c v criteria = ofCriteria d v criteria := by
  simp only [ofCriteria, ofGroup, ofColumn, ofNumeric, checkColumns, Name.tableAndKey_congr h, Name.column_congr h,
    h.hasColumn_eq, h.columnType?_eq]

/-- The same inquiry has the same statement or the same error. -/
theorem Inquiry.compile_congr (table : Value) (q : Inquiry) : q.compile c table = q.compile d table := by
  cases q with
  | search criteria =>
    simp only [compile, Search.compile, Search.compose, Selection.ofCriteria_congr h, Name.tableAndKey_congr h]
  | extraction e =>
    simp only [compile, Extraction.compile, Extraction.prepare, Extraction.names, Selection.ofCriteria_congr h,
      Name.tableAndKey_congr h, Name.column_congr h]
  | lookup identifiers limit =>
    simp only [compile, Lookup.compile, Name.tableAndKey_congr h, h.columnType?_eq]

end

/-- The catalog that is printed is read back: what is printed is JSON of the description of the catalog, and a file with
the tables and the keys of that description describes a catalog with the same tables, columns, types and primary keys,
under which every inquiry on every table has the same statement or the same error. Such a file can be written as
the description is. -/
theorem Catalog.ofFile_described {c : Catalog} (hb : c.IsBuilt) (ha : c.HasAsciiNames) :
    ∃ d printed, c.describe = .ok d ∧ Command.lines d = .ok printed ∧ Json.readUnmarked printed.toList = .ok d ∧
      (∃ file, Command.lines (fileOf d) = .ok file ∧ ∀ path, fileValue path (.ok file) = .ok (fileOf d)) ∧
      ∀ path content, fileValue path content = .ok (fileOf d) → ∃ c', ofFile path content = .ok c' ∧ c'.SameTables c ∧
        ∀ table q, Inquiry.compile c' table q = Inquiry.compile c table q := by
  have ht := hb.isTidy
  obtain ⟨ns, hnames, hstays, hperm⟩ := exists_tableNames ha
  have hmem (t : CatalogName) : t ∈ ns ↔ t ∈ c.tables.map Prod.fst := hperm.mem_iff
  have hns : ns.Nodup := hperm.nodup_iff.2 ht.tables_nodup
  have hlines (v : Value) (hv : Json.IsPlain Json.maxDepth v) : ∃ t, Command.lines v = .ok t ∧ '\r' ∉ t.toList ∧
      Json.readUnmarked t.toList = .ok v := by
    obtain ⟨t, hwrite, hreturn, hread⟩ := Json.read_write (Json.Layout.isOrdered_indented fun v => some v.plain) hv
    refine ⟨t ++ "\n", by rw [Command.lines, hwrite], ?_, ?_⟩
    · rw [String.toList_append]
      exact List.not_mem_append hreturn (by simp)
    · rw [String.toList_append]
      exact hread _ (by simp [Json.isBlank])
  obtain ⟨printed, hprinted, -, hread⟩ := hlines _ (isPlain_described ht ha hns (fun t hn => (hmem t).1 hn) 977)
  obtain ⟨file, hfile, hreturn, hreadFile⟩ := hlines _ (isPlain_fileOf ht ha hns (fun t hn => (hmem t).1 hn) 977)
  refine ⟨c.described ns, printed, ?_, hprinted, hread,
    ⟨file, hfile, fun path => fileValue_of_readUnmarked path hreturn hreadFile⟩, fun path content hvalue => ?_⟩
  · simp only [describe, hnames]
    rfl
  · have hsame := sameTables_arranged hnames hstays hmem
    refine ⟨c.arranged ns, ?_, hsame, Inquiry.compile_congr hsame⟩
    have hload := ofValues_in ht ha hns fun t hn => (hmem t).1 hn
    rw [fileOf_described] at hvalue
    simp only [ofFile, hvalue, bind, Except.bind]
    exact hload

/-! ### A catalog with names in capitals and a column that cannot be searched -/

/-- A catalog of shapes, whose column of outlines has no type. -/
def Catalog.shapes : Catalog :=
  .ofLists [(" Shapes", [("Shape_Uuid", some .uuid), ("outline", none), ("area", some .double)])]
    [("SHAPES", ["SHAPE_UUID"]), ("lines", ["id"])]

theorem Catalog.shapes_eq : Catalog.shapes =
    ⟨[("shapes", [("shape_uuid", some .uuid), ("outline", none), ("area", some .double)])],
      [("shapes", ["shape_uuid"]), ("lines", ["id"])]⟩ := by
  decide +kernel

theorem Catalog.hasAsciiNames_shapes : Catalog.shapes.HasAsciiNames := by
  rw [shapes_eq]
  constructor
  · simp [CatalogName.IsAscii]
  · simp only [List.forall_mem_cons]
    exact ⟨⟨⟨_, rfl, by simp⟩, ⟨_, rfl, by simp⟩, ⟨_, rfl, by simp⟩, by simp⟩, by simp⟩
  · simp [CatalogName.IsAscii, primaryKey, Keyed.get?]

theorem Catalog.ofFile_shapes : ∃ d printed c', shapes.describe = .ok d ∧ Command.lines d = .ok printed ∧
    Json.readUnmarked printed.toList = .ok d ∧ (∃ file, Command.lines (fileOf d) = .ok file ∧
      ofFile "shapes.json" (.ok file) = .ok c') ∧
    c'.columns "shapes" = ([("shape_uuid", some .uuid), ("outline", none), ("area", some .double)] : Columns) ∧
    c'.primaryKey "shapes" = ["shape_uuid"] := by
  obtain ⟨d, printed, hd, hprinted, hread, ⟨file, hfile, hvalue⟩, hload⟩ :=
    ofFile_described (.lists _ _) hasAsciiNames_shapes
  obtain ⟨c', hc', hsame, -⟩ := hload "shapes.json" (.ok file) (hvalue _)
  refine ⟨d, printed, c', hd, hprinted, hread, ⟨file, hfile, hc'⟩, ?_, ?_⟩
  · rw [hsame.columns, ← shapes, shapes_eq]
    rfl
  · rw [hsame.primaryKey _ (by rw [hsame.hasTable, ← shapes, shapes_eq]; rfl), ← shapes, shapes_eq]
    rfl

end FacetSearch

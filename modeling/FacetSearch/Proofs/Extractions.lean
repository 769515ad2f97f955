import FacetSearch.Proofs.Answers
import FacetSearch.Proofs.Sql.Ordering
import FacetSearch.Proofs.Sql.Reading.Extraction
/-!
# What an extraction answers

An extraction finds base rows, each with the rows that are related to it. What it has to find is said without a word
of SQL (`Extraction.Found`): rows that meet its criteria, in the order of entity and start. Its statement has three
rows of one table at hand at a time, and is followed from the related rows of one base row (`rows_related`) over all
base rows (`rows_base`) to the answer (`extraction_of_compile`).
-/

namespace FacetSearch

open Sql

/-! ## What is to be found -/

namespace Sql.Server

variable (s : Server)

/-- Both values are there and not equal. -/
def differ (a b : Value) : Bool := compare (fun x y => !s.equal x y) a b

/-- The row is another one of the same entity, and it starts in the window around the base row. -/
def relates (n : Extraction.Names) (lower upper : Value) (base row : Row) : Bool :=
  s.differ (row.cell n.key) (base.cell n.key) && (s.same (row.cell n.entity) (base.cell n.entity) &&
    s.isBetween (row.cell n.start) (s.plus (base.cell n.start) lower) (s.plus (base.cell n.stop) upper))

end Sql.Server

/-- The key of the row is in all sets of identifiers that the criteria ask for. -/
def Criteria.Meets (s : Server) (db : Sql.Database) (catalog : Catalog) (table key : String) (c : Criteria) (row : Row) :
    Prop :=
  ∀ ids ∈ c.identifierSets s db catalog table key, ∃ id ∈ ids, s.same (row.cell key) id = true

namespace Extraction

section

variable (s : Server) (db : Sql.Database) (catalog : Catalog) (n : Names) (lower upper : Value) (e : Extraction)

/-- The row meets the outer criteria and is related to the base row. -/
def IsRelated (base row : Row) : Prop :=
  e.outer.Meets s db catalog n.table n.key row ∧ s.relates n lower upper base row = true

open Classical in
/-- Base rows with their related rows are what is to be found: exactly the rows that meet the inner criteria and have
related rows, each with all of them, in the order of start, and all in the order of entity and start. -/
structure Found (found : List (Row × List Row)) : Prop where
  bases : (found.map Prod.fst).Perm ((db.rows n.table).filter fun base =>
    e.inner.Meets s db catalog n.table n.key base ∧
      ∃ row ∈ db.rows n.table, e.IsRelated s db catalog n lower upper base row)
  related : ∀ p ∈ found, p.2.Perm ((db.rows n.table).filter fun row => e.IsRelated s db catalog n lower upper p.1 row)
  byStart : ∀ p ∈ found, p.2.Pairwise fun a b => s.atMost (a.cell n.start) (b.cell n.start) = true
  byEntity : found.Pairwise fun p q => s.atMost (p.1.cell n.entity) (q.1.cell n.entity) = true ∧
    (s.atMost (q.1.cell n.entity) (p.1.cell n.entity) = true → s.atMost (p.1.cell n.start) (q.1.cell n.start) = true)

end

open Classical in
theorem Found.meets {s : Server} {db : Sql.Database} {catalog : Catalog} {n : Names} {lower upper : Value}
    {e : Extraction} {found : List (Row × List Row)} (h : e.Found s db catalog n lower upper found) {p : Row × List Row}
    (hp : p ∈ found) : p.1 ∈ db.rows n.table ∧ e.inner.Meets s db catalog n.table n.key p.1 := by
  obtain ⟨hmem, hbase⟩ := List.mem_filter.1 (h.bases.mem_iff.1 (List.mem_map_of_mem hp))
  exact ⟨hmem, (of_decide_eq_true hbase).1⟩

/-- The row that stands for a base row with its related rows: the base row with the keys of the related rows. -/
def answerRow (n : Names) (p : Row × List Row) : Row :=
  p.1 ++ [("extracted", .list (p.2.map fun row => row.cell n.key))]

/-! ## The rows of the statement -/

section

variable (s : Server) (db : Sql.Database) (n : Names) (inner outer : List Selection) (lower upper : Value)

theorem holds_relation (row base : Row) :
    (Test.relation n lower upper).holds s db [("related", row), ("base", base)] = s.relates n lower upper base row :=
  rfl

theorem holds_related (row base : Row) :
    (Test.related n outer lower upper).holds s db [("related", row), ("base", base)] = true ↔
      (∀ sel ∈ outer, (Query.ofSelection sel).Yields s db [("related", row), ("base", base)] (row.cell n.key)) ∧
        s.relates n lower upper base row = true := by
  cases outer with
  | nil => simp [Test.related, holds_relation]
  | cons sel ss =>
    have hkey : (Term.ofTable "related" n.key).eval s [("related", row), ("base", base)] = row.cell n.key := rfl
    have hin := holds_inSelections s db (.ofTable "related" n.key) [("related", row), ("base", base)] (sel :: ss)
    rw [hkey] at hin
    rw [← hin, ← holds_relation s db, ← Bool.and_eq_true]
    simp [Test.related, Test.holds, Test.inSelections]

/-- The rows that are related to a base row, in the order of start. -/
def relatedRows (base : Row) : List Row :=
  ((db.rows n.table).filter fun row => (Test.related n outer lower upper).holds s db [("related", row), ("base", base)])
    |>.mergeSort fun a b => s.inOrder [a.cell n.start] [b.cell n.start]

theorem rows_related (base : Row) : ((Query.related n outer lower upper).rows s db [("base", base)]).map Row.first =
    (relatedRows s db n outer lower upper base).map fun row => row.cell n.key := by
  have hkey : ∀ row ∈ (db.rows n.table).filter fun row =>
      (Test.related n outer lower upper).holds s db [("related", row), ("base", base)],
      [Term.ofTable "related" n.start].map (Term.eval s ([("related", row)] ++ [("base", base)])) = [row.cell n.start] :=
    fun _ _ => rfl
  have harranged := arranged_map s [("base", base)] (by simp) (fun row => [("related", row)])
    (fun row => [row.cell n.start]) _ hkey
  rw [Query.related, Query.rows, Tables.frames, List.filter_map]
  refine (congrArg (List.map Row.first) (congrArg (List.map _) harranged)).trans ?_
  rw [List.map_map, List.map_map]
  rfl

/-- The base rows, each with its related rows. -/
def baseRows : List (Row × List Row) :=
  ((db.rows n.table).filter fun base => (Test.inSelections (.ofTable "base" n.key) inner).holds s db [("base", base)])
    |>.map fun base => (base, relatedRows s db n outer lower upper base)

theorem rows_base : (Query.base n inner outer lower upper).rows s db [] =
    (baseRows s db n inner outer lower upper).map (answerRow n) := by
  rw [Query.base, Query.rows, Tables.frames, List.filter_map, arranged, List.isEmpty_nil, if_pos rfl, baseRows,
    List.map_map, List.map_map]
  refine List.map_congr_left fun base _ => ?_
  have hrelated := rows_related s db n outer lower upper base
  simp [Items.row, answerRow, hrelated]

variable {s db n inner outer lower upper}

theorem mem_relatedRows {base row : Row} : row ∈ relatedRows s db n outer lower upper base ↔
    row ∈ db.rows n.table ∧ (Test.related n outer lower upper).holds s db [("related", row), ("base", base)] = true := by
  rw [relatedRows, List.mem_mergeSort, List.mem_filter]

theorem cell_answerRow {p : Row × List Row} {c : String} (h : (p.1.cell c).isNull = false) :
    (answerRow n p).cell c = p.1.cell c := by
  unfold Row.cell at h ⊢
  rw [answerRow, List.lookup_append]
  cases hc : p.1.lookup c with
  | none =>
    rw [hc] at h
    cases h
  | some v => rfl

/-- A base row with related rows belongs to an entity and has a start. -/
theorem cells_of_relates {base row : Row} (h : s.relates n lower upper base row = true) :
    (base.cell n.entity).isNull = false ∧ (base.cell n.start).isNull = false := by
  rw [Server.relates, Bool.and_eq_true, Bool.and_eq_true, Server.isBetween, Bool.and_eq_true] at h
  obtain ⟨-, hentity, hlow, -⟩ := h
  refine ⟨(Server.compare_eq_true.1 hentity).2.1, ?_⟩
  have hsum := (Server.compare_eq_true.1 hlow).1
  unfold Server.plus at hsum
  cases hstart : (base.cell n.start).isNull with
  | false => rfl
  | true =>
    rw [hstart] at hsum
    cases hsum

theorem holds_above (hs : s.Orders) {p : Row × List Row} (h : p.1.lookup "extracted" = none) :
    (Test.above (.cardinality (.column "extracted")) (.value (.int 0))).holds s db [("extraction", answerRow n p)] =
      !p.2.isEmpty := by
  have hcell : (answerRow n p).cell "extracted" = .list (p.2.map fun row => row.cell n.key) := by
    rw [Row.cell, answerRow, List.lookup_append, h]
    rfl
  have hless : s.less (.int 0) (.int p.2.length) = true ↔ p.2 ≠ [] := by
    rw [hs.less_int, Int.natCast_pos, List.length_pos_iff]
  have hlength : Sql.cardinality (.list (p.2.map fun row => row.cell n.key)) = .int p.2.length := by
    rw [Sql.cardinality, List.length_map]
  show Server.compare (fun x y => s.less y x) (Sql.cardinality ((answerRow n p).cell "extracted")) (.int 0) = _
  rw [hcell, hlength, Bool.eq_iff_iff, Server.compare_eq_true, Bool.not_eq_true',
    List.isEmpty_eq_false_iff, ← hless]
  exact ⟨fun h => h.2.2, fun h => ⟨rfl, rfl, h⟩⟩

theorem mem_baseRows {p : Row × List Row} (hp : p ∈ baseRows s db n inner outer lower upper) :
    p.1 ∈ db.rows n.table ∧ p.2 = relatedRows s db n outer lower upper p.1 := by
  obtain ⟨base, hbase, rfl⟩ := List.mem_map.1 hp
  exact ⟨(List.mem_filter.1 hbase).1, rfl⟩

/-- Rows are put in order by columns of the base row, which the column at their end leaves alone. -/
theorem cells_answerRow {p : Row × List Row} (hp : p ∈ baseRows s db n inner outer lower upper) (hne : p.2 ≠ []) :
    [(answerRow n p).cell n.entity, (answerRow n p).cell n.start] = [p.1.cell n.entity, p.1.cell n.start] := by
  obtain ⟨row, hrow⟩ := List.exists_mem_of_ne_nil p.2 hne
  rw [(mem_baseRows hp).2, mem_relatedRows, holds_related] at hrow
  obtain ⟨-, -, hrelates⟩ := hrow
  obtain ⟨hentity, hstart⟩ := cells_of_relates hrelates
  rw [cell_answerRow hentity, cell_answerRow hstart]

variable (s db n inner outer lower upper)

/-- The base rows that have related rows, in the order of entity and start. -/
def foundRows : List (Row × List Row) :=
  ((baseRows s db n inner outer lower upper).filter fun p => !p.2.isEmpty).mergeSort fun p q =>
    s.inOrder [p.1.cell n.entity, p.1.cell n.start] [q.1.cell n.entity, q.1.cell n.start]

theorem rows_ofExtraction (hs : s.Orders) (hfresh : ∀ row ∈ db.rows n.table, row.lookup "extracted" = none)
    (limit : Option Value) : (Statement.ofExtraction n inner outer lower upper limit).query.rows s db [] =
      (foundRows s db n inner outer lower upper).map (answerRow n) := by
  have hfilter : (baseRows s db n inner outer lower upper).filter (fun p =>
      (Test.above (.cardinality (.column "extracted")) (.value (.int 0))).holds s db [("extraction", answerRow n p)]) =
        (baseRows s db n inner outer lower upper).filter fun p => !p.2.isEmpty := by
    refine List.filter_congr fun p hp => ?_
    exact holds_above hs (hfresh p.1 (mem_baseRows hp).1)
  have hkey : ∀ p ∈ (baseRows s db n inner outer lower upper).filter fun p => !p.2.isEmpty,
      [Term.column n.entity, .column n.start].map (Term.eval s ([("extraction", answerRow n p)] ++ [])) =
        [p.1.cell n.entity, p.1.cell n.start] := by
    intro p hp
    obtain ⟨hp, hrelated⟩ := List.mem_filter.1 hp
    exact cells_answerRow hp (by simpa using hrelated)
  have harranged := arranged_map s [] (by simp) (fun p => [("extraction", answerRow n p)])
    (fun p => [p.1.cell n.entity, p.1.cell n.start]) _ hkey
  rw [Statement.ofExtraction, Query.rows, Tables.frames, rows_base, List.map_map, List.filter_map]
  refine (congrArg (List.map _) ((congrArg (fun l => arranged s [] _ (List.map _ l)) hfilter).trans harranged)).trans ?_
  rw [List.map_map, foundRows]
  refine List.map_congr_left fun p _ => ?_
  simp [Items.row]

variable {s db n inner outer lower upper}

theorem mem_foundRows {p : Row × List Row} (hp : p ∈ foundRows s db n inner outer lower upper) :
    p.2 = relatedRows s db n outer lower upper p.1 := by
  rw [foundRows, List.mem_mergeSort, List.mem_filter] at hp
  exact (mem_baseRows hp.1).2

end

/-! ## What is found -/

section

variable {s : Server} {db : Sql.Database} {catalog : Catalog} {n : Names} {inner outer : List Selection}
  {e : Extraction} (hk : Name.tableAndKey catalog (.text n.table) = .ok (n.table, n.key))

include hk

theorem holds_inSelections_iff_meets (hi : Selection.ofCriteria catalog (.text n.table) e.inner = .ok inner) (base : Row) :
    (Test.inSelections (.ofTable "base" n.key) inner).holds s db [("base", base)] = true ↔
      e.inner.Meets s db catalog n.table n.key base := by
  rw [holds_inSelections, yields_iff_identifierSets hk hi]
  rfl

variable (lower upper : Value) (ho : Selection.ofCriteria catalog (.text n.table) e.outer = .ok outer)

include ho

theorem holds_related_iff_isRelated (base row : Row) :
    (Test.related n outer lower upper).holds s db [("related", row), ("base", base)] = true ↔
      e.IsRelated s db catalog n lower upper base row := by
  rw [holds_related, yields_iff_identifierSets hk ho]
  rfl

theorem mem_relatedRows_iff_isRelated {base row : Row} : row ∈ relatedRows s db n outer lower upper base ↔
    row ∈ db.rows n.table ∧ e.IsRelated s db catalog n lower upper base row := by
  rw [mem_relatedRows, holds_related_iff_isRelated hk lower upper ho]

open Classical in
/-- The rows that the statement selects are those that are to be found. -/
theorem found_foundRows (hs : s.Orders) (hi : Selection.ofCriteria catalog (.text n.table) e.inner = .ok inner) :
    e.Found s db catalog n lower upper (foundRows s db n inner outer lower upper) where
  bases := by
    have hperm := (List.mergeSort_perm ((baseRows s db n inner outer lower upper).filter fun p => !p.2.isEmpty)
      fun p q => s.inOrder [p.1.cell n.entity, p.1.cell n.start] [q.1.cell n.entity, q.1.cell n.start]).map Prod.fst
    refine hperm.trans (.of_eq ?_)
    rw [baseRows, List.filter_map, List.map_map, List.filter_filter]
    refine (List.map_id' _).trans (List.filter_congr fun base _ => ?_)
    rw [Bool.eq_iff_iff, Bool.and_eq_true, holds_inSelections_iff_meets hk hi, decide_eq_true_iff, and_comm]
    refine and_congr_right fun _ => ?_
    show (!(relatedRows s db n outer lower upper base).isEmpty) = true ↔ _
    rw [Bool.not_eq_true', List.isEmpty_eq_false_iff_exists_mem]
    exact exists_congr fun row => mem_relatedRows_iff_isRelated hk lower upper ho
  related := by
    intro p hp
    rw [mem_foundRows hp, relatedRows]
    refine (List.mergeSort_perm _ _).trans (.of_eq (List.filter_congr fun row _ => ?_))
    rw [Bool.eq_iff_iff, holds_related_iff_isRelated hk lower upper ho, decide_eq_true_iff]
  byStart := by
    intro p hp
    rw [mem_foundRows hp, relatedRows]
    have hkey (row : Row) : [row.cell n.start].length = 1 := rfl
    exact (hs.pairwise_mergeSort hkey _).imp Server.inOrder_one.1
  byEntity := by
    have hkey (p : Row × List Row) : [p.1.cell n.entity, p.1.cell n.start].length = 2 := rfl
    exact (hs.pairwise_mergeSort hkey _).imp Server.inOrder_two.1

end

theorem tableAndKey_of_names {catalog : Catalog} {table : Value} {e : Extraction} {n : Names}
    (h : e.names catalog table = .ok n) : Name.tableAndKey catalog table = .ok (n.table, n.key) := by
  simp only [names, bind_eq_ok] at h
  obtain ⟨⟨name, key⟩, hk, entity, -, start, -, stop, -, h⟩ := h
  obtain rfl := pure_eq_ok.1 h
  exact hk

theorem prepare_eq_ok {catalog : Catalog} {table : Value} {e : Extraction} {n : Names} {lower upper : Value}
    (h : e.prepare catalog table = .ok (n, lower, upper)) : e.names catalog table = .ok n ∧
      ColumnType.double.literal? e.lower = some lower ∧ ColumnType.double.literal? e.upper = some upper := by
  simp only [prepare, bind_eq_ok, ColumnType.coerce_eq_ok] at h
  obtain ⟨n', hn, l, hl, u, hu, h⟩ := h
  split at h
  · obtain ⟨_, h, -⟩ := bind_eq_ok.1 h
    cases h
  · cases h
    exact ⟨hn, hl, hu⟩

theorem answer_ofExtraction (s : Server) (db : Sql.Database) {n : Names} (inner outer : List Selection)
    (lower upper : Value) (limit : Option Value) (hs : s.Orders)
    (hfresh : ∀ row ∈ db.rows n.table, row.lookup "extracted" = none) :
    (Statement.ofExtraction n inner outer lower upper limit).answer s db =
      cut (limit.getD .null) ((foundRows s db n inner outer lower upper).map (answerRow n)) := by
  rw [Statement.answer, rows_ofExtraction s db n inner outer lower upper hs hfresh]
  cases limit with
  | none => rfl
  | some v => rfl

end Extraction

/-- A table is named in criteria as well as its name is. -/
theorem Selection.ofCriteria_name {catalog : Catalog} {v : Value} {t k : String}
    (h : Name.tableAndKey catalog v = .ok (t, k)) (c : Criteria) :
    ofCriteria catalog v c = ofCriteria catalog (.text t) c := by
  rw [ofCriteria, ofCriteria, h, Name.tableAndKey_name h]

/-- The value of a number in units of binary64, and nothing for everything else. -/
def Value.units : Value → Int
  | .int n => n * Double.one
  | .float (.finite negative units _) => Double.signed negative units
  | _ => 0

/-- A server that compares texts by their characters and puts numbers in order. -/
def Sql.Server.byNumber : Server where
  upper v := v
  isMatch v p := decide (p.plain.toList <:+: v.plain.toList)
  equal a b := a.plain == b.plain
  atMost a b := decide (a.units ≤ b.units)
  add a b := (a.sum b).toOption.getD .null
  equal_refl := Server.byText.equal_refl
  equal_symm := Server.byText.equal_symm
  equal_trans := Server.byText.equal_trans

theorem Sql.Server.orders_byNumber : Server.byNumber.Orders where
  total a b := by
    show decide (a.units ≤ b.units) = true ∨ decide (b.units ≤ a.units) = true
    rw [decide_eq_true_iff, decide_eq_true_iff]
    exact Int.le_total a.units b.units
  trans a b c hab hbc := decide_eq_true (Int.le_trans (of_decide_eq_true hab) (of_decide_eq_true hbc))
  int m n := by
    have hone : (0 : Int) < (Double.one : Nat) := by
      unfold Double.one
      generalize 1074 = k
      exact Int.natCast_pos.2 (Nat.two_pow_pos k)
    show decide (m * (Double.one : Nat) ≤ n * (Double.one : Nat)) = decide (m ≤ n)
    rw [decide_eq_decide]
    exact Int.mul_le_mul_right hone

/-- A catalog of events. -/
def Catalog.events : Catalog := .ofLists [("events", [("event_uuid", some .string), ("event_entity_uuid", some .string),
  ("event_start_time", some .bigint), ("event_end_time", some .bigint)])] [("events", ["event_uuid"])]

/-- An event. -/
def Sql.Row.event (key entity : String) (start stop : Int) : Row :=
  [("event_uuid", .text key), ("event_entity_uuid", .text entity), ("event_start_time", .int start),
    ("event_end_time", .int stop)]

/-- A database of three events, of which the second starts as the first ends. -/
def Sql.Database.events : Database where
  rows
    | "events" => [.event "a" "x" 0 1, .event "b" "x" 1 3, .event "c" "y" 1 2]
    | _ => []

/-- Criteria without filters. -/
def Criteria.unfiltered : Criteria :=
  { tagGroups := [], attributeGroups := [], columnFilters := [], numericFilters := [], matchMode := none,
    regexEnabled := false, limit := none }

/-- Events with those that start while they last. -/
def Extraction.whileLasting : Extraction :=
  { inner := .unfiltered, outer := .unfiltered, lower := .float (.zero false), upper := .float (.zero false),
    limit := some (.int 5) }

/-- The names of an extraction of events. -/
def Extraction.Names.events : Extraction.Names :=
  ⟨"events", "event_uuid", "event_entity_uuid", "event_start_time", "event_end_time"⟩

theorem Extraction.prepare_whileLasting : Extraction.whileLasting.prepare .events (.text "events") =
    .ok (.events, .float (.zero false), .float (.zero false)) := by
  rfl

theorem Criteria.meets_unfiltered (s : Server) (db : Sql.Database) (catalog : Catalog) (table key : String) (row : Row) :
    Criteria.unfiltered.Meets s db catalog table key row := by
  intro ids hids
  cases hids

theorem Sql.Database.rows_events : Database.events.rows Extraction.Names.events.table =
    [.event "a" "x" 0 1, .event "b" "x" 1 3, .event "c" "y" 1 2] := rfl

/-- Which event is related to which: the second is to the first, and there is nothing else. -/
theorem Sql.Database.relates_events :
    ((Database.events.rows Extraction.Names.events.table).map fun base =>
      (Database.events.rows Extraction.Names.events.table).map
        (Server.byNumber.relates .events (.float (.zero false)) (.float (.zero false)) base)) =
      [[false, true, false], [false, false, false], [false, false, false]] := by
  decide +kernel

/-- The first event is the only base row, and the second the only one that is related to it. -/
theorem Extraction.found_whileLasting {found : List (Row × List Row)} (h : Extraction.whileLasting.Found .byNumber .events
    .events .events (.float (.zero false)) (.float (.zero false)) found) :
    found = [(.event "a" "x" 0 1, [.event "b" "x" 1 3])] := by
  have hmeets (base : Row) : Extraction.whileLasting.inner.Meets .byNumber .events .events
      Extraction.Names.events.table Extraction.Names.events.key base :=
    Criteria.meets_unfiltered _ _ _ _ _ _
  have hrelated (base row : Row) : Extraction.whileLasting.IsRelated .byNumber .events .events .events
      (.float (.zero false)) (.float (.zero false)) base row ↔
        Server.byNumber.relates .events (.float (.zero false)) (.float (.zero false)) base row = true :=
    and_iff_right (Criteria.meets_unfiltered _ _ _ _ _ _)
  have htable := Database.relates_events
  rw [Database.rows_events] at htable
  simp only [List.map_cons, List.map_nil, List.cons.injEq, and_true] at htable
  have hbases : found.map Prod.fst = [.event "a" "x" 0 1] := by
    have hbases := h.bases
    simp only [hrelated, hmeets, true_and, Database.rows_events, List.mem_cons, List.not_mem_nil, or_false,
      exists_eq_or_imp, exists_eq_left, List.filter_cons, List.filter_nil, htable] at hbases
    simpa using hbases
  obtain ⟨⟨base, related⟩, rfl, rfl⟩ := List.map_eq_singleton_iff.1 hbases
  have hkeys := h.related _ (List.mem_singleton_self _)
  simp only [hrelated, Database.rows_events, List.filter_cons, List.filter_nil, htable] at hkeys
  have hkeys : related = [.event "b" "x" 1 3] := by simpa using hkeys
  rw [hkeys]

end FacetSearch

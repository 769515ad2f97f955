import FacetSearch.Criteria.Build
import FacetSearch.Proofs.Sql.Selecting
import Mathlib.Data.Set.Basic
/-!
# What a search answers

Criteria say which identifiers they want without a word of SQL: each group, column filter and numeric filter stands
for a set of them (`Criteria.identifierSets`). A search answers those rows of its table whose keys are in all of
these sets, and no others (`answer_of_compile`).
-/

namespace FacetSearch

open Sql

namespace Sql.Server

variable (s : Server)

/-- The value is there and matches the pattern. -/
def accepts (v p : Value) : Bool := compare s.isMatch v p

/-- Both values are there and equal in capitals. -/
def sameFolded (a b : Value) : Bool := s.same (s.fold a) (s.fold b)

/-- The value is there and lies between two others. -/
def isBetween (v low high : Value) : Bool := compare s.atMost low v && compare s.atMost v high

end Sql.Server

/-! ## Sets of identifiers -/

namespace Criteria

variable (s : Server) (db : Sql.Database)

/-- The entities of a table with a tag whose name matches a pattern. -/
def tagged (table pattern : String) : Set Value :=
  {id | ∃ link ∈ db.rows "tag_entities", ∃ tag ∈ db.rows "tags",
    s.same (link.cell "tag_entity_tag_uuid") (tag.cell "tag_uuid") = true ∧
    s.accepts (tag.cell "tag_name") (.text pattern) = true ∧
    s.sameFolded (link.cell "tag_entity_class") (.text table) = true ∧ id = link.cell "tag_entity_uuid"}

/-- The entities of a table with an attribute whose value is one of a group, or matches their pattern. -/
def attributed (table : String) (regex : Bool) (group : Group) : Set Value :=
  {id | ∃ row ∈ db.rows "attributes",
    (if regex then s.accepts (row.cell "attribute_value") (.text (Pattern.joined group)) = true
      else ∃ literal ∈ group, s.sameFolded (row.cell "attribute_value") (.text literal) = true) ∧
    s.sameFolded (row.cell "attribute_entity_class") (.text table) = true ∧ id = row.cell "attribute_entity_uuid"}

/-- A cell of a column of the type is what a literal says: texts are compared in capitals or matched, and everything
else is equal. -/
def meets (type : ColumnType) (regex : Bool) (cell literal : Value) : Bool :=
  if type = .string then if regex then s.accepts cell literal else s.sameFolded cell literal
  else s.same cell literal

/-- The keys of rows whose column is what one of the values says, as a literal of the column's type. -/
def valued (catalog : Catalog) (table key : String) (regex : Bool) (filter : String × List Value) : Set Value :=
  {id | ∃ row ∈ db.rows table, (∃ type, catalog.columnType? table (Text.lower (Text.strip filter.1)) = some type ∧
      ∃ v ∈ filter.2, ∃ literal, type.literal? v = some literal ∧
        meets s type regex (row.cell (Text.lower (Text.strip filter.1))) literal = true) ∧
    id = row.cell key}

/-- The keys of rows whose column lies in the window around one of the centres. -/
def near (table key : String) (filter : String × NumericFilter) : Set Value :=
  {id | ∃ row ∈ db.rows table, (∃ centre ∈ filter.2.centres, ∃ low high l u,
      centre.sum filter.2.lower = .ok low ∧ centre.sum filter.2.upper = .ok high ∧
      ColumnType.double.literal? low = some l ∧ ColumnType.double.literal? high = some u ∧
      s.isBetween (row.cell (Text.lower (Text.strip filter.1))) l u = true) ∧
    id = row.cell key}

/-- The sets of identifiers that criteria on a table ask for. -/
def identifierSets (catalog : Catalog) (table key : String) (c : Criteria) : List (Set Value) :=
  c.tagGroups.map (fun g => {id | ∃ p, Selection.tagPattern c.matchMode c.regexEnabled g = some p ∧
    id ∈ tagged s db table p}) ++
  c.attributeGroups.map (attributed s db table c.regexEnabled) ++
  c.columnFilters.map (valued s db catalog table key c.regexEnabled) ++
  c.numericFilters.map (near s db table key)

end Criteria

/-! ## What conditions hold for -/

section

variable {s : Server} {db : Sql.Database}

theorem holds_ofAlternatives {scope : Scope} {cs : List Condition} (hne : cs ≠ []) :
    (Test.ofAlternatives cs).holds s db scope = true ↔ ∃ c ∈ cs, (Test.ofCondition c).holds s db scope = true := by
  induction cs with
  | nil => exact absurd rfl hne
  | cons c cs ih =>
    cases cs with
    | nil => simp [Test.ofAlternatives]
    | cons c' cs =>
      rw [Test.ofAlternatives, Test.holds, Bool.or_eq_true, ih (by simp)]
      · simp
      · simp

/-- A column filter holds for a row whose column is what one of its values says. -/
theorem holds_columnCondition {column t : String} (hc : IsName column) (type : ColumnType) (regex : Bool)
    {literals : List Value} (hne : literals ≠ []) (row : Row) (scope : Scope) :
    (Test.ofCondition (Selection.columnCondition column type regex (literals.map fun l => ⟨l, type⟩))).holds s db
        ((t, row) :: scope) = true ↔
      ∃ l ∈ literals, Criteria.meets s type regex (row.cell column) l = true := by
  unfold Selection.columnCondition Criteria.meets
  split
  · split
    · rw [Test.ofCondition, holds_ofAlternatives (by simpa using hne)]
      simp [Test.ofCondition, Test.holds, hc.reference_eq, Term.eval, Server.accepts]
    · simp [Test.ofCondition, Test.holds, hc.reference_eq, Term.eval, Server.sameFolded]
  · simp [Test.ofCondition, Test.holds, hc.reference_eq, Term.eval]

/-- A window holds for a row whose column lies in it. -/
theorem holds_windowCondition {column t : String} (hc : IsName column) (l u : Value) (row : Row) (scope : Scope) :
    (Test.ofCondition (.within column ⟨l, .double⟩ ⟨u, .double⟩)).holds s db ((t, row) :: scope) =
      s.isBetween (row.cell column) l u := by
  simp [Test.ofCondition, Test.holds, hc.reference_eq, Term.eval, Server.isBetween]

/-! ## What selections yield -/

theorem reference_columns :
    Term.reference (GroupKind.valueColumn .tags) = .ofTable "tags" "tag_name" ∧
    Term.reference (GroupKind.classColumn .tags) = .ofTable "tag_entities" "tag_entity_class" ∧
    Term.reference (GroupKind.valueColumn .attributes) = .ofTable "attributes" "attribute_value" ∧
    Term.reference (GroupKind.classColumn .attributes) = .ofTable "attributes" "attribute_entity_class" :=
  ⟨rfl, rfl, rfl, rfl⟩

variable {scope : Scope} {x : Value}

theorem yields_tags {mode : Option MatchMode} {regex : Bool} {group : Group} {c : Condition} (table : String)
    (h : Selection.valueCondition .tags mode regex group = some c) :
    (Query.ofSelection ⟨.group .tags, .both c (.foldedEqual (GroupKind.classColumn .tags) ⟨.text table, .string⟩)⟩).Yields
        s db scope x ↔
      ∃ id ∈ {id | ∃ p, Selection.tagPattern mode regex group = some p ∧ id ∈ Criteria.tagged s db table p},
        s.same x id = true := by
  obtain ⟨p, hp, rfl⟩ := Option.map_eq_some_iff.1 h
  obtain ⟨hvalue, hclass, -, -⟩ := reference_columns
  rw [Query.yields_ofSelection]
  -- the frames of the join are pairs of a link and a tag that belong together
  simp only [Test.ofCondition, hvalue, hclass, Test.holds, Tables.ofSource, Tables.frames, Term.ofSource]
  constructor
  · rintro ⟨frame, hframe, htest, hx⟩
    simp only [List.mem_flatMap, List.mem_map, List.mem_filter] at hframe
    obtain ⟨_, ⟨link, hlink, rfl⟩, ⟨_, ⟨tag, htag, rfl⟩, rfl⟩, hjoin⟩ := hframe
    simp only [Term.eval, List.lookup, List.cons_append, List.nil_append, beq_self_eq_true, Option.getD_some,
      Bool.and_eq_true] at hjoin htest hx
    exact ⟨_, ⟨p, hp, link, hlink, tag, htag, hjoin, htest.1, htest.2, rfl⟩, hx⟩
  · rintro ⟨_, ⟨q, hq, link, hlink, tag, htag, hjoin, hname, htable, rfl⟩, hx⟩
    obtain rfl : p = q := Option.some.inj (hp.symm.trans hq)
    refine ⟨[("tag_entities", link), ("tags", tag)], ?_, ?_, ?_⟩
    · simp only [List.mem_flatMap, List.mem_map, List.mem_filter]
      exact ⟨_, ⟨link, hlink, rfl⟩, ⟨_, ⟨tag, htag, rfl⟩, rfl⟩, hjoin⟩
    · exact Bool.and_eq_true_iff.2 ⟨hname, htable⟩
    · exact hx

theorem yields_attributes {mode : Option MatchMode} {regex : Bool} {group : Group} {c : Condition} (table : String)
    (h : Selection.valueCondition .attributes mode regex group = some c) :
    (Query.ofSelection ⟨.group .attributes,
        .both c (.foldedEqual (GroupKind.classColumn .attributes) ⟨.text table, .string⟩)⟩).Yields s db scope x ↔
      ∃ id ∈ Criteria.attributed s db table regex group, s.same x id = true := by
  obtain ⟨-, -, hvalue, hclass⟩ := reference_columns
  have htest (row : Row) : (Test.ofCondition c).holds s db (("attributes", row) :: scope) = true ↔
      if regex then s.accepts (row.cell "attribute_value") (.text (Pattern.joined group)) = true
      else ∃ literal ∈ group, s.sameFolded (row.cell "attribute_value") (.text literal) = true := by
    cases regex with
    | true =>
      cases h
      simp [Test.ofCondition, Test.holds, hvalue, Term.eval, Selection.textParam, Server.accepts]
    | false =>
      cases h
      simp [Test.ofCondition, Test.holds, hvalue, Term.eval, Selection.textParam, Server.sameFolded]
  rw [Query.yields_ofSelection]
  simp only [Tables.ofSource, Tables.frames, Term.ofSource, List.mem_map]
  constructor
  · rintro ⟨_, ⟨row, hrow, rfl⟩, hholds, hx⟩
    rw [Test.ofCondition, Test.holds, Bool.and_eq_true] at hholds
    exact ⟨_, ⟨row, hrow, (htest row).1 hholds.1, hholds.2, rfl⟩, hx⟩
  · rintro ⟨_, ⟨row, hrow, hvalue, htable, rfl⟩, hx⟩
    refine ⟨_, ⟨row, hrow, rfl⟩, ?_, hx⟩
    rw [Test.ofCondition, Test.holds, Bool.and_eq_true]
    exact ⟨(htest row).2 hvalue, htable⟩

/-- A selection from the rows of a table yields the keys of those that meet its condition. -/
theorem yields_rows (table key : String) (c : Condition) : (Query.ofSelection ⟨.rows table key, c⟩).Yields s db scope x ↔
    ∃ row ∈ db.rows table, (Test.ofCondition c).holds s db ((table, row) :: scope) = true ∧
      s.same x (row.cell key) = true := by
  rw [Query.yields_ofSelection]
  simp [Tables.ofSource, Tables.frames, Term.ofSource, Term.eval]

/-- A set of keys of rows that meet what a condition tests. -/
theorem yields_rows_iff {table key : String} {c : Condition} {P : Row → Prop}
    (h : ∀ row, (Test.ofCondition c).holds s db ((table, row) :: scope) = true ↔ P row) :
    (Query.ofSelection ⟨.rows table key, c⟩).Yields s db scope x ↔
      ∃ id ∈ {id | ∃ row ∈ db.rows table, P row ∧ id = row.cell key}, s.same x id = true := by
  rw [yields_rows]
  constructor
  · rintro ⟨row, hrow, ht, hx⟩
    exact ⟨_, ⟨row, hrow, (h row).1 ht, rfl⟩, hx⟩
  · rintro ⟨_, ⟨row, hrow, hp, rfl⟩, hx⟩
    exact ⟨row, hrow, (h row).2 hp, hx⟩

theorem column_eq {catalog : Catalog} {table : Value} {column name : String}
    (h : Name.column catalog table (.text column) = .ok name) : name = Text.lower (Text.strip column) := by
  obtain ⟨_, he, -, rfl⟩ := Name.check_eq_ok.1 (Name.column_eq_ok.1 h).1
  cases he
  rfl

theorem yields_columns {catalog : Catalog} {table key column : String} {values : List Value} {regex : Bool}
    {sel : Selection} (ht : IsName table)
    (h : Selection.ofColumn catalog (.text table) (.text key) (.text column) (.list values) regex = .ok sel) :
    (Query.ofSelection sel).Yields s db scope x ↔
      ∃ id ∈ Criteria.valued s db catalog table key regex (column, values), s.same x id = true := by
  obtain ⟨name, t, type, literals, hn, hne, hname, htype, hl, rfl⟩ := Selection.ofColumn_eq_ok h
  have hcolumn := Name.isName_of_column hn
  obtain rfl := column_eq hn
  obtain rfl : CatalogName.text table = t := Except.ok.inj ((Name.ofValue_name ht).symm.trans hname)
  have hliterals : literals ≠ [] := by
    rintro rfl
    exact hne (List.forall₂_nil_right_iff.1 hl)
  refine yields_rows_iff fun row => ?_
  have hvalues : (∃ v ∈ values, ∃ l, type.literal? v = some l ∧
        Criteria.meets s type regex (row.cell (Text.lower (Text.strip column))) l = true) ↔
      ∃ l ∈ literals, Criteria.meets s type regex (row.cell (Text.lower (Text.strip column))) l = true :=
    exists_mem_iff hl fun v l hv => by simp [hv]
  rw [holds_columnCondition hcolumn type regex hliterals, ← hvalues]
  simp [htype]

/-- The ends of a window are literals between which a value lies. -/
def isWithin (s : Server) (v : Value) (w : Value × Value) : Prop := ∃ l u, ColumnType.double.literal? w.1 = some l ∧
  ColumnType.double.literal? w.2 = some u ∧ s.isBetween v l u = true

theorem isWithin_window {f : NumericFilter} {centre : Value} {w : Value × Value} (h : f.window centre = .ok w)
    (v : Value) : (∃ low high l u, centre.sum f.lower = .ok low ∧ centre.sum f.upper = .ok high ∧
      ColumnType.double.literal? low = some l ∧ ColumnType.double.literal? high = some u ∧
      s.isBetween v l u = true) ↔ isWithin s v w := by
  simp only [NumericFilter.window, bind_eq_ok, pure_eq_ok] at h
  obtain ⟨low, hlow, high, hhigh, rfl⟩ := h
  simp [hlow, hhigh, isWithin]

theorem isWithin_windowCondition {column t : String} (hc : IsName column) {w : Value × Value} {c : Condition}
    (h : Selection.windowCondition column w.1 w.2 = .ok c) (row : Row) :
    isWithin s (row.cell column) w ↔ (Test.ofCondition c).holds s db ((t, row) :: scope) = true := by
  obtain ⟨l, u, hl, hu, rfl⟩ := Selection.windowCondition_eq_ok h
  rw [holds_windowCondition hc]
  simp [isWithin, hl, hu]

theorem yields_numeric {catalog : Catalog} {table key column : String} {f : NumericFilter} {sel : Selection}
    (h : Selection.ofNumeric catalog (.text table) (.text key) (.text column) f.toValue = .ok sel) :
    (Query.ofSelection sel).Yields s db scope x ↔
      ∃ id ∈ Criteria.near s db table key (column, f), s.same x id = true := by
  obtain ⟨name, t, type, windows, cs, hn, hne, -, -, -, hw, hcs, rfl⟩ := Selection.ofNumeric_eq_ok h
  have hcolumn := Name.isName_of_column hn
  obtain rfl := column_eq hn
  have hwindows := mapM_eq_ok.1 hw
  have hcs_ne : cs ≠ [] := by
    rintro rfl
    obtain rfl := List.forall₂_nil_right_iff.1 hcs
    exact hne (List.forall₂_nil_right_iff.1 hwindows)
  refine yields_rows_iff fun row => ?_
  rw [Test.ofCondition, holds_ofAlternatives hcs_ne, ← exists_mem_iff hcs fun w c hwc =>
    isWithin_windowCondition hcolumn hwc row]
  exact (exists_mem_iff hwindows fun centre w hcentre => isWithin_window hcentre _).symm

/-- Each selection of criteria yields what is in its set. -/
theorem yields_iff_identifierSets {catalog : Catalog} {table : Value} {name key : String} {c : Criteria}
    {ss : List Selection} (hk : Name.tableAndKey catalog table = .ok (name, key))
    (h : Selection.ofCriteria catalog table c = .ok ss) :
    (∀ sel ∈ ss, (Query.ofSelection sel).Yields s db scope x) ↔
      ∀ ids ∈ c.identifierSets s db catalog name key, ∃ id ∈ ids, s.same x id = true := by
  obtain ⟨_, _, tags, attributes, columns, numeric, hk', rfl, ht, ha, hc, hn⟩ := Selection.ofCriteria_eq_ok h
  obtain ⟨rfl, rfl⟩ := Prod.mk.inj (Except.ok.inj (hk.symm.trans hk'))
  have htable := (Name.isName_of_tableAndKey hk).1
  simp only [Criteria.identifierSets, List.forall_mem_append, List.forall_mem_map]
  refine and_congr (and_congr (and_congr ?_ ?_) ?_) ?_
  · refine (forall_mem_iff ht fun g sel hg => ?_).symm
    obtain ⟨-, cond, hcond, rfl⟩ := Selection.ofGroup_eq_ok hg
    exact (yields_tags name hcond).symm
  · refine (forall_mem_iff ha fun g sel hg => ?_).symm
    obtain ⟨-, cond, hcond, rfl⟩ := Selection.ofGroup_eq_ok hg
    exact (yields_attributes name hcond).symm
  · exact (forall_mem_iff hc fun e sel he => (yields_columns htable he).symm).symm
  · exact (forall_mem_iff hn fun e sel he => (yields_numeric he).symm).symm

end

/-! ## Limits -/

theorem pos_of_positive {v : Value} {m n : Int} (h : Criteria.positive v m = .ok (some n)) : 0 < n := by
  unfold Criteria.positive at h
  split at h
  · cases h
    assumption
  · cases h

/-- A limit is greater than zero, however it is written. -/
theorem pos_of_parseLimit {v : Value} {n : Int} (h : Criteria.parseLimit v = .ok (some n)) : 0 < n := by
  unfold Criteria.parseLimit at h
  split at h
  · cases h
  · exact pos_of_positive h
  · split at h
    · cases h
    · cases h
  · split at h
    · exact pos_of_positive h
    · cases h
  · cases h
  · split at h
    · exact pos_of_positive h
    · cases h
  · split at h
    · exact pos_of_positive h
    · cases h
  · cases h

/-- Criteria that are built want at least one row. -/
theorem limit_pos_of_build {p : Criteria.Parts} {c : Criteria} (h : Criteria.build p = .ok c) :
    ∀ n, c.limit = some n → 0 < n := by
  simp only [Criteria.build, bind_eq_ok] at h
  obtain ⟨_, -, _, -, _, -, _, -, _, -, _, -, limit, hl, h⟩ := h
  obtain rfl := pure_eq_ok.1 h
  rintro n rfl
  exact pos_of_parseLimit hl

open Classical in
/-- A search answers exactly the rows of its table whose keys are in all sets of identifiers that its criteria ask for,
whatever the database holds and its server makes of values. -/
theorem answer_of_compile {p : Criteria.Parts} {c : Criteria} (hc : Criteria.build p = .ok c) {catalog : Catalog}
    {table : Value} {f : Fragment} (h : Search.compile catalog table c = .ok f) (s : Server) (db : Sql.Database) :
    ∃ name key, Name.tableAndKey catalog table = .ok (name, key) ∧
      f.answer s db = some (atMost c.limit ((db.rows name).filter fun row =>
        ∀ ids ∈ c.identifierSets s db catalog name key, ∃ id ∈ ids, s.same (row.cell key) id = true)) := by
  obtain ⟨name, key, ss, hk, hs, rfl⟩ := Search.compile_eq_ok h
  obtain ⟨htable, hkey⟩ := Name.isName_of_tableAndKey hk
  refine ⟨name, key, hk, ?_⟩
  rw [Fragment.answer, read_search htable hkey (Selection.proper_of_ofCriteria hs), Option.bind_eq_bind,
    Option.bind_some, answer_ofSearch s db name key ss (limit_pos_of_build hc)]
  congr 2
  refine List.filter_congr fun row _ => ?_
  rw [Bool.eq_iff_iff, holds_ofSelections, yields_iff_identifierSets hk hs, decide_eq_true_iff]

/-! ### A search by a name -/

/-- A server that compares texts by their characters, and matches them with what they hold. -/
def Sql.Server.byText : Server where
  upper v := .text (String.ofList (v.plain.toList.map Char.toUpper))
  isMatch v p := decide (p.plain.toList <:+: v.plain.toList)
  equal a b := a.plain == b.plain
  atMost a b := match a, b with
    | .int m, .int n => decide (m ≤ n)
    | _, _ => false
  add a b := match a, b with
    | .int m, .int n => .int (m + n)
    | _, _ => .null
  equal_refl a := beq_self_eq_true a.plain
  equal_symm _ _ h := beq_iff_eq.2 (beq_iff_eq.1 h).symm
  equal_trans _ _ _ h h' := beq_iff_eq.2 ((beq_iff_eq.1 h).trans (beq_iff_eq.1 h'))

/-- A database of two people. -/
def Sql.Database.people : Database where
  rows
    | "people" => [[("id", .text "1"), ("name", .text "O'HARA; --")], [("id", .text "2"), ("name", .text "Smith")]]
    | _ => []

theorem build_byName :
    Criteria.build { columns := .object [(.text " Name ", .text "O'Hara; --")], limit := .int 5 } = .ok .byName :=
  rfl

theorem mem_valued_byName (id : Value) :
    id ∈ Criteria.valued .byText .people .people "people" "id" false ("Name", [.text "O'Hara; --"]) ↔
      id = .text "1" := by
  constructor
  · rintro ⟨row, hrow, ⟨type, htype, v, hv, literal, hl, hm⟩, rfl⟩
    obtain rfl := List.mem_singleton.1 hv
    obtain rfl : ColumnType.string = type := Option.some.inj htype
    obtain rfl : Value.text "O'Hara; --" = literal := Option.some.inj hl
    -- both rows are at hand: one has the name, and the other has not
    rcases List.mem_pair.1 hrow with rfl | rfl
    · rfl
    · cases hm
  · rintro rfl
    exact ⟨_, List.mem_cons_self, ⟨_, rfl, _, List.mem_singleton.2 rfl, _, rfl, rfl⟩, rfl⟩

theorem answer_byName : ∃ f, Search.compile .people (.text " People ") .byName = .ok f ∧
    f.answer .byText .people = some [[("id", .text "1"), ("name", .text "O'HARA; --")]] := by
  refine ⟨_, Inquiry.compile_byName, ?_⟩
  obtain ⟨name, key, hk, h⟩ := answer_of_compile build_byName Inquiry.compile_byName .byText .people
  obtain ⟨rfl, rfl⟩ : "people" = name ∧ "id" = key := Prod.mk.inj (Except.ok.inj hk)
  have hsets : Criteria.byName.identifierSets .byText .people .people "people" "id" =
      [Criteria.valued .byText .people .people "people" "id" false ("Name", [.text "O'Hara; --"])] := rfl
  have hrow (row : Row) : (∀ ids ∈ [Criteria.valued .byText .people .people "people" "id" false
      ("Name", [.text "O'Hara; --"])], ∃ id ∈ ids, Server.byText.same (row.cell "id") id = true) ↔
      Server.byText.same (row.cell "id") (.text "1") = true := by
    simp [mem_valued_byName]
  rw [h, hsets]
  simp only [hrow]
  rfl

end FacetSearch

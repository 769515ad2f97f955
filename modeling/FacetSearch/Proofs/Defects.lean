import FacetSearch.Proofs.Decoded
/-!
# What is wrong with a search

Everything that can be wrong with criteria for a table is a list of defects in a fixed order (`Criteria.defects`): first
those of the table, then of each tag group and each attribute group, of each column filter and of each numeric filter.
Looking for it is not repeated from how a search is compiled: whether a defect is there can be told by itself. A search
reports the first defect that is there, and is compiled if there is none (`error_iff_first`).
-/

namespace FacetSearch

/-- Something that may be wrong, and the error for it. -/
structure Defect where
  present : Bool
  error : Error

namespace Defect

/-- The error of the first defect that is there. -/
def first (ds : List Defect) : Option Error := (ds.find? present).map error

theorem first_cons (d : Defect) (ds : List Defect) : first (d :: ds) = if d.present then some d.error else first ds := by
  unfold first
  rw [List.find?_cons]
  cases d.present <;> rfl

theorem first_append (ds es : List Defect) : first (ds ++ es) = (first ds).or (first es) := by
  induction ds with
  | nil => rfl
  | cons d ds ih =>
    rw [List.cons_append, first_cons, first_cons, ih]
    cases d.present <;> rfl

/-- There is a first defect if there is any. -/
theorem first_isSome (ds : List Defect) : (∃ e, first ds = some e) ↔ ∃ d ∈ ds, d.present = true := by
  simp [first, ← Option.isSome_iff_exists]

end Defect

open Defect

/-! ## Reporting the first defect -/

/-- This fails with the error of the first defect that is there, and does not fail if there is none. -/
def Reports {α : Type} (x : Except Error α) (ds : List Defect) : Prop :=
  first ds = match x with
    | .ok _ => none
    | .error e => some e

namespace Reports

variable {α β : Type}

theorem ok (a : α) : Reports (.ok a) [] := rfl

theorem of_eq_ok {x : Except Error α} {a : α} (h : x = .ok a) : Reports x [] := h ▸ ok a

/-- A defect is looked for before all others. -/
theorem cons {x : Except Error α} {d : Defect} {ds : List Defect} (h : d.present = true → x = .error d.error)
    (h' : d.present = false → Reports x ds) : Reports x (d :: ds) := by
  unfold Reports
  rw [first_cons]
  cases hd : d.present with
  | true => rw [h hd, if_pos rfl]
  | false => exact h' hd

theorem bind {x : Except Error α} {f : α → Except Error β} {ds es : List Defect} (hx : Reports x ds)
    (hf : ∀ a, x = .ok a → Reports (f a) es) : Reports (x >>= f) (ds ++ es) := by
  unfold Reports at hx ⊢
  rw [first_append, hx]
  cases x with
  | ok a => exact hf a rfl
  | error e => rfl

/-- What does not fail has no defects. -/
theorem ok_bind {x : Except Error α} {f : α → Except Error β} {a : α} {ds : List Defect} (hx : x = .ok a)
    (hf : Reports (f a) ds) : Reports (x >>= f) ds := by
  rw [hx]
  exact hf

theorem bind_ok {x : Except Error α} {f : α → Except Error β} {ds : List Defect} (hx : Reports x ds)
    (hf : ∀ a, x = .ok a → ∃ b, f a = .ok b) : Reports (x >>= f) ds := by
  have h : Reports (x >>= f) (ds ++ []) := by
    refine bind hx fun a ha => ?_
    obtain ⟨b, hb⟩ := hf a ha
    exact of_eq_ok hb
  rwa [List.append_nil] at h

theorem mapM_cons {f : α → Except Error β} {a : α} {as : List α} {ds es : List Defect} (h : Reports (f a) ds)
    (h' : Reports (as.mapM f) es) : Reports ((a :: as).mapM f) (ds ++ es) := by
  rw [List.mapM_cons]
  exact bind h fun b _ => bind_ok h' fun bs _ => ⟨_, rfl⟩

/-- Members are looked at one after the other. -/
theorem mapM {f : α → Except Error β} {ds : α → List Defect} {as : List α} (h : ∀ a ∈ as, Reports (f a) (ds a)) :
    Reports (as.mapM f) (as.flatMap ds) := by
  induction as with
  | nil => exact ok []
  | cons a as ih => exact mapM_cons (h a List.mem_cons_self) (ih fun x hx => h x (List.mem_cons_of_mem _ hx))

/-- Each member has one defect. -/
theorem mapM_single {f : α → Except Error β} {d : α → Defect} {as : List α} (h : ∀ a ∈ as, Reports (f a) [d a]) :
    Reports (as.mapM f) (as.map d) := by
  rw [List.map_eq_flatMap]
  exact mapM h

theorem exists_ok_iff {x : Except Error α} {ds : List Defect} (h : Reports x ds) :
    (∃ a, x = .ok a) ↔ ∀ d ∈ ds, d.present = false := by
  cases x with
  | ok a =>
    have hnone : first ds = none := h
    simpa [first] using hnone
  | error e =>
    obtain ⟨d, hd, hpresent⟩ := (first_isSome ds).1 ⟨e, h⟩
    simp only [reduceCtorEq, exists_false, false_iff]
    intro hall
    rw [hall d hd] at hpresent
    cases hpresent

theorem error_iff {x : Except Error α} {ds : List Defect} (h : Reports x ds) (e : Error) :
    x = .error e ↔ first ds = some e := by
  rw [h]
  cases x with
  | ok a => simp
  | error e' => simp

end Reports

/-! ## Defects -/

namespace Name

/-- The value is a text that is a name but for white space around it. -/
def isWritten : Value → Bool
  | .text s => isName (Text.stripChars s.toList)
  | _ => false

/-- The name that a text stands for. -/
def written : Value → String
  | .text s => Text.lower (Text.strip s)
  | _ => ""

end Name

namespace Criteria

/-- The value is no name, the table is not there, it has no primary key, or the first column of that has no name. -/
def tableDefects (catalog : Catalog) (table : Value) : List Defect :=
  let name := Name.written table
  [⟨!Name.isWritten table, .schema (.name table)⟩] ++ ([⟨!catalog.hasTable name, .schema (.table name)⟩] ++
  (⟨(catalog.primaryKey name).isEmpty, .schema (.noKey name)⟩ ::
  ((catalog.primaryKey name).take 1).map fun key => ⟨!Name.isWritten key.toValue, .schema (.name key.toValue)⟩))

/-- A group has no literal or a blank one, the columns for its kind are not there, or tags have no match mode. -/
def groupDefects (catalog : Catalog) (kind : GroupKind) (mode : Option MatchMode) (regex : Bool) (group : Group) :
    List Defect :=
  ([⟨group.isEmpty, .configuration (.emptyGroup kind)⟩] ++
  group.map fun literal => ⟨Text.isBlankText literal, .configuration (.blankLiteral kind (group.map .text))⟩) ++
  ((kind.requiredColumns.map fun (t, c) => ⟨!catalog.hasColumn t c, .schema (.groupColumn kind t c)⟩) ++
  [⟨kind = .tags && !regex && mode.isNone, .configuration .matchModeMissing⟩])

/-- The name of a column is none, or the table has no such column. -/
def nameDefects (catalog : Catalog) (table column : String) : List Defect :=
  let name := Name.written (.text column)
  [⟨!Name.isWritten (.text column), .schema (.name (.text column))⟩] ++
  [⟨!catalog.hasColumn table name, .schema (.column name (.text table))⟩]

/-- A value is no literal of the column's type; a type that holds arrays has none. -/
def valueDefect (column : String) (type : ColumnType) (v : Value) : Defect :=
  ⟨(type.literal? v).isNone, .typeMismatch
    (if type = .array ∧ !v.isNull then .uncomparable type (some (.text column))
      else .literal v type (some (.text column)))⟩

/-- The column is not there, there is no value, the type cannot be searched, or a value is no literal of it. -/
def columnDefects (catalog : Catalog) (table : String) (filter : String × List Value) : List Defect :=
  let column := Name.written (.text filter.1)
  nameDefects catalog table filter.1 ++
  (⟨filter.2.isEmpty, .configuration (.noValues column)⟩ ::
  match catalog.columnType? table column with
  | none => [⟨true, .typeMismatch (.unsearchable column (.text table))⟩]
  | some type => filter.2.map (valueDefect column type))

/-- The window of a filter is reversed. -/
def isReversed (f : NumericFilter) : Bool :=
  match f.lower.number?, f.upper.number? with
  | some l, some u => l.gt u
  | _, _ => false

/-- An end of a window is not a finite number. -/
def endDefect (column : String) (centre offset : Value) : Defect :=
  let v := (centre.sum offset).toOption.getD .null
  ⟨!v.isFiniteNumber, .typeMismatch (.literal v .double (some (.text column)))⟩

/-- One of the ends of the window around a centre is not finite. -/
def endDefects (column : String) (f : NumericFilter) (centre : Value) : List Defect :=
  [endDefect column centre f.lower] ++ [endDefect column centre f.upper]

/-- The column is not there or holds no numbers, there is no centre, the window is reversed, or has an end that is not
finite. -/
def numericDefects (catalog : Catalog) (table : String) (filter : String × NumericFilter) : List Defect :=
  let column := Name.written (.text filter.1)
  nameDefects catalog table filter.1 ++
  (⟨!(catalog.columnType? table column).any ColumnType.isNumeric, .typeMismatch (.notNumeric column)⟩ ::
  ⟨filter.2.centres.isEmpty, .configuration (.noCentres column)⟩ ::
  ⟨isReversed filter.2, .configuration (.windowReversed column filter.2.lower filter.2.upper)⟩ ::
  filter.2.centres.flatMap (endDefects column filter.2))

/-- All values of column filters can be written. -/
def HasWritableValues (c : Criteria) : Prop := ∀ filter ∈ c.columnFilters, ∀ v ∈ filter.2, v.isWritable = true

/-- All that can be wrong with criteria for a table, in the order in which it is looked for. -/
def defects (catalog : Catalog) (table : Value) (c : Criteria) : List Defect :=
  tableDefects catalog table ++
  (c.tagGroups.flatMap (groupDefects catalog .tags c.matchMode c.regexEnabled) ++
  (c.attributeGroups.flatMap (groupDefects catalog .attributes c.matchMode c.regexEnabled) ++
  (c.columnFilters.flatMap (columnDefects catalog (Name.written table)) ++
  c.numericFilters.flatMap (numericDefects catalog (Name.written table)))))

end Criteria

/-! ## What is reported -/

namespace Name

theorem check_reports (v : Value) : Reports (check v) [⟨!isWritten v, .schema (.name v)⟩] := by
  refine .cons (fun h => ?_) fun h => ?_
  · cases v with
    | text s => rw [check, if_neg (by simpa [isWritten] using h)]
    | _ => rfl
  · cases v with
    | text s =>
      rw [check, if_pos (by simpa [isWritten] using h)]
      exact .ok _
    | _ => cases h

theorem written_of_check {v : Value} {n : String} (h : check v = .ok n) : written v = n := by
  obtain ⟨s, rfl, -, hn⟩ := check_eq_ok.1 h
  exact hn

theorem tableAndKey_reports (catalog : Catalog) (v : Value) :
    Reports (tableAndKey catalog v) (Criteria.tableDefects catalog v) := by
  have htable : Reports (table catalog v)
      ([⟨!isWritten v, .schema (.name v)⟩] ++ [⟨!catalog.hasTable (written v), .schema (.table (written v))⟩]) := by
    refine .bind (check_reports v) fun name hname => ?_
    obtain rfl := written_of_check hname
    refine .cons (fun h => if_neg (by simpa using h)) fun h => ?_
    rw [if_pos (by simpa using h)]
    exact .ok _
  unfold Criteria.tableDefects
  rw [← List.append_assoc]
  refine .bind htable fun name hname => ?_
  obtain rfl := written_of_check (table_eq_ok.1 hname).1
  cases hkey : catalog.primaryKey (written v) with
  | nil => exact .cons (fun _ => rfl) fun h => by cases h
  | cons key rest =>
    refine .cons (fun h => by cases h) fun _ => ?_
    exact .bind_ok (check_reports key.toValue) fun k _ => ⟨_, rfl⟩

theorem column_reports {table : String} (ht : IsName table) (catalog : Catalog) (column : String) :
    Reports (Name.column catalog (.text table) (.text column)) (Criteria.nameDefects catalog table column) := by
  refine .bind (check_reports _) fun name hname => ?_
  obtain rfl := written_of_check hname
  refine .ok_bind (ofValue_name ht) ?_
  refine .cons (fun h => if_neg (by simpa using h)) fun h => ?_
  rw [if_pos (by simpa using h)]
  exact .ok _

end Name

namespace Selection

theorem itemsOf_reports (xs : List Value) (f : ConfigurationFault) :
    Reports (itemsOf (.list xs) f) [⟨xs.isEmpty, .configuration f⟩] := by
  rw [itemsOf_list]
  cases xs with
  | nil => exact .cons (fun _ => rfl) fun h => by cases h
  | cons x xs => exact .cons (fun h => by cases h) fun _ => .ok _

theorem groupLiterals_reports (kind : GroupKind) (group : Group) :
    Reports (groupLiterals kind (.list (group.map .text)))
      ([⟨group.isEmpty, .configuration (.emptyGroup kind)⟩] ++
        group.map fun literal => ⟨Text.isBlankText literal, .configuration (.blankLiteral kind (group.map .text))⟩) := by
  have hitems := itemsOf_reports (group.map .text) (.emptyGroup kind)
  rw [List.isEmpty_map] at hitems
  refine .bind hitems fun items hi => ?_
  obtain rfl : group.map .text = items := by
    rw [itemsOf_list] at hi
    split at hi
    · cases hi
    · exact Except.ok.inj hi
  rw [List.mapM_map]
  refine .mapM_single fun literal _ => .cons (fun h => if_pos h) fun h => ?_
  show Reports (if _ then _ else _) _
  rw [if_neg (by simpa using h)]
  exact .ok _

/-- Of the columns that a kind needs, the first that is not there is reported. -/
theorem checkColumns_reports (catalog : Catalog) (kind : GroupKind) : Reports (checkColumns catalog kind)
    (kind.requiredColumns.map fun (t, c) => ⟨!catalog.hasColumn t c, .schema (.groupColumn kind t c)⟩) := by
  unfold checkColumns
  induction kind.requiredColumns with
  | nil => exact .ok ()
  | cons column columns ih =>
    rw [List.map_cons]
    refine .cons (fun h => ?_) fun h => ?_
    · rw [List.find?_cons_of_pos (by exact h)]
    · rw [List.find?_cons_of_neg (by simpa using h)]
      exact ih

theorem groupCondition_reports (kind : GroupKind) (group literals : Group) (mode : Option MatchMode) (regex : Bool) :
    Reports (groupCondition kind (.list (group.map .text)) literals mode regex)
      [⟨kind = .tags && !regex && mode.isNone, .configuration .matchModeMissing⟩] := by
  cases regex with
  | true =>
    refine .cons (fun h => by simp at h) fun _ => ?_
    simp only [groupCondition, if_true, Pattern.joinedValue_texts]
    exact .ok _
  | false =>
    cases kind with
    | tags =>
      cases mode with
      | none => exact .cons (fun _ => rfl) fun h => by cases h
      | some m => exact .cons (fun h => by cases h) fun _ => .ok _
    | attributes => exact .cons (fun h => by cases h) fun _ => .ok _

theorem ofGroup_reports (catalog : Catalog) (kind : GroupKind) (table : Value) (group : Group) (mode : Option MatchMode)
    (regex : Bool) : Reports (ofGroup catalog kind table (.list (group.map .text)) mode regex)
      (Criteria.groupDefects catalog kind mode regex group) := by
  refine .bind (groupLiterals_reports kind group) fun literals _ => ?_
  refine .bind (checkColumns_reports catalog kind) fun _ _ => ?_
  exact .bind_ok (groupCondition_reports kind group literals mode regex) fun _ _ => ⟨_, rfl⟩

/-- A value that can be written is coerced, or does not fit the column. -/
theorem coerce_reports (type : ColumnType) {v : Value} (hv : v.isWritable = true) {column : String} (hc : IsName column) :
    Reports (type.coerce v (some (.text column))) [Criteria.valueDefect column type v] := by
  have hcolumn : (some (Value.text column)).filter Value.isTruthy = some (.text column) := by
    refine Option.filter_eq_some_iff.2 ⟨rfl, ?_⟩
    show (column != "") = true
    rw [bne_iff_ne]
    rintro rfl
    exact hc.toList_ne_nil rfl
  unfold ColumnType.coerce
  cases hl : type.literal? v with
  | some l => exact .cons (fun h => by simp [Criteria.valueDefect, hl] at h) fun _ => .ok _
  | none =>
    refine .cons (fun _ => ?_) fun h => by simp [Criteria.valueDefect, hl] at h
    simp only [hcolumn, Criteria.valueDefect, ColumnType.mismatch, hv, if_true]
    split <;> rfl

theorem ofColumn_reports {table key : String} (ht : IsName table) (hk : IsName key) (catalog : Catalog)
    {filter : String × List Value} (hw : ∀ v ∈ filter.2, v.isWritable = true) (regex : Bool) :
    Reports (ofColumn catalog (.text table) (.text key) (.text filter.1) (.list filter.2) regex)
      (Criteria.columnDefects catalog table filter) := by
  refine .bind (Name.column_reports ht catalog filter.1) fun name hname => ?_
  have hc := Name.isName_of_column hname
  obtain rfl := Name.written_of_check (Name.column_eq_ok.1 hname).1
  refine .cons (fun h => ?_) fun h => ?_
  · rw [if_pos (by simpa [Value.isTruthy] using h)]
    rfl
  · rw [if_neg (by simpa [Value.isTruthy] using h)]
    refine .ok_bind (Name.ofValue_name ht) ?_
    cases catalog.columnType? table (Name.written (.text filter.1)) with
    | none => exact .cons (fun _ => rfl) fun h => by cases h
    | some type =>
      have hitems : itemsOf (.list filter.2) (.noValues (Name.written (.text filter.1))) = .ok filter.2 :=
        itemsOf_of_ne_nil (by simpa using h)
      refine .ok_bind (Fragment.append_text _ (no_placeholder_rows ht hk)) (.ok_bind hitems ?_)
      exact .bind_ok (.mapM_single fun v hv => coerce_reports type (hw v hv) hc) fun _ _ => ⟨_, rfl⟩

/-! ### Windows -/

/-- With finite numbers a window has two ends. -/
theorem window_of_isFinite {f : NumericFilter} (hf : f.IsFinite) {centre : Value} (hc : centre.isFiniteNumber = true) :
    ∃ low high, centre.sum f.lower = .ok low ∧ centre.sum f.upper = .ok high ∧ f.window centre = .ok (low, high) := by
  obtain ⟨low, hlow, -⟩ := Value.exists_sum hc hf.lower
  obtain ⟨high, hhigh, -⟩ := Value.exists_sum hc hf.upper
  exact ⟨low, high, hlow, hhigh, by rw [NumericFilter.window, hlow, hhigh]; rfl⟩

theorem isGreater_of_isFinite {f : NumericFilter} (hf : f.IsFinite) :
    f.lower.isGreater f.upper = .ok (Criteria.isReversed f) := by
  obtain ⟨l, hl, -⟩ := Value.isFiniteNumber_iff.1 hf.lower
  obtain ⟨u, hu, -⟩ := Value.isFiniteNumber_iff.1 hf.upper
  rw [Value.isGreater_of_numbers hl hu, Criteria.isReversed, hl, hu]

theorem end_reports {centre offset v : Value} (hc : centre.isFiniteNumber = true) (ho : offset.isFiniteNumber = true)
    (hv : centre.sum offset = .ok v) {column : String} (hn : IsName column) :
    Reports (ColumnType.double.coerce v (some (.text column))) [Criteria.endDefect column centre offset] := by
  obtain ⟨r, hr, hw, hl⟩ := Value.exists_sum hc ho
  obtain rfl : r = v := Except.ok.inj (hr.symm.trans hv)
  have hdefect : Criteria.endDefect column centre offset = Criteria.valueDefect column .double r := by
    simp [Criteria.endDefect, Criteria.valueDefect, hv, ← hl, Except.toOption]
  rw [hdefect]
  exact coerce_reports .double hw hn

/-- The windows of all centres are made before the first of them is looked at. -/
theorem windows_reports {f : NumericFilter} (hf : f.IsFinite) {column : String} (hn : IsName column)
    {centres : List Value} (hc : ∀ v ∈ centres, v.isFiniteNumber = true) :
    ∃ windows, centres.mapM f.window = .ok windows ∧ Reports (windows.mapM fun w => windowCondition column w.1 w.2)
      (centres.flatMap (Criteria.endDefects column f)) := by
  induction centres with
  | nil => exact ⟨[], rfl, .ok []⟩
  | cons centre centres ih =>
    have hcentre := hc centre List.mem_cons_self
    obtain ⟨low, high, hlow, hhigh, hwindow⟩ := window_of_isFinite hf hcentre
    obtain ⟨windows, hwindows, hreports⟩ := ih fun v hv => hc v (List.mem_cons_of_mem _ hv)
    refine ⟨(low, high) :: windows, ?_, ?_⟩
    · rw [List.mapM_cons, hwindow, hwindows]
      rfl
    · refine .mapM_cons ?_ hreports
      refine .bind (end_reports hcentre hf.lower hlow hn) fun _ _ => ?_
      exact .bind_ok (end_reports hcentre hf.upper hhigh hn) fun _ _ => ⟨_, rfl⟩

theorem ofNumeric_reports {table key : String} (ht : IsName table) (hk : IsName key) (catalog : Catalog)
    {filter : String × NumericFilter} (hf : filter.2.IsFinite) :
    Reports (ofNumeric catalog (.text table) (.text key) (.text filter.1) filter.2.toValue)
      (Criteria.numericDefects catalog table filter) := by
  refine .bind (Name.column_reports ht catalog filter.1) fun name hname => ?_
  have hc := Name.isName_of_column hname
  obtain rfl := Name.written_of_check (Name.column_eq_ok.1 hname).1
  refine .ok_bind (Name.ofValue_name ht) ?_
  refine .cons (fun h => ?_) fun h => ?_
  · rw [if_pos h]
    rfl
  rw [if_neg (by simpa using h)]
  refine .ok_bind (a := filter.2) rfl (.cons (fun h => ?_) fun hne => ?_)
  · rw [if_pos h]
    rfl
  rw [if_neg (by simpa using hne)]
  refine .ok_bind (isGreater_of_isFinite hf) (.cons (fun h => ?_) fun h => ?_)
  · rw [if_pos h]
    rfl
  rw [if_neg (by simpa using h)]
  obtain ⟨windows, hwindows, hreports⟩ := windows_reports hf hc hf.centre
  refine .ok_bind hwindows (.bind_ok hreports fun cs hcs => ?_)
  -- there is a window for each centre, so the alternatives are not empty
  have hproper : Proper ⟨.rows table key, .anyOf cs⟩ := by
    refine ⟨fun _ _ h => by cases h; exact ⟨ht, hk⟩, proper_windows hc ?_ (mapM_eq_ok.1 hcs)⟩
    rintro rfl
    simp [List.forall₂_nil_right_iff.1 (mapM_eq_ok.1 hwindows)] at hne
  exact ⟨_, bind_eq_ok.2 ⟨_, Fragment.append_eq _ hproper.wellFormed, rfl⟩⟩

/-- Nothing is wrong with criteria that is not one of their defects, if their numbers are finite and their values can be
written. -/
theorem ofCriteria_reports (catalog : Catalog) (table : Value) {c : Criteria} (hf : c.HasFiniteNumbers)
    (hw : c.HasWritableValues) : Reports (ofCriteria catalog table c) (c.defects catalog table) := by
  refine .bind (Name.tableAndKey_reports catalog table) fun (name, key) hk => ?_
  obtain ⟨htable, hkey⟩ := Name.isName_of_tableAndKey hk
  obtain rfl := Name.written_of_check (Name.table_eq_ok.1 (Name.tableAndKey_eq_ok.1 hk).1).1
  refine .bind (.mapM fun group _ => ofGroup_reports catalog .tags _ group c.matchMode c.regexEnabled) fun _ _ => ?_
  refine .bind (.mapM fun group _ => ofGroup_reports catalog .attributes _ group c.matchMode c.regexEnabled) fun _ _ => ?_
  refine .bind (.mapM fun filter h => ofColumn_reports htable hkey catalog (hw filter h) c.regexEnabled) fun _ _ => ?_
  exact .bind_ok (.mapM fun filter h => ofNumeric_reports htable hkey catalog (hf filter h)) fun _ _ => ⟨_, rfl⟩

end Selection

/-- A search reports the first of its defects. -/
theorem Search.compile_reports (catalog : Catalog) (table : Value) {c : Criteria} (hf : c.HasFiniteNumbers)
    (hw : c.HasWritableValues) : Reports (compile catalog table c) (c.defects catalog table) := by
  refine .bind_ok (Selection.ofCriteria_reports catalog table hf hw) fun ss hs => ?_
  obtain ⟨name, key, _, _, _, _, hk, -⟩ := Selection.ofCriteria_eq_ok hs
  obtain ⟨htable, hkey⟩ := Name.isName_of_tableAndKey hk
  exact ⟨_, bind_eq_ok.2 ⟨_, hk, statement_eq htable hkey (allProper_of_ofCriteria hs).wellFormed _⟩⟩

namespace Criteria

theorem unwritable_of_columnValues {v x : Value} (hx : x ∈ columnValues v) (hw : x.isWritable = false) :
    v.isWritable = false := by
  unfold columnValues at hx
  split at hx
  · rename_i members hm
    exact Value.unwritable_of_member hm (mem_of_mem_firstsBy hx) hw
  · obtain rfl := List.mem_singleton.1 hx
    exact hw

/-- Criteria that are built of what can be written have values that can be written. -/
theorem hasWritableValues_of_ofObject {v tolerance : Value} {c : Criteria} (h : ofObject v tolerance = .ok c)
    (hw : v.isWritable = true) : c.HasWritableValues := by
  obtain ⟨-, -, hcolumns, -⟩ := build_eq_ok (build_of_ofObject h)
  intro filter hfilter x hx
  rw [readColumns_eq_ok hcolumns] at hfilter
  obtain ⟨e, he, rfl⟩ := List.mem_map.1 (Keyed.mem_of_mem_ofList hfilter)
  cases hxw : x.isWritable with
  | true => rfl
  | false =>
    have hpart : (v.part "columns").isWritable = false :=
      Value.unwritable_of_entry he (by rw [unwritable_of_columnValues hx hxw, Bool.and_false])
    rw [Value.unwritable_of_part hpart] at hw
    cases hw

end Criteria

/-- A search for criteria that are read from a text reports the first of its defects. -/
theorem Search.compile_reports_of_read {text : List Char} {v : Value} (hv : Json.read text = .ok v) {tolerance : Number}
    (ht : (Value.ofNumber tolerance).isFiniteNumber = true) {c : Criteria}
    (hc : Criteria.ofObject v (.ofNumber tolerance) = .ok c) (catalog : Catalog) (table : Value) :
    Reports (compile catalog table c) (c.defects catalog table) := by
  have hdecoded := Json.isDecoded_of_read hv
  exact compile_reports catalog table (Criteria.hasFiniteNumbers_of_isDecoded hdecoded ht hc)
    (Criteria.hasWritableValues_of_ofObject hc hdecoded.isWritable)

end FacetSearch

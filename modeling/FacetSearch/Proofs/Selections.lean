import FacetSearch.Proofs.Conditions
import FacetSearch.Query.Selection
/-!
# What the selections of criteria are

One lemma for each kind of filter says what its selection is whenever there is one (`ofGroup_eq_ok`,
`ofColumn_eq_ok`, `ofNumeric_eq_ok`); `ofCriteria_eq_ok` puts them together. From them, every selection is
proper (`proper_of_ofCriteria`). Nothing that goes wrong on the way is a disagreement between placeholders and
parameters (`ofCriteria_failsOnly`).
-/

namespace FacetSearch

/-- The error is not that placeholders and parameters disagree. -/
def Error.NotBinding (e : Error) : Prop := e.report?.map Prod.fst ≠ some .binding

namespace Error

theorem notBinding_configuration (f : ConfigurationFault) : NotBinding (.configuration f) := nofun

theorem notBinding_schema (f : SchemaFault) : NotBinding (.schema f) := nofun

theorem notBinding_typeMismatch (f : TypeFault) : NotBinding (.typeMismatch f) := nofun

theorem notBinding_value (f : ValueFault) : NotBinding (.value f) := nofun

theorem notBinding_failure (f : Failure) : NotBinding (.failure f) := nofun

end Error

/-! ## The pattern of a group -/

namespace Pattern

theorem map_plain (group : Group) : (group.map Value.text).map Value.plain = group := by
  rw [List.map_map]
  exact List.map_id' _

/-- On texts, joining values is joining expressions, also where there is only one. -/
theorem joinedValue_texts (group : Group) :
    joinedValue (.list (group.map .text)) = .ok (.text (joined group)) := by
  match group with
  | [] => rfl
  | [s] => simp [joinedValue, firstPiece, pieces, Value.items?, joined, ofExpressions, bind, Except.bind, pure,
      Except.pure]
  | s :: t :: group => exact congrArg (fun l => Except.ok (Value.text (joined l))) (map_plain (s :: t :: group))

end Pattern

theorem ColumnType.coerce_eq_ok {type : ColumnType} {v l : Value} {column : Option Value} :
    type.coerce v column = .ok l ↔ type.literal? v = some l := by
  unfold coerce
  split
  · rename_i b hb
    rw [hb, Except.ok.injEq, Option.some.injEq]
  · rename_i hb
    simp only [hb, reduceCtorEq, iff_false]
    split <;> exact fun h => by cases h

namespace Selection

/-- The pattern that tags are matched with; none if there is no mode to match them by. -/
def tagPattern (mode : Option MatchMode) (regex : Bool) (group : Group) : Option String :=
  if regex then some (Pattern.joined group) else mode.map (Pattern.forGroup · group)

/-- The condition on the values of a kind. -/
def valueCondition (kind : GroupKind) (mode : Option MatchMode) (regex : Bool) (group : Group) :
    Option Condition :=
  match kind with
  | .tags => (tagPattern mode regex group).map fun p => .matching kind.valueColumn (textParam p)
  | .attributes =>
    if regex then some (.matching kind.valueColumn (textParam (Pattern.joined group)))
    else some (.foldedAmong kind.valueColumn (group.map textParam))

theorem itemsOf_list (xs : List Value) (f : ConfigurationFault) :
    itemsOf (.list xs) f = if xs = [] then .error (.configuration f) else .ok xs := by
  cases xs <;> rfl

theorem itemsOf_of_ne_nil {xs : List Value} (h : xs ≠ []) {f : ConfigurationFault} : itemsOf (.list xs) f = .ok xs := by
  rw [itemsOf_list, if_neg h]

theorem groupLiterals_eq_ok {kind : GroupKind} {group literals : Group}
    (h : groupLiterals kind (.list (group.map .text)) = .ok literals) : group ≠ [] ∧ literals = group := by
  simp only [groupLiterals, bind_eq_ok, itemsOf_list, List.map_eq_nil_iff] at h
  obtain ⟨items, hi, h⟩ := h
  split at hi
  · cases hi
  · rename_i hne
    cases hi
    refine ⟨hne, ?_⟩
    rw [mapM_eq_ok, List.forall₂_map_left_iff] at h
    -- each literal is left as it is
    have he : List.Forall₂ (· = ·) group literals := by
      refine h.imp fun s t hst => ?_
      simp only at hst
      split at hst
      · cases hst
      · exact Except.ok.inj hst
    exact (List.forall₂_eq_eq_eq ▸ he).symm

theorem groupCondition_eq_ok {kind : GroupKind} {group : Group} {mode : Option MatchMode} {regex : Bool}
    {c : Condition} (h : groupCondition kind (.list (group.map .text)) group mode regex = .ok c) :
    valueCondition kind mode regex group = some c := by
  cases regex with
  | true =>
    simp only [groupCondition, if_true, Pattern.joinedValue_texts, bind, Except.bind, pure_eq_ok] at h
    subst h
    cases kind <;> rfl
  | false =>
    simp only [groupCondition, Bool.false_eq_true, if_false] at h
    cases kind with
    | tags =>
      cases mode with
      | none => cases h
      | some m => cases h; rfl
    | attributes => cases h; rfl

/-- A group has literals, and its selection asks for the class of the table beside the value. -/
theorem ofGroup_eq_ok {catalog : Catalog} {kind : GroupKind} {table : Value} {group : Group}
    {mode : Option MatchMode} {regex : Bool} {s : Selection}
    (h : ofGroup catalog kind table (.list (group.map .text)) mode regex = .ok s) :
    group ≠ [] ∧ ∃ c, valueCondition kind mode regex group = some c ∧
      s = ⟨.group kind, .both c (.foldedEqual kind.classColumn ⟨table, .string⟩)⟩ := by
  simp only [ofGroup, bind_eq_ok] at h
  obtain ⟨literals, hl, _, -, c, hc, h⟩ := h
  obtain ⟨hne, rfl⟩ := groupLiterals_eq_ok hl
  exact ⟨hne, c, groupCondition_eq_ok hc, (pure_eq_ok.1 h).symm⟩

theorem params_columnCondition (column : String) (type : ColumnType) (regex : Bool) (ps : List Param) :
    (columnCondition column type regex ps).params = ps := by
  unfold columnCondition
  split
  · split
    · rw [Condition.params, Condition.allParams_eq, List.flatMap_map]
      exact List.flatMap_singleton' ps
    · rfl
  · rfl

/-- The values of a column filter become literals of the column's type. -/
theorem ofColumn_eq_ok {catalog : Catalog} {table key : Value} {column : String} {values : List Value}
    {regex : Bool} {s : Selection}
    (h : ofColumn catalog table key (.text column) (.list values) regex = .ok s) :
    ∃ name t type literals, Name.column catalog table (.text column) = .ok name ∧ values ≠ [] ∧
      CatalogName.ofValue table = .ok t ∧ catalog.columnType? t name = some type ∧
      List.Forall₂ (fun v l => type.literal? v = some l) values literals ∧
      s = ⟨.rows table.plain key.plain, columnCondition name type regex (literals.map fun l => ⟨l, type⟩)⟩ := by
  simp only [ofColumn, bind_eq_ok] at h
  obtain ⟨name, hn, h⟩ := h
  split at h
  · obtain ⟨_, hu, -⟩ := bind_eq_ok.1 h
    cases hu
  · rename_i hv
    obtain ⟨t, ht, h⟩ := bind_eq_ok.1 h
    split at h
    · cases h
    · rename_i type htype
      simp only [bind_eq_ok, itemsOf_list] at h
      obtain ⟨_, -, items, hi, literals, hl, h⟩ := h
      split at hi
      · cases hi
      · rename_i hne
        cases hi
        refine ⟨name, t, type, literals, hn, hne, ht, htype, ?_, (pure_eq_ok.1 h).symm⟩
        exact (mapM_eq_ok.1 hl).imp fun v l => ColumnType.coerce_eq_ok.1

/-- The ends of a window become literals, whatever kind of numbers they are. -/
theorem windowCondition_eq_ok {column : String} {low high : Value} {c : Condition}
    (h : windowCondition column low high = .ok c) :
    ∃ l u, ColumnType.double.literal? low = some l ∧ ColumnType.double.literal? high = some u ∧
      c = .within column ⟨l, .double⟩ ⟨u, .double⟩ := by
  simp only [windowCondition, bind_eq_ok, ColumnType.coerce_eq_ok] at h
  obtain ⟨l, hl, u, hu, h⟩ := h
  exact ⟨l, u, hl, hu, (pure_eq_ok.1 h).symm⟩

/-- A numeric filter has centres, and its selection has one window for each. -/
theorem ofNumeric_eq_ok {catalog : Catalog} {table key : Value} {column : String} {f : NumericFilter}
    {s : Selection} (h : ofNumeric catalog table key (.text column) f.toValue = .ok s) :
    ∃ name t type windows cs, Name.column catalog table (.text column) = .ok name ∧ f.centres ≠ [] ∧
      CatalogName.ofValue table = .ok t ∧ catalog.columnType? t name = some type ∧ type.isNumeric = true ∧
      f.windows = .ok windows ∧
      List.Forall₂ (fun w c => windowCondition name w.1 w.2 = .ok c) windows cs ∧
      s = ⟨.rows table.plain key.plain, .anyOf cs⟩ := by
  simp only [ofNumeric, bind_eq_ok] at h
  obtain ⟨name, hn, t, ht, h⟩ := h
  split at h
  · obtain ⟨_, hu, -⟩ := bind_eq_ok.1 h
    cases hu
  · rename_i htype
    obtain ⟨type, htype, hnum⟩ : ∃ type, catalog.columnType? t name = some type ∧ type.isNumeric = true := by
      simpa [Option.any_eq_true] using htype
    obtain ⟨_, hf, h⟩ := bind_eq_ok.1 h
    cases hf
    split at h
    · obtain ⟨_, hu, -⟩ := bind_eq_ok.1 h
      cases hu
    · rename_i hne
      simp only [bind_eq_ok] at h
      obtain ⟨_, -, h⟩ := h
      split at h
      · obtain ⟨_, hu, -⟩ := bind_eq_ok.1 h
        cases hu
      · simp only [bind_eq_ok] at h
        obtain ⟨windows, hw, cs, hcs, _, -, h⟩ := h
        exact ⟨name, t, type, windows, cs, hn, by simpa using hne, ht, htype, hnum, hw, mapM_eq_ok.1 hcs,
          (pure_eq_ok.1 h).symm⟩

/-- The selections of criteria, kind by kind, each with its filter. -/
theorem ofCriteria_eq_ok {catalog : Catalog} {v : Value} {c : Criteria} {ss : List Selection}
    (h : ofCriteria catalog v c = .ok ss) :
    ∃ table key tags attributes columns numeric, Name.tableAndKey catalog v = .ok (table, key) ∧
      ss = tags ++ attributes ++ columns ++ numeric ∧
      List.Forall₂ (fun g s => ofGroup catalog .tags (.text table) (.list (g.map .text)) c.matchMode
        c.regexEnabled = .ok s) c.tagGroups tags ∧
      List.Forall₂ (fun g s => ofGroup catalog .attributes (.text table) (.list (g.map .text)) c.matchMode
        c.regexEnabled = .ok s) c.attributeGroups attributes ∧
      List.Forall₂ (fun e s => ofColumn catalog (.text table) (.text key) (.text e.1) (.list e.2)
        c.regexEnabled = .ok s) c.columnFilters columns ∧
      List.Forall₂ (fun e s => ofNumeric catalog (.text table) (.text key) (.text e.1) e.2.toValue = .ok s)
        c.numericFilters numeric := by
  simp only [ofCriteria, bind_eq_ok, mapM_eq_ok] at h
  obtain ⟨⟨table, key⟩, hk, tags, ht, attributes, ha, columns, hc, numeric, hn, h⟩ := h
  exact ⟨table, key, tags, attributes, columns, numeric, hk, (pure_eq_ok.1 h).symm, ht, ha, hc, hn⟩

/-! ## Selections are proper -/

/-- Names are names, and the condition is proper. -/
structure Proper (s : Selection) : Prop where
  source : ∀ table key, s.source = .rows table key → IsName table ∧ IsName key
  condition : s.condition.Proper

theorem isReference_valueColumn (kind : GroupKind) : IsReference kind.valueColumn := by
  cases kind with
  | tags => exact .ofTable (t := "tags") (c := "tag_name") (by decide) (by decide)
  | attributes =>
    exact .ofTable (t := "attributes") (c := "attribute_value") (by decide) (by decide)

theorem isReference_classColumn (kind : GroupKind) : IsReference kind.classColumn := by
  cases kind with
  | tags =>
    exact .ofTable (t := "tag_entities") (c := "tag_entity_class") (by decide) (by decide)
  | attributes =>
    exact .ofTable (t := "attributes") (c := "attribute_entity_class") (by decide) (by decide)

theorem proper_valueCondition {kind : GroupKind} {mode : Option MatchMode} {regex : Bool} {group : Group}
    (hne : group ≠ []) {c : Condition} (h : valueCondition kind mode regex group = some c) :
    c.Proper ∧ c.IsPredicate := by
  have hr := isReference_valueColumn kind
  cases kind with
  | tags =>
    obtain ⟨p, -, rfl⟩ := Option.map_eq_some_iff.1 h
    exact ⟨.matching hr, trivial⟩
  | attributes =>
    simp only [valueCondition] at h
    split at h
    · cases h
      exact ⟨.matching hr, trivial⟩
    · cases h
      exact ⟨.foldedAmong hr (by simpa using hne), trivial⟩

theorem proper_columnCondition {column : String} (hc : IsName column) (type : ColumnType) (regex : Bool)
    {values : List Param} (hv : values ≠ []) : (columnCondition column type regex values).Proper := by
  have hr := IsReference.column hc
  unfold columnCondition
  split
  · split
    · refine .anyOf (by simpa using hv) fun c h => ?_
      obtain ⟨p, -, rfl⟩ := List.mem_map.1 h
      exact .matching hr
    · exact .foldedAmong hr hv
  · exact .among hr hv

theorem proper_windows {column : String} (hc : IsName column) {windows : List (Value × Value)}
    {cs : List Condition} (hne : windows ≠ [])
    (h : List.Forall₂ (fun w c => windowCondition column w.1 w.2 = .ok c) windows cs) :
    (Condition.anyOf cs).Proper := by
  have hr := IsReference.column hc
  constructor
  · rintro rfl
    exact hne (List.forall₂_nil_right_iff.1 h)
  · intro c hmem
    obtain ⟨w, -, hw⟩ := exists_of_mem_right h hmem
    obtain ⟨l, u, -, -, rfl⟩ := windowCondition_eq_ok hw
    exact .within hr

theorem proper_of_ofGroup {catalog : Catalog} {kind : GroupKind} {table : Value} {group : Group}
    {mode : Option MatchMode} {regex : Bool} {s : Selection}
    (h : ofGroup catalog kind table (.list (group.map .text)) mode regex = .ok s) : s.Proper := by
  obtain ⟨hne, c, hc, rfl⟩ := ofGroup_eq_ok h
  obtain ⟨hp, hi⟩ := proper_valueCondition hne hc
  refine ⟨?_, .both hi hp (.foldedEqual (isReference_classColumn kind))⟩
  rintro table key ⟨⟩

theorem proper_of_ofColumn {catalog : Catalog} {table key column : String} {values : List Value} {regex : Bool}
    {s : Selection} (ht : IsName table) (hk : IsName key)
    (h : ofColumn catalog (.text table) (.text key) (.text column) (.list values) regex = .ok s) : s.Proper := by
  obtain ⟨name, t, type, literals, hn, hne, -, -, hl, rfl⟩ := ofColumn_eq_ok h
  constructor
  · rintro _ _ ⟨⟩
    exact ⟨ht, hk⟩
  · apply proper_columnCondition (Name.isName_of_column hn)
    have := hl.length_eq
    cases literals with
    | nil => exact absurd (List.length_eq_zero_iff.1 this) hne
    | cons l ls => simp

theorem proper_of_ofNumeric {catalog : Catalog} {table key column : String} {f : NumericFilter} {s : Selection}
    (ht : IsName table) (hk : IsName key)
    (h : ofNumeric catalog (.text table) (.text key) (.text column) f.toValue = .ok s) : s.Proper := by
  obtain ⟨name, t, type, windows, cs, hn, hne, -, -, -, hw, hcs, rfl⟩ := ofNumeric_eq_ok h
  constructor
  · rintro _ _ ⟨⟩
    exact ⟨ht, hk⟩
  · refine proper_windows (Name.isName_of_column hn) ?_ hcs
    rintro rfl
    exact hne (List.forall₂_nil_right_iff.1 (mapM_eq_ok.1 hw))

/-- Whatever the criteria and the catalog hold, only proper selections come of them. -/
theorem proper_of_ofCriteria {catalog : Catalog} {v : Value} {c : Criteria} {ss : List Selection}
    (h : ofCriteria catalog v c = .ok ss) : ∀ s ∈ ss, s.Proper := by
  obtain ⟨table, key, tags, attributes, columns, numeric, hk, rfl, ht, ha, hc, hn⟩ := ofCriteria_eq_ok h
  obtain ⟨htable, hkey⟩ := Name.isName_of_tableAndKey hk
  intro s hs
  simp only [List.mem_append] at hs
  rcases hs with ((hs | hs) | hs) | hs
  · obtain ⟨g, -, hg⟩ := exists_of_mem_right ht hs
    exact proper_of_ofGroup hg
  · obtain ⟨g, -, hg⟩ := exists_of_mem_right ha hs
    exact proper_of_ofGroup hg
  · obtain ⟨e, -, he⟩ := exists_of_mem_right hc hs
    exact proper_of_ofColumn htable hkey he
  · obtain ⟨e, -, he⟩ := exists_of_mem_right hn hs
    exact proper_of_ofNumeric htable hkey he

/-! ## Selections as fragments -/

theorem fragment_eq (s : Selection) : s.fragment = .ofText s.source.head ++ s.condition.fragment := rfl

theorem no_placeholder_head {s : Source} (h : ∀ table key, s = .rows table key → IsName table ∧ IsName key) :
    Fragment.placeholders s.head = 0 := by
  cases s with
  | group kind => cases kind <;> decide +kernel
  | rows table key =>
    obtain ⟨ht, hk⟩ := h table key rfl
    simp only [Source.head, Fragment.placeholders_append, placeholders_eq_zero ht.no_placeholder,
      placeholders_eq_zero hk.no_placeholder]
    rfl

theorem no_placeholder_rows {table key : String} (ht : IsName table) (hk : IsName key) :
    Fragment.placeholders (Source.rows table key).head = 0 :=
  no_placeholder_head fun _ _ h => by cases h; exact ⟨ht, hk⟩

theorem Proper.wellFormed {s : Selection} (h : s.Proper) : s.fragment.WellFormed := by
  rw [fragment_eq]
  exact (Fragment.wellFormed_ofText (no_placeholder_head h.source)).append h.condition.wellFormed

/-! ## What goes wrong -/

open Error

theorem check_failsOnly (v : Value) : FailsOnly NotBinding (Name.check v) := by
  unfold Name.check
  split
  · split
    · exact .ok _
    · exact .error (notBinding_schema _)
  · exact .error (notBinding_schema _)

theorem ofValue_failsOnly (v : Value) : FailsOnly NotBinding (CatalogName.ofValue v) := by
  unfold CatalogName.ofValue
  split
  · exact .ok _
  · split
    · exact .ok _
    · exact .ok _
    · exact .error (notBinding_failure _)

theorem column_failsOnly (catalog : Catalog) (table v : Value) :
    FailsOnly NotBinding (Name.column catalog table v) := by
  refine .bind (check_failsOnly v) fun name _ => .bind (ofValue_failsOnly table) fun t _ => ?_
  split
  · exact .ok _
  · exact .error (notBinding_schema _)

theorem tableAndKey_failsOnly (catalog : Catalog) (v : Value) :
    FailsOnly NotBinding (Name.tableAndKey catalog v) := by
  refine .bind (.bind (check_failsOnly v) fun name _ => ?_) fun name _ => ?_
  · split
    · exact .ok _
    · exact .error (notBinding_schema _)
  · split
    · exact .error (notBinding_schema _)
    · exact .bind (check_failsOnly _) fun key _ => .ok _

/-- What is no literal does not fit the type, or is too long to say so. -/
theorem coerce_eq_error {type : ColumnType} {v : Value} {column : Option Value} {e : Error}
    (h : type.coerce v column = .error e) :
    (∃ f, e = .typeMismatch f) ∨ v.isWritable = false ∧ e = .value .integerText := by
  unfold ColumnType.coerce ColumnType.mismatch at h
  split at h
  · cases h
  · split at h
    · exact .inl ⟨_, (Except.error.inj h).symm⟩
    · split at h
      · exact .inl ⟨_, (Except.error.inj h).symm⟩
      · rename_i hw
        exact .inr ⟨Bool.eq_false_of_not_eq_true hw, (Except.error.inj h).symm⟩

theorem coerce_failsOnly (type : ColumnType) (v : Value) (column : Option Value) :
    FailsOnly NotBinding (type.coerce v column) := by
  intro e h
  rcases coerce_eq_error h with ⟨f, rfl⟩ | ⟨-, rfl⟩
  · exact notBinding_typeMismatch f
  · exact notBinding_value _

theorem itemsOf_failsOnly (v : Value) (f : ConfigurationFault) : FailsOnly NotBinding (itemsOf v f) := by
  unfold itemsOf
  split
  · exact .error (notBinding_configuration _)
  · split
    · exact .ok _
    · exact .error (notBinding_failure _)

theorem ofGroup_failsOnly (catalog : Catalog) (kind : GroupKind) (table : Value) (group : Group)
    (mode : Option MatchMode) (regex : Bool) :
    FailsOnly NotBinding (ofGroup catalog kind table (.list (group.map .text)) mode regex) := by
  refine .bind (.bind (itemsOf_failsOnly _ _) fun items _ => .mapM fun v _ => ?_) fun literals _ =>
    .bind ?_ fun _ _ => .bind ?_ fun _ _ => .ok _
  · split
    · split
      · exact .error (notBinding_configuration _)
      · exact .ok _
    · exact .error (notBinding_configuration _)
  · unfold checkColumns
    split
    · exact .error (notBinding_schema _)
    · exact .ok _
  · unfold groupCondition
    split
    · rw [Pattern.joinedValue_texts]
      exact .ok _
    · split
      · exact .error (notBinding_configuration _)
      · exact .ok _
      · exact .ok _

theorem ofColumn_failsOnly {catalog : Catalog} {table key : String} (ht : IsName table) (hk : IsName key)
    (column values : Value) (regex : Bool) :
    FailsOnly NotBinding (ofColumn catalog (.text table) (.text key) column values regex) := by
  refine .bind (column_failsOnly catalog _ column) fun name hn =>
    .ite (fun _ => .throw (notBinding_configuration _)) fun _ => .bind (ofValue_failsOnly _) fun t _ => ?_
  split
  · exact .error (notBinding_typeMismatch _)
  · have hhead := Fragment.append_text Fragment.empty (no_placeholder_rows ht hk)
    exact .bind (.of_eq_ok hhead) fun _ _ => .bind (itemsOf_failsOnly _ _) fun _ _ =>
      .bind (.mapM fun v _ => coerce_failsOnly _ v _) fun _ _ => .ok _

theorem sum_failsOnly (a b : Value) : FailsOnly NotBinding (a.sum b) := by
  unfold Value.sum
  split
  · exact .ok _
  · exact .ok _
  · split
    · rename_i m n _ _
      cases m.add? n with
      | none => exact .error (notBinding_failure _)
      | some r => exact .ok _
    · exact .error (notBinding_failure _)

theorem isGreater_failsOnly (a b : Value) : FailsOnly NotBinding (a.isGreater b) := by
  unfold Value.isGreater
  split
  · exact .ok _
  · exact .ok _
  · split
    · exact .ok _
    · exact .error (notBinding_failure _)

theorem ofNumeric_failsOnly {catalog : Catalog} {table key : String} (ht : IsName table) (hk : IsName key)
    (column : Value) (f : NumericFilter) :
    FailsOnly NotBinding (ofNumeric catalog (.text table) (.text key) column f.toValue) := by
  refine .bind (column_failsOnly catalog _ column) fun name hn => .bind (ofValue_failsOnly _) fun t _ => ?_
  refine .ite (fun _ => .throw (notBinding_typeMismatch _)) fun _ => .bind (.of_eq_ok (a := f) rfl) fun g hg => ?_
  obtain rfl : f = g := Except.ok.inj hg
  refine .ite (fun _ => .throw (notBinding_configuration _)) fun hne => .bind (isGreater_failsOnly _ _) fun b _ => ?_
  refine .ite (fun _ => .throw (notBinding_configuration _)) fun _ => ?_
  refine .bind (.mapM fun c _ => .bind (sum_failsOnly _ _) fun _ _ => .bind (sum_failsOnly _ _) fun _ _ => .ok _)
    fun windows hw => ?_
  refine .bind (.mapM fun w _ => .bind (coerce_failsOnly _ _ _) fun _ _ => .bind (coerce_failsOnly _ _ _)
    fun _ _ => .ok _) fun cs hcs => ?_
  have hp : Proper ⟨.rows table key, .anyOf cs⟩ := by
    refine ⟨fun _ _ h => by cases h; exact ⟨ht, hk⟩, proper_windows (Name.isName_of_column hn) ?_ (mapM_eq_ok.1 hcs)⟩
    rintro rfl
    have := List.forall₂_nil_right_iff.1 (mapM_eq_ok.1 hw)
    simp [this] at hne
  exact .bind (.of_eq_ok (Fragment.append_eq _ hp.wellFormed)) fun _ _ => .ok _

/-- Criteria fail for many reasons, but never because placeholders and parameters disagree. -/
theorem ofCriteria_failsOnly (catalog : Catalog) (v : Value) (c : Criteria) :
    FailsOnly NotBinding (ofCriteria catalog v c) := by
  refine .bind (tableAndKey_failsOnly catalog v) fun ⟨table, key⟩ h => ?_
  obtain ⟨ht, hk⟩ := Name.isName_of_tableAndKey h
  refine .bind (.mapM fun g _ => ?_) fun _ _ => .bind (.mapM fun g _ => ?_) fun _ _ => .bind (.mapM fun e _ => ?_)
    fun _ _ => .bind (.mapM fun e _ => ?_) fun _ _ => .ok _
  · exact ofGroup_failsOnly _ _ _ _ _ _
  · exact ofGroup_failsOnly _ _ _ _ _ _
  · exact ofColumn_failsOnly ht hk _ _ _
  · exact ofNumeric_failsOnly ht hk _ _

end Selection

end FacetSearch

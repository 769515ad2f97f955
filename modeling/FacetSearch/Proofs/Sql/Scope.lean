import FacetSearch.Proofs.Sql.Meaning
import FacetSearch.Proofs.Sql.Reading.Extraction
import FacetSearch.Proofs.Sql.Reading.Lookup
/-!
# Names of statements

Where the names in a statement come from. A table is one of the schema, and a column is one of the table that it is
taken from: of the first table of its selection if it stands alone, else of the table that is named in front of it, be
that a table of the schema or a selection under a name. `Statement.Scoped` says so of every name. Which names have to be
in the schema for this is shown for searches, lookups and extractions (`scoped_ofSearch` and those after it).
-/

namespace FacetSearch.Sql

/-- What a database has: its tables and the columns of each. -/
structure Schema where
  table : String → Prop
  column : String → String → Prop

/-- The schema with one more column. -/
def Schema.withColumn (σ : Schema) (t c : String) : Schema :=
  { σ with column := fun t' c' => σ.column t' c' ∨ t' = t ∧ c' = c }

theorem Schema.withColumn_self (σ : Schema) (t c : String) : (σ.withColumn t c).column t c := .inr ⟨rfl, rfl⟩

theorem Schema.withColumn_of_column {σ : Schema} {t c : String} (h : σ.column t c) (t' c' : String) :
    (σ.withColumn t' c').column t c := .inl h

/-- The tables that are at hand under their names, each with its columns, those of the innermost selection first. -/
abbrev Frame := List (String × (String → Prop))

/-- The columns of the table with a name. -/
def Frame.ofTable (frame : Frame) (t : String) : String → Prop := (frame.lookup t).getD fun _ => False

/-- The columns of the first table. -/
def Frame.first (frame : Frame) : String → Prop := (frame.head?.map Prod.snd).getD fun _ => False

mutual

/-- The columns of the rows of a query. -/
def Query.columns (σ : Schema) : Query → String → Prop
  | .select items source _ _ => items.columns σ (source.frame σ)
  | .intersect first _ => first.columns σ

/-- The columns of selected rows. -/
def Items.columns (σ : Schema) (frame : Frame) : Items → String → Prop
  | .nil => fun _ => False
  | .all rest => fun c => (∃ e ∈ frame, e.2 c) ∨ rest.columns σ frame c
  | .allOf t rest => fun c => frame.ofTable t c ∨ rest.columns σ frame c
  | .term e rest => fun c => c = e.name ∨ rest.columns σ frame c
  | .array _ name rest => fun c => c = name ∨ rest.columns σ frame c

/-- The tables of a selection under their names. -/
def Tables.frame (σ : Schema) : Tables → Frame
  | .table t name => [(name, σ.column t)]
  | .query q name => [(name, q.columns σ)]
  | .join first second _ => first.frame σ ++ second.frame σ

end

/-- The columns in a term are at hand. -/
def Term.Scoped (frame : Frame) : Term → Prop
  | .column c => frame.first c
  | .ofTable t c => frame.ofTable t c
  | .value _ => True
  | .upper e => e.Scoped frame
  | .cardinality e => e.Scoped frame
  | .sum a b => a.Scoped frame ∧ b.Scoped frame

mutual

/-- The names in a query are those of the schema and of what is around it. -/
def Query.Scoped (σ : Schema) (outer : Frame) : Query → Prop
  | .select items source test order => source.Scoped σ outer ∧ test.Scoped σ (source.frame σ ++ outer) ∧
      items.Scoped σ (source.frame σ ++ outer) ∧ ∀ e ∈ order, e.Scoped (source.frame σ ++ outer)
  | .intersect first second => first.Scoped σ outer ∧ second.Scoped σ outer

/-- The names in the columns of a selection. -/
def Items.Scoped (σ : Schema) (frame : Frame) : Items → Prop
  | .nil => True
  | .all rest => rest.Scoped σ frame
  | .allOf t rest => t ∈ frame.map Prod.fst ∧ rest.Scoped σ frame
  | .term e rest => e.Scoped frame ∧ rest.Scoped σ frame
  | .array q _ rest => q.Scoped σ frame ∧ rest.Scoped σ frame

/-- The names in the tables of a selection. -/
def Tables.Scoped (σ : Schema) (outer : Frame) : Tables → Prop
  | .table t _ => σ.table t
  | .query q _ => q.Scoped σ outer
  | .join first second test => first.Scoped σ outer ∧ second.Scoped σ outer ∧
      test.Scoped σ (first.frame σ ++ second.frame σ ++ outer)

/-- The names in a test. -/
def Test.Scoped (σ : Schema) (frame : Frame) : Test → Prop
  | .always => True
  | .isMatch e p => e.Scoped frame ∧ p.Scoped frame
  | .equal a b => a.Scoped frame ∧ b.Scoped frame
  | .differ a b => a.Scoped frame ∧ b.Scoped frame
  | .above a b => a.Scoped frame ∧ b.Scoped frame
  | .between e low high => e.Scoped frame ∧ low.Scoped frame ∧ high.Scoped frame
  | .among e es => e.Scoped frame ∧ ∀ x ∈ es, x.Scoped frame
  | .within e q => e.Scoped frame ∧ q.Scoped σ frame
  | .and a b => a.Scoped σ frame ∧ b.Scoped σ frame
  | .or a b => a.Scoped σ frame ∧ b.Scoped σ frame

end

/-- Every name in a statement is that of a table of the schema or of a column of the table it is taken from. -/
def Statement.Scoped (σ : Schema) (st : Statement) : Prop :=
  st.query.Scoped σ [] ∧ ∀ e, st.limit = some e → e.Scoped []

theorem Statement.scoped_limit (limit : Option Value) (e : Term) (h : limit.map Term.value = some e) : e.Scoped [] := by
  obtain ⟨v, -, rfl⟩ := Option.map_eq_some_iff.1 h
  trivial

/-! ## Conditions -/

section

variable {σ : Schema} {frame : Frame}

theorem Test.scoped_ofAlternatives {cs : List Condition} (h : ∀ c ∈ cs, (Test.ofCondition c).Scoped σ frame) :
    (Test.ofAlternatives cs).Scoped σ frame := by
  induction cs with
  | nil => trivial
  | cons c cs ih =>
    have hc := h c List.mem_cons_self
    have hcs := ih fun d hd => h d (List.mem_cons_of_mem c hd)
    cases cs with
    | nil => exact hc
    | cons d ds => exact ⟨hc, hcs⟩

theorem Term.scoped_map {α : Type} {f : α → Term} (h : ∀ a, (f a).Scoped frame) (as : List α) :
    ∀ e ∈ as.map f, e.Scoped frame := by
  intro e he
  obtain ⟨a, -, rfl⟩ := List.mem_map.1 he
  exact h a

theorem Test.scoped_among {column : String} (h : (Term.reference column).Scoped frame) (ps : List Param) :
    (Test.ofCondition (.among column ps)).Scoped σ frame :=
  ⟨h, Term.scoped_map (f := fun p => .value p.value) (fun _ => trivial) ps⟩

theorem Test.scoped_foldedAmong {column : String} (h : (Term.reference column).Scoped frame) (ps : List Param) :
    (Test.ofCondition (.foldedAmong column ps)).Scoped σ frame :=
  ⟨h, Term.scoped_map (f := fun p => .upper (.value p.value)) (fun _ => trivial) ps⟩

/-- A condition on a column has no other names. -/
theorem Test.scoped_columnCondition {column : String} (h : (Term.reference column).Scoped frame) (type : ColumnType)
    (regex : Bool) (ps : List Param) :
    (Test.ofCondition (Selection.columnCondition column type regex ps)).Scoped σ frame := by
  unfold Selection.columnCondition
  split
  · split
    · refine scoped_ofAlternatives fun c hc => ?_
      obtain ⟨p, -, rfl⟩ := List.mem_map.1 hc
      exact ⟨h, trivial⟩
    · exact scoped_foldedAmong h ps
  · exact scoped_among h ps

/-- A condition on the values of a kind has no other names than that of their column. -/
theorem Test.scoped_valueCondition {kind : GroupKind} {mode : Option MatchMode} {regex : Bool} {group : Group}
    {c : Condition} (h : (Term.reference kind.valueColumn).Scoped frame)
    (hc : Selection.valueCondition kind mode regex group = some c) : (Test.ofCondition c).Scoped σ frame := by
  cases kind with
  | tags =>
    obtain ⟨p, -, rfl⟩ := Option.map_eq_some_iff.1 hc
    exact ⟨h, trivial⟩
  | attributes =>
    simp only [Selection.valueCondition] at hc
    split at hc
    · cases hc
      exact ⟨h, trivial⟩
    · cases hc
      exact scoped_foldedAmong h _

end

/-! ## Selections -/

section

variable {σ : Schema}

/-- The identifiers of rows of a table need the table, its key and what the condition names. -/
theorem Query.scoped_rows {table key : String} (ht : σ.table table) (hk : σ.column table key) {c : Condition}
    {outer : Frame} (hc : (Test.ofCondition c).Scoped σ ((table, σ.column table) :: outer)) :
    (Query.ofSelection ⟨.rows table key, c⟩).Scoped σ outer :=
  ⟨ht, hc, ⟨hk, trivial⟩, by simp⟩

/-- The entities with values of a kind need the columns that the kind requires. -/
theorem Query.scoped_group {kind : GroupKind} (h : ∀ p ∈ kind.requiredColumns, σ.table p.1 ∧ σ.column p.1 p.2)
    {mode : Option MatchMode} {regex : Bool} {group : Group} {c : Condition}
    (hc : Selection.valueCondition kind mode regex group = some c) (p : Param) (outer : Frame) :
    (Query.ofSelection ⟨.group kind, .both c (.foldedEqual kind.classColumn p)⟩).Scoped σ outer := by
  cases kind with
  | tags =>
    have hvalue : Term.reference GroupKind.tags.valueColumn = .ofTable "tags" "tag_name" :=
      IsName.reference_ofTable (t := "tags") (by decide) "tag_name"
    have hclass : Term.reference GroupKind.tags.classColumn = .ofTable "tag_entities" "tag_entity_class" :=
      IsName.reference_ofTable (t := "tag_entities") (by decide) "tag_entity_class"
    simp only [GroupKind.requiredColumns, List.forall_mem_cons, List.not_mem_nil, false_implies, forall_const] at h
    obtain ⟨⟨htags, huuid⟩, ⟨-, hname⟩, ⟨hentities, hentity⟩, ⟨-, hlink⟩, ⟨-, hcls⟩, -⟩ := h
    refine ⟨⟨hentities, htags, hlink, huuid⟩, ⟨Test.scoped_valueCondition ?_ hc, ?_, trivial⟩, ⟨hentity, trivial⟩,
      by simp⟩
    · rw [hvalue]
      exact hname
    · rw [hclass]
      exact hcls
  | attributes =>
    have hvalue : Term.reference GroupKind.attributes.valueColumn = .ofTable "attributes" "attribute_value" :=
      IsName.reference_ofTable (t := "attributes") (by decide) "attribute_value"
    have hclass : Term.reference GroupKind.attributes.classColumn = .ofTable "attributes" "attribute_entity_class" :=
      IsName.reference_ofTable (t := "attributes") (by decide) "attribute_entity_class"
    simp only [GroupKind.requiredColumns, List.forall_mem_cons, List.not_mem_nil, false_implies, forall_const] at h
    obtain ⟨⟨htable, hentity⟩, ⟨-, hcls⟩, ⟨-, hname⟩, -⟩ := h
    refine ⟨htable, ⟨Test.scoped_valueCondition ?_ hc, ?_, trivial⟩, ⟨hentity, trivial⟩, by simp⟩
    · rw [hvalue]
      exact hname
    · rw [hclass]
      exact hcls

variable {ss : List Selection} (h : ∀ s ∈ ss, ∀ outer, (Query.ofSelection s).Scoped σ outer)

include h

theorem Test.scoped_inSelections {e : Term} {frame : Frame} (he : e.Scoped frame) :
    (Test.inSelections e ss).Scoped σ frame := by
  cases ss with
  | nil => trivial
  | cons s ss =>
    have hfold (q : Query) (hq : q.Scoped σ frame) :
        (ss.foldl (fun q s => .intersect q (.ofSelection s)) q).Scoped σ frame := by
      refine List.foldlRecOn ss _ hq fun q hq s hs => ⟨hq, h s (List.mem_cons_of_mem _ hs) frame⟩
    exact ⟨he, hfold _ (h s List.mem_cons_self frame)⟩

/-! ## Statements -/

theorem Statement.scoped_ofSearch {table key : String} (ht : σ.table table) (hk : σ.column table key)
    (limit : Option Value) : (Statement.ofSearch table key ss limit).Scoped σ := by
  refine ⟨⟨ht, ?_, trivial, by simp⟩, scoped_limit limit⟩
  rw [Test.ofSelections_eq]
  exact Test.scoped_inSelections h hk

omit h in
theorem Statement.scoped_ofLookup {table key : String} (hname : IsName key) (ht : σ.table table)
    (hk : σ.column table key) (values : List Param) (limit : Option Value) :
    (Statement.ofLookup table key values limit).Scoped σ := by
  refine ⟨⟨ht, Test.scoped_among ?_ values, trivial, by simp⟩, scoped_limit limit⟩
  rw [hname.reference_eq]
  exact hk

/-- The rows of the selection that an extraction selects from have the columns of the table and one more. -/
theorem Statement.scoped_ofExtraction {n : Extraction.Names} {outer : List Selection}
    (ho : ∀ s ∈ outer, ∀ frame, (Query.ofSelection s).Scoped σ frame) (ht : σ.table n.table)
    (hkey : σ.column n.table n.key) (hentity : σ.column n.table n.entity) (hstart : σ.column n.table n.start)
    (hstop : σ.column n.table n.stop) (lower upper : Value) (limit : Option Value) :
    (Statement.ofExtraction n ss outer lower upper limit).Scoped σ := by
  have hrelation : (Test.relation n lower upper).Scoped σ
      [("related", σ.column n.table), ("base", σ.column n.table)] :=
    ⟨⟨hkey, hkey⟩, ⟨hentity, hentity⟩, hstart, ⟨hstart, trivial⟩, hstop, trivial⟩
  have hrelated : (Query.related n outer lower upper).Scoped σ [("base", σ.column n.table)] := by
    refine ⟨ht, ?_, ⟨hkey, trivial⟩, List.forall_mem_singleton.2 hstart⟩
    cases outer with
    | nil => exact hrelation
    | cons s os => exact ⟨Test.scoped_inSelections ho (e := .ofTable "related" n.key) hkey, hrelation⟩
  have hbase : (Query.base n ss outer lower upper).Scoped σ [] :=
    ⟨ht, Test.scoped_inSelections h hkey, ⟨List.mem_cons_self, hrelated, trivial⟩, by simp⟩
  refine ⟨⟨hbase, ⟨.inr (.inl rfl), trivial⟩, trivial, ?_⟩, scoped_limit limit⟩
  intro e he
  simp only [List.mem_cons, List.not_mem_nil, or_false] at he
  rcases he with rfl | rfl
  · exact .inl hentity
  · exact .inl hstart

end

end FacetSearch.Sql

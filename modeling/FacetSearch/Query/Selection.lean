import FacetSearch.Column.Literal
import FacetSearch.Criteria.Basic
import FacetSearch.Query.Condition
import FacetSearch.Query.LoosePattern
import FacetSearch.Query.Source
import FacetSearch.Sql.Name
import FacetSearch.Sql.Pattern
/-!
# Selections

A selection is a source of identifiers with a condition on its rows. Each group, each column filter
and each numeric filter of criteria makes one selection, which holds all identifiers that meet it;
`Selection.ofCriteria` makes them in this order.
-/

namespace FacetSearch

/-- The identifiers of those rows of a source that meet a condition. -/
structure Selection where
  source : Source
  condition : Condition

namespace Selection

/-- The statement that selects the identifiers. -/
def text (s : Selection) : String := s.source.head ++ s.condition.sql

/-- The statement with the parameters for its placeholders. -/
def fragment (s : Selection) : Fragment := ⟨s.text, s.condition.params⟩

/-- What a value that is not empty consists of; an empty one is refused for a reason of its own. -/
def itemsOf (v : Value) (empty : ConfigurationFault) : Except Error (List Value) :=
  if !v.isTruthy then .error (.configuration empty)
  else match v.items? with
    | some items => .ok items
    | none => .error (.failure .wrongType)

/-- The literals of a group: at least one, and each with something other than white space. -/
def groupLiterals (kind : GroupKind) (group : Value) : Except Error (List String) := do
  let literals ← itemsOf group (.emptyGroup kind)
  literals.mapM fun
    | .text s =>
      if Text.isBlankText s then .error (.configuration (.blankLiteral kind literals)) else .ok s
    | _ => .error (.configuration (.blankLiteral kind literals))

/-- The catalog has the columns that groups of the kind are looked up in. -/
def checkColumns (catalog : Catalog) (kind : GroupKind) : Except Error Unit :=
  match kind.requiredColumns.find? fun (t, c) => !catalog.hasColumn t c with
  | some (t, c) => .error (.schema (.groupColumn kind t c))
  | none => .ok ()

/-- A text as a parameter. -/
def textParam (s : String) : Param := ⟨.text s, .string⟩

/-- The value of the kind matches one of the literals of a group. With regular expressions the literals
are expressions; without, tags are matched by a mode and attributes have to be equal up to case. -/
def groupCondition (kind : GroupKind) (group : Value) (literals : List String) (mode : Option MatchMode)
    (regex : Bool) : Except Error Condition :=
  if regex then
    return .matching kind.valueColumn ⟨← Pattern.joinedValue group, .string⟩
  else match kind, mode with
    | .tags, none => .error (.configuration .matchModeMissing)
    | .tags, some mode => .ok (.matching kind.valueColumn (textParam (Pattern.forGroup mode literals)))
    | .attributes, _ => .ok (.foldedAmong kind.valueColumn (literals.map textParam))

/-- The entities of a table that have a value of the kind that matches one of the literals. -/
def ofGroup (catalog : Catalog) (kind : GroupKind) (table group : Value) (mode : Option MatchMode)
    (regex : Bool) : Except Error Selection := do
  let literals ← groupLiterals kind group
  checkColumns catalog kind
  let condition ← groupCondition kind group literals mode regex
  return { source := .group kind
           condition := .both condition (.foldedEqual kind.classColumn ⟨table, .string⟩) }

/-- The column has one of the values. Texts are compared without regard to case, or are regular
expressions. -/
def columnCondition (column : String) (type : ColumnType) (regex : Bool) (values : List Param) :
    Condition :=
  if type = .string then
    if regex then .anyOf (values.map (.matching column)) else .foldedAmong column values
  else .among column values

/-- The rows of a table whose column has one of the values. -/
def ofColumn (catalog : Catalog) (table key column values : Value) (regex : Bool) :
    Except Error Selection := do
  let column ← Name.column catalog table column
  if !values.isTruthy then throw (.configuration (.noValues column))
  match catalog.columnType? (← CatalogName.ofValue table) column with
  | none => throw (.typeMismatch (.unsearchable column table))
  | some type =>
    let source := Source.rows table.plain key.plain
    let _ ← Fragment.empty.append source.head []
    let values ← itemsOf values (.noValues column)
    let bound ← values.mapM fun v => type.coerce v (some (.text column))
    return { source, condition := columnCondition column type regex (bound.map fun v => ⟨v, type⟩) }

/-- The column lies between two numbers. -/
def windowCondition (column : String) (low high : Value) : Except Error Condition := do
  let l ← ColumnType.coerce .double low (some (.text column))
  let h ← ColumnType.coerce .double high (some (.text column))
  return .within column ⟨l, .double⟩ ⟨h, .double⟩

/-- The numeric filter that a value has to be. -/
def filterOf : Value → Except Error NumericFilter
  | .filter centres lower upper => .ok ⟨centres, lower, upper⟩
  | _ => .error (.failure .missingMember)

/-- The rows of a table whose column lies in one of the windows of a filter. -/
def ofNumeric (catalog : Catalog) (table key column numeric : Value) : Except Error Selection := do
  let column ← Name.column catalog table column
  let type := catalog.columnType? (← CatalogName.ofValue table) column
  if !type.any ColumnType.isNumeric then throw (.typeMismatch (.notNumeric column))
  let f ← filterOf numeric
  if f.centres.isEmpty then throw (.configuration (.noCentres column))
  if ← f.lower.isGreater f.upper then throw (.configuration (.windowReversed column f.lower f.upper))
  let alternatives ← (← f.windows).mapM fun (low, high) => windowCondition column low high
  let selection : Selection :=
    { source := .rows table.plain key.plain, condition := .anyOf alternatives }
  let _ ← Fragment.empty.append selection.text selection.condition.params
  return selection

/-- The selections of criteria on a table: tag groups, attribute groups, column filters and numeric
filters. -/
def ofCriteria (catalog : Catalog) (table : Value) (c : Criteria) : Except Error (List Selection) := do
  let (table, key) ← Name.tableAndKey catalog table
  let table := Value.text table
  let key := Value.text key
  let group := fun kind (literals : Group) =>
    ofGroup catalog kind table (.list (literals.map .text)) c.matchMode c.regexEnabled
  let tags ← c.tagGroups.mapM (group .tags)
  let attributes ← c.attributeGroups.mapM (group .attributes)
  let columns ← c.columnFilters.mapM fun (column, values) =>
    ofColumn catalog table key (.text column) (.list values) c.regexEnabled
  let numeric ← c.numericFilters.mapM fun (column, f) =>
    ofNumeric catalog table key (.text column) f.toValue
  return tags ++ attributes ++ columns ++ numeric

end Selection

end FacetSearch

import FacetSearch.Query.Search
/-!
# Extractions

An extraction selects base rows together with the identifiers of their related rows. A row is related
to a base row if it belongs to the same entity, is not the base row itself, and starts in the window
from the start of the base row plus a lower bound to its end plus an upper bound. Base rows meet
the inner criteria, related rows the outer ones, and base rows without related rows are left out.
-/

namespace FacetSearch

/-- Base and related criteria, the bounds of the window and the columns that say to which entity a row
belongs, when it starts and when it ends. -/
structure Extraction where
  inner : Criteria
  outer : Criteria
  lower : Value
  upper : Value
  limit : Option Value := none
  entityColumn : Value := .text "event_entity_uuid"
  startColumn : Value := .text "event_start_time"
  endColumn : Value := .text "event_end_time"

namespace Extraction

/-- The names that the statement of an extraction mentions. -/
structure Names where
  table : String
  key : String
  entity : String
  start : String
  stop : String

/-- The names of an extraction on a table of the catalog. -/
def names (catalog : Catalog) (table : Value) (e : Extraction) : Except Error Names := do
  let (table, key) ← Name.tableAndKey catalog table
  let column := Name.column catalog (.text table)
  let entity ← column e.entityColumn
  let start ← column e.startColumn
  let stop ← column e.endColumn
  return { table, key, entity, start, stop }

/-- What makes a row related to a base row, with placeholders for the bounds. -/
def relation (n : Names) : String :=
  "related." ++ n.key ++ " <> base." ++ n.key ++
    " AND related." ++ n.entity ++ " = base." ++ n.entity ++
    " AND related." ++ n.start ++ " BETWEEN base." ++ n.start ++ " + ? AND base." ++ n.stop ++ " + ?"

/-- The statement of an extraction. -/
def statement (n : Names) (inner outer : List Fragment) (lower upper : Value) (limit : Option Value) :
    Except Error Fragment := do
  let f ← Fragment.empty.append ("SELECT * FROM (SELECT base.*, ARRAY(SELECT related." ++ n.key ++
    " FROM " ++ n.table ++ " AS related WHERE ") []
  let f ← f.restricted ("related." ++ n.key ++ " IN (") outer ") AND "
  let f ← f.append (relation n) [⟨lower, .double⟩, ⟨upper, .double⟩]
  let f ← f.append (" ORDER BY related." ++ n.start ++ ") AS extracted FROM " ++ n.table ++ " AS base") []
  let f ← f.restricted (" WHERE base." ++ n.key ++ " IN (") inner ")"
  let f ← f.append (") AS extraction WHERE cardinality(extracted) > 0 ORDER BY " ++ n.entity ++ ", " ++
    n.start) []
  f.limited limit

/-- The first value is a greater number than the second. -/
def isAbove (a b : Value) : Bool :=
  match a.number?, b.number? with
  | some x, some y => x.gt y
  | _, _ => false

/-- The names of an extraction on a table of the catalog and the bounds of its window, which have to be
numbers in order. -/
def prepare (catalog : Catalog) (table : Value) (e : Extraction) :
    Except Error (Names × Value × Value) := do
  let n ← e.names catalog table
  let lower ← ColumnType.coerce .double e.lower (some (.text n.start))
  let upper ← ColumnType.coerce .double e.upper (some (.text n.start))
  if isAbove lower upper then throw (.configuration (.extractionReversed e.lower e.upper))
  return (n, lower, upper)

/-- The statement of an extraction on a table of the catalog. -/
def compile (catalog : Catalog) (table : Value) (e : Extraction) : Except Error Fragment := do
  let (n, lower, upper) ← e.prepare catalog table
  let inner ← Selection.ofCriteria catalog (.text n.table) e.inner
  let outer ← Selection.ofCriteria catalog (.text n.table) e.outer
  statement n (inner.map Selection.fragment) (outer.map Selection.fragment) lower upper e.limit

end Extraction

end FacetSearch

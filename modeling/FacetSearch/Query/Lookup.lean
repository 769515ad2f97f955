import FacetSearch.Query.Search
/-!
# Lookups

A lookup selects the rows of a table whose keys are among given identifiers. `uniqueIdentifiers`
collects the identifiers that extracted rows hold, each text once.
-/

namespace FacetSearch

/-- The column of extracted rows that holds the identifiers of related rows. -/
def extractedColumn : String := "extracted"

/-- The identifiers in a column of a row; none if the column is missing or empty. Identifiers are told apart by their
texts, so each has to be such that can be written. -/
def identifiersOf (column : String) (row : Value) : Except Error (List Value) :=
  match row with
  | .object _ =>
    let cell := (row.get? column).getD .null
    if !cell.isTruthy then .ok []
    else match cell.items? with
      | some items => if items.all Value.isWritable then .ok items else .error (.value .integerText)
      | none => .error (.failure .wrongType)
  | _ => .error (.failure .missingMember)

/-- The identifiers in a column of rows, of those with one text the first. -/
def uniqueIdentifiers (column : String) (rows : List Value) : Except Error (List Value) := do
  let found ← rows.mapM (identifiersOf column)
  return firstsBy (fun a b => a.plain == b.plain) found.flatten

namespace Lookup

/-- The statement that looks up identifiers in a table of the catalog. Identifiers have the type of
the key column, or are texts if it has none. -/
def compile (catalog : Catalog) (table identifiers : Value) (limit : Option Value) :
    Except Error Fragment := do
  let (table, key) ← Name.tableAndKey catalog table
  let ids ← Selection.itemsOf identifiers .noIdentifiers
  let type := (catalog.columnType? table key).getD .string
  let bound ← ids.mapM fun v => type.coerce v (some (.text key))
  let condition := Condition.among key (bound.map fun v => ⟨v, type⟩)
  let f ← Fragment.empty.append ("SELECT * FROM " ++ table ++ " WHERE " ++ condition.sql)
    condition.params
  f.limited limit

end Lookup

end FacetSearch

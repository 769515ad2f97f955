import FacetSearch.Catalog.Basic
import FacetSearch.Log.Record
/-!
# Reflected catalogs

A database describes its own tables: an `Inspector` knows, schema by schema, the columns of each table
with the names of their types and the columns of its primary key. `Inspector.reflect` makes a
catalog of a selection of them or of all.
-/

namespace FacetSearch

/-- What a database says about a table. -/
structure TableDescription where
  columns : List (String × String)
  key : List String
  deriving DecidableEq

/-- What a database answers when it is asked about a table. It may say nothing of a primary key, or nothing of
the columns of the key. -/
structure TableAnswers where
  columns : List (String × String)
  key : Option (Option (List String))

/-- A key of which nothing is said has no columns. -/
def TableAnswers.description (a : TableAnswers) : TableDescription where
  columns := a.columns
  key := a.key.join.getD []

/-- The tables of each schema; the schema without name is the default one. -/
structure Inspector where
  schemas : List (String × List (String × TableDescription))
  deriving DecidableEq

namespace Inspector

/-- What is known of a database from its answers about each table. -/
def ofAnswers (schemas : List (String × List (String × TableAnswers))) : Inspector where
  schemas := schemas.map fun (s, tables) => (s, tables.map fun (t, a) => (t, a.description))

/-- The tables of a schema, none if it is unknown. -/
def tables (i : Inspector) (schema : String) : List (String × TableDescription) :=
  (Keyed.get? i.schemas schema).getD []

/-- What the database says about a table that has to be there. -/
def table (i : Inspector) (schema table : String) : Except Error TableDescription :=
  match Keyed.get? (i.tables schema) table with
  | some d => .ok d
  | none => .error (.failure .noSuchTable)

/-- The record that a column has a type that cannot be searched. -/
def unsupported (table column type : String) : LogRecord where
  level := .debug
  source := .catalog
  message := "column " ++ table ++ "." ++ column ++ " has unsupported type " ++ type

/-- The record that a catalog was made of so many tables. -/
def reflected (tables : Nat) : LogRecord where
  level := .info
  source := .catalog
  message := "Reflected schema catalog: " ++ toString tables ++ " tables"

/-- The records about the columns of a table. -/
def columnRecords (table : String) (d : TableDescription) : List LogRecord :=
  d.columns.filterMap fun (c, type) =>
    if (ColumnType.ofTypeName? type).isNone then some (unsupported table c type) else none

/-- The catalog of the selected tables of a schema, or of all of them, and what is reported. -/
def reflect (i : Inspector) (schema : String) (selected : Option (List String)) :
    Except Error (Catalog × List LogRecord) := do
  let names := selected.getD ((i.tables schema).map Prod.fst)
  let described ← names.mapM fun n => do return (n, ← i.table schema n)
  let columns := Keyed.ofList (described.map fun (n, d) =>
    (CatalogName.text n,
      Keyed.ofList (d.columns.map fun (c, type) => (CatalogName.text c, ColumnType.ofTypeName? type))))
  let keys := Keyed.ofList (described.map fun (n, d) => (CatalogName.text n, d.key.map CatalogName.text))
  let records := described.flatMap fun (n, d) => columnRecords n d
  return (Catalog.ofLists columns keys, records ++ [reflected columns.length])

end Inspector

end FacetSearch

import FacetSearch.Query.Extraction
import FacetSearch.Query.Lookup
import FacetSearch.Service.Session
/-!
# Searching a database

The three things that a database is asked for: rows that meet criteria, rows with the identifiers of
their related rows, and the related rows themselves. Each makes one statement, binds it and takes the
rows of the reply. A catalog is made of the database for each of them if none is given.
-/

namespace FacetSearch.Exchange

/-- The number of parameters, in parentheses. -/
def paramsText (f : Fragment) : String := " (" ++ toString f.params.length ++ " params)"

/-- The selections of criteria on a table. -/
def selections (catalog : Catalog) (table : Value) (c : Criteria) : Exchange (List Selection) := do
  let ss ← lift (Selection.ofCriteria catalog table c)
  let (name, _) ← lift (Name.tableAndKey catalog table)
  report .debug .compiler ("compiled " ++ toString ss.length ++ " fragments for table " ++ name)
  return ss

/-- The statement of a search. -/
def searchStatement (catalog : Catalog) (table : Value) (c : Criteria) : Exchange Fragment := do
  let ss ← selections catalog table c
  let f ← lift (Search.compose catalog table (ss.map Selection.fragment) (c.limit.map .int))
  report .debug .composer ("search on " ++ table.plain ++ " compiled to " ++ f.text ++ paramsText f)
  return f

/-- The statement of an extraction. -/
def extractionStatement (catalog : Catalog) (table : Value) (e : Extraction) : Exchange Fragment := do
  let (n, lower, upper) ← lift (e.prepare catalog table)
  let inner ← selections catalog (.text n.table) e.inner
  let outer ← selections catalog (.text n.table) e.outer
  let f ← lift (Extraction.statement n (inner.map Selection.fragment) (outer.map Selection.fragment)
    lower upper e.limit)
  report .debug .composer ("extraction on " ++ n.table ++ " compiled to " ++ f.text ++ paramsText f)
  return f

/-- The bound statement of a fragment. -/
def bind (f : Fragment) : Exchange Bound := do
  let b ← lift (Bound.ofFragment f)
  report .debug .binder ("bound " ++ toString b.params.length ++ " parameters")
  return b

/-- The rows that the database has for a bound statement. -/
def rowsOf (b : Bound) : Exchange (List Value) := do
  connect
  let rows ← execute b
  report .debug .database ("statement returned " ++ toString rows.length ++ " rows")
  return rows

/-- The rows that the database has for a statement. -/
def fetch (f : Fragment) : Exchange (List Value) := do
  rowsOf (← bind f)

/-- The catalog that is given, or that of the database. -/
def resolve (catalog : Option Catalog) : Exchange Catalog :=
  match catalog with
  | some c => return c
  | none => reflect

/-- Reports how many rows there are. -/
def reportRows (what : String) (table : Value) (rows : List Value) : Exchange Unit :=
  report .info .search (what ++ " on " ++ table.plain ++ " returned " ++ toString rows.length ++ " rows")

/-- The rows of a table that meet criteria. -/
def searchRows (catalog : Option Catalog) (table : Value) (c : Criteria) : Exchange (List Value) := do
  let catalog ← resolve catalog
  let rows ← fetch (← searchStatement catalog table c)
  reportRows "search" table rows
  return rows

/-- The base rows of an extraction, each with the identifiers of its related rows. -/
def extractRows (catalog : Option Catalog) (table : Value) (e : Extraction) : Exchange (List Value) := do
  let catalog ← resolve catalog
  let rows ← fetch (← extractionStatement catalog table e)
  reportRows "extraction" table rows
  return rows

/-- The rows whose identifiers extracted rows hold, each once. Without identifiers the database is not
asked. -/
def uniqueRows (catalog : Option Catalog) (table : Value) (rows : List Value) (limit : Option Value) :
    Exchange (List Value) := do
  let identifiers ← lift (uniqueIdentifiers extractedColumn rows)
  if identifiers.isEmpty then return []
  let catalog ← resolve catalog
  let found ← fetch (← lift (Lookup.compile catalog table (.list identifiers) limit))
  reportRows "unique extraction" table found
  return found

end FacetSearch.Exchange

import FacetSearch.Query.Selection
/-!
# Searches

A search selects the rows of a table whose keys are in all of several sets of identifiers, at most as
many as its limit says; without sets it selects all rows.
-/

namespace FacetSearch

/-- A statement with a limit at its end, if there is one. -/
def Fragment.limited (f : Fragment) (limit : Option Value) : Except Error Fragment :=
  match limit with
  | none => .ok f
  | some n => f.append " LIMIT ?" [⟨n, .integer⟩]

/-- The identifiers that are in all of several sets. -/
def Fragment.intersection (sets : List Fragment) : Except Error Fragment :=
  Fragment.empty.join " INTERSECT " sets

/-- A statement with opening text, the identifiers that are in all sets, and closing text at its end;
nothing is added if there are no sets. -/
def Fragment.restricted (f : Fragment) (opening : String) (sets : List Fragment) (closing : String) :
    Except Error Fragment := do
  if sets.isEmpty then return f
  let f ← f.append opening []
  let f ← f.extend (← Fragment.intersection sets)
  f.append closing []

namespace Search

/-- The statement that selects the rows of a table whose keys are in all sets. -/
def statement (table key : String) (sets : List Fragment) (limit : Option Value) :
    Except Error Fragment := do
  let f ← Fragment.empty.append ("SELECT * FROM " ++ table) []
  let f ← f.restricted (" WHERE " ++ key ++ " IN (") sets ")"
  f.limited limit

/-- The statement for a table of the catalog. -/
def compose (catalog : Catalog) (table : Value) (sets : List Fragment) (limit : Option Value) :
    Except Error Fragment := do
  let (table, key) ← Name.tableAndKey catalog table
  statement table key sets limit

/-- The statement for criteria on a table of the catalog. -/
def compile (catalog : Catalog) (table : Value) (c : Criteria) : Except Error Fragment := do
  let selections ← Selection.ofCriteria catalog table c
  compose catalog table (selections.map Selection.fragment) (c.limit.map .int)

end Search

end FacetSearch

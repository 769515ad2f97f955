import FacetSearch.Catalog.Basic
/-!
# Names in statements

Only names that are checked here get into the text of a statement: after white space around them is
dropped they consist of ASCII letters, digits and underscores and do not begin with a digit. They are
written in lower case.
-/

namespace FacetSearch.Name

/-- An ASCII letter or an underscore. -/
def isInitial (c : Char) : Bool := c.isAlpha || c == '_'

/-- An ASCII letter, a digit or an underscore. -/
def isInner (c : Char) : Bool := c.isAlphanum || c == '_'

/-- The characters of a name. -/
def isName : List Char → Bool
  | [] => false
  | c :: cs => isInitial c && cs.all isInner

/-- The name that a value stands for. -/
def check : Value → Except Error String
  | .text s =>
    if isName (Text.stripChars s.toList) then .ok (Text.lower (Text.strip s))
    else .error (.schema (.name (.text s)))
  | v => .error (.schema (.name v))

/-- The name of a table of the catalog. -/
def table (catalog : Catalog) (v : Value) : Except Error String := do
  let name ← check v
  if catalog.hasTable name then return name else .error (.schema (.table name))

/-- The name of a column of a table of the catalog. -/
def column (catalog : Catalog) (table v : Value) : Except Error String := do
  let name ← check v
  if catalog.hasColumn (← CatalogName.ofValue table) name then return name
  else .error (.schema (.column name table))

/-- The name of a table and the first column of its primary key, by which rows are identified. -/
def tableAndKey (catalog : Catalog) (v : Value) : Except Error (String × String) := do
  let name ← table catalog v
  match catalog.primaryKey name with
  | [] => .error (.schema (.noKey name))
  | key :: _ => return (name, ← check key.toValue)

end FacetSearch.Name

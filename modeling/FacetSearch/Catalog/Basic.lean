import FacetSearch.Error
import FacetSearch.Keyed
import FacetSearch.Value.Equality
/-!
# Catalogs

A catalog knows the tables that can be searched, the columns of each with their types, and the
columns of each table's primary key. Names are kept without white space around them and in lower
case, so that they are found in any spelling; of tables or columns whose names agree then, the last
one counts. A name is a text, or bytes, which are never the name that a text is; in statements only
texts can be named.
-/

namespace FacetSearch

/-- The name of a table or column. -/
inductive CatalogName where
  | text (s : String)
  | bytes (bs : List UInt8)
  deriving DecidableEq

instance : Coe String CatalogName := ⟨.text⟩

namespace CatalogName

/-- The name as a value. -/
def toValue : CatalogName → Value
  | text s => .text s
  | bytes bs => .bytes bs

/-- The code of white space in bytes. -/
def isBlankByte (b : UInt8) : Bool := b = 32 || (9 ≤ b && b ≤ 13)

/-- The code of an ASCII letter in lower case; other codes are kept. -/
def lowerByte (b : UInt8) : UInt8 := if 65 ≤ b && b ≤ 90 then b + 32 else b

/-- Bytes without white space at either end, in lower case. -/
def normalizeBytes (bs : List UInt8) : List UInt8 :=
  ((((bs.dropWhile isBlankByte).reverse).dropWhile isBlankByte).reverse).map lowerByte

/-- The name in the form in which it is kept. -/
def normalize : CatalogName → CatalogName
  | text s => text (Text.lower (Text.strip s))
  | bytes bs => bytes (normalizeBytes bs)

/-- The form in which a name of any shape is kept. What counts as empty is the empty name; anything
else has to be a text or bytes. -/
def ofValue (v : Value) : Except Error CatalogName :=
  if !v.isTruthy then .ok (text "")
  else match v with
    | .text s => .ok (normalize (text s))
    | .bytes bs => .ok (normalize (bytes bs))
    | _ => .error (.failure .missingMember)

/-- The text of a name, if it is one. -/
def text? : CatalogName → Option String
  | text s => some s
  | bytes _ => none

/-- The bytes of a name, if it consists of such. -/
def bytes? : CatalogName → Option (List UInt8)
  | text _ => none
  | bytes bs => some bs

/-- The names in order, texts by their characters and bytes by their codes; the two have no order
between them. -/
def sorted (names : List CatalogName) : Except Error (List CatalogName) :=
  match names.mapM text?, names.mapM bytes? with
  | some ss, _ => .ok ((ss.mergeSort fun a b => !Text.before b a).map text)
  | none, some bs => .ok ((bs.mergeSort fun a b => !decide (b < a)).map bytes)
  | none, none => .error (.failure .wrongType)

end CatalogName

/-- A column and its type; none means that the column is there but cannot be searched. -/
abbrev Columns := List (CatalogName × Option ColumnType)

/-- Tables with their columns, and the columns of primary keys. -/
structure Catalog where
  tables : List (CatalogName × Columns)
  keys : List (CatalogName × List CatalogName)
  deriving DecidableEq

namespace Catalog

/-- The catalog of tables and keys under their names in any spelling. -/
def ofLists (tables : List (CatalogName × Columns)) (keys : List (CatalogName × List CatalogName)) :
    Catalog where
  tables := Keyed.ofList (tables.map fun (t, cs) =>
    (t.normalize, Keyed.ofList (cs.map fun (c, type) => (c.normalize, type))))
  keys := Keyed.ofList (keys.map fun (t, cs) => (t.normalize, cs.map CatalogName.normalize))

/-- The columns of a table, none if there is no such table. -/
def columns (c : Catalog) (table : CatalogName) : Columns := (Keyed.get? c.tables table).getD []

/-- There is such a table. -/
def hasTable (c : Catalog) (table : CatalogName) : Bool := (Keyed.get? c.tables table).isSome

/-- The table is there and has such a column. -/
def hasColumn (c : Catalog) (table column : CatalogName) : Bool :=
  (Keyed.get? (c.columns table) column).isSome

/-- The type of a column, if the column is there and has one. -/
def columnType? (c : Catalog) (table column : CatalogName) : Option ColumnType :=
  (Keyed.get? (c.columns table) column).join

/-- The columns of a table's primary key in order, none if it has no key. -/
def primaryKey (c : Catalog) (table : CatalogName) : List CatalogName :=
  (Keyed.get? c.keys table).getD []

/-- The names of all tables in order. -/
def tableNames (c : Catalog) : Except Error (List CatalogName) := CatalogName.sorted (c.tables.map Prod.fst)

/-- The entries of a value that has to be an object. -/
def entriesOf (v : Value) : Except Error (List (Value × Value)) :=
  match v.entries? with
  | some es => .ok es
  | none => .error (.failure .missingMember)

/-- The type that the name of one stands for, which has to be a text. What counts as empty stands for
none. -/
def typeNamed (v : Value) : Except Error (Option ColumnType) :=
  match v with
  | .text s => .ok (ColumnType.ofTypeName? s)
  | .bytes bs => if bs.all CatalogName.isBlankByte then .ok none else .error (.failure .wrongType)
  | v => if v.isTruthy then .error (.failure .missingMember) else .ok none

/-- The type that a value in the description of a catalog stands for. -/
def typeOf? (v : Value) : Option ColumnType :=
  if v.isNull then none else ColumnType.ofTypeName? v.plain

/-- The columns that a value describes. -/
def columnsOf (v : Value) : Except Error Columns := do
  (← entriesOf v).mapM fun (c, type) => do return (← CatalogName.ofValue c, typeOf? type)

/-- The key columns that a value describes: the members of a list or the characters of a text. -/
def keyOf (v : Value) : Except Error (List CatalogName) :=
  match v.items? with
  | some items => items.mapM CatalogName.ofValue
  | none => .error (.failure .wrongType)

/-- The catalog that two values describe: an object of tables, each an object of columns with the
names of their types, and an object of key columns, which may be missing. -/
def ofValues (tables keys : Value) : Except Error Catalog := do
  let tables ← (← entriesOf tables).mapM fun (t, cs) => do
    let columns ← columnsOf cs
    return (← CatalogName.ofValue t, Keyed.ofList columns)
  let keys ← if keys.isTruthy then
      (← entriesOf keys).mapM fun (t, cs) => do return (← CatalogName.ofValue t, ← keyOf cs)
    else .ok []
  return { tables := Keyed.ofList tables, keys := Keyed.ofList keys }

/-- The name of a type as a value. -/
def typeValue (type : Option ColumnType) : Value := (type.map fun t => Value.text t.name).getD .null

/-- Names as a value. -/
def namesValue (names : List CatalogName) : Value := .list (names.map CatalogName.toValue)

/-- The columns of a table with the names of their types, as a value. -/
def columnsValue (columns : Columns) : Value :=
  .object (columns.map fun (c, type) => (c.toValue, typeValue type))

/-- The columns of every table, as a value. -/
def tablesValue (c : Catalog) : Except Error Value := do
  return .object ((← c.tableNames).map fun t => (t.toValue, columnsValue (c.columns t)))

/-- The primary key and the columns of every table, as a value. -/
def describe (c : Catalog) : Except Error Value := do
  return .object ((← c.tableNames).map fun t =>
    (t.toValue, .object [(.text "primary_key", namesValue (c.primaryKey t)),
      (.text "columns", columnsValue (c.columns t))]))

/-- A question to a catalog. -/
inductive Query where
  | tables
  | hasTable (table : Value)
  | hasColumn (table column : Value)
  | columns (table : Value)
  | columnType (table column : Value)
  | primaryKey (table : Value)
  | summary

/-- The answer to a question. -/
def answer (c : Catalog) : Query → Except Error Value
  | .tables => return namesValue (← c.tableNames)
  | .hasTable t => return .bool (c.hasTable (← CatalogName.ofValue t))
  | .hasColumn t col => do
    let column ← CatalogName.ofValue col
    return .bool (c.hasColumn (← CatalogName.ofValue t) column)
  | .columns t => return columnsValue (c.columns (← CatalogName.ofValue t))
  | .columnType t col => do
    let table ← CatalogName.ofValue t
    return typeValue (c.columnType? table (← CatalogName.ofValue col))
  | .primaryKey t => return namesValue (c.primaryKey (← CatalogName.ofValue t))
  | .summary =>
    return .text ("StaticSchemaCatalog(tables=" ++ (namesValue (← c.tableNames)).quoted ++ ")")

end Catalog

end FacetSearch

import FacetSearch.Text.Blank
import FacetSearch.Text.LowerCase
/-!
# Column types

What a database calls the type of a column is reduced to eight types, `ColumnType.ofTypeName?`. A name
that fits none of them means a column that is there but cannot be searched.
-/

namespace FacetSearch

/-- What a literal for a column has to be. -/
inductive ColumnType where
  | uuid
  | string
  | array
  | integer
  | bigint
  | double
  | timestamp
  | oid
  deriving DecidableEq, Repr

/-- Types by which a database driver takes a parameter. -/
inductive BindType where
  | uuid
  | string
  | integer
  | bigInteger
  | float
  | dateTime
  deriving DecidableEq, Repr

namespace ColumnType

/-- All types. -/
def all : List ColumnType := [uuid, string, array, integer, bigint, double, timestamp, oid]

/-- The name of a type in messages and descriptions. -/
def name : ColumnType → String
  | uuid => "uuid"
  | string => "string"
  | array => "array"
  | integer => "integer"
  | bigint => "bigint"
  | double => "double"
  | timestamp => "timestamp"
  | oid => "oid"

/-- The type with a name. -/
def ofName? (s : String) : Option ColumnType := all.find? fun t => t.name == s

/-- A numeric filter applies to columns of this type. -/
def isNumeric : ColumnType → Bool
  | integer | bigint | double => true
  | _ => false

/-- How a parameter of this type is handed to the driver; arrays are not. -/
def bindType? : ColumnType → Option BindType
  | uuid => some .uuid
  | string => some .string
  | integer => some .integer
  | bigint | oid => some .bigInteger
  | double => some .float
  | timestamp => some .dateTime
  | array => none

/-- The word occurs in the text. -/
def mentions : List Char → String → Bool
  | [], word => word.toList.isEmpty
  | c :: cs, word => word.toList.isPrefixOf (c :: cs) || mentions cs word

/-- The text begins with the word. -/
def startsWith (cs : List Char) (word : String) : Bool := word.toList.isPrefixOf cs

/-- The text is one of the words. -/
def isOneOf (cs : List Char) (words : List String) : Bool := words.any fun w => w.toList == cs

/-- The type that a trimmed name in lower case stands for. Names are tried from the most special to
the most general, so that an array of identifiers is an array. -/
def ofLowerName? (cs : List Char) : Option ColumnType :=
  if cs.isEmpty then none
  else if "[]".toList.isSuffixOf cs || startsWith cs "array" then some array
  else if mentions cs "uuid" then some uuid
  else if startsWith cs "timestamp" || isOneOf cs ["date", "datetime"] then some timestamp
  else if isOneOf cs ["oid"] then some oid
  else if isOneOf cs ["bigint", "int8", "bigserial"] then some bigint
  else if isOneOf cs ["integer", "int", "int4", "smallint", "int2", "serial", "smallserial"] then
    some integer
  else if ["double", "float", "real", "numeric", "decimal"].any (mentions cs) then some double
  else if ["char", "text", "string", "citext"].any (mentions cs) then some string
  else none

/-- The type that a database's name of a type stands for, in any case and between white space. -/
def ofTypeName? (s : String) : Option ColumnType := ofLowerName? (Text.lower (Text.strip s)).toList

end ColumnType

end FacetSearch

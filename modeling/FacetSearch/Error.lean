import FacetSearch.Column.Type
import FacetSearch.Criteria.GroupKind
import FacetSearch.Files.Fault
import FacetSearch.Value.Text
/-!
# Errors

An error is a cause with the values that it is about; `Error.message?` words it. Four kinds are
reported to whoever searches: criteria that make no sense, a literal that does not fit its column, a
name that the catalog does not have, and a statement whose placeholders do not fit its parameters.
The others are faults of a value, which are worded too, and failures without words.
-/

namespace FacetSearch

/-- The place that a number in a numeric filter has. -/
inductive NumberRole where
  | centre
  | bound
  deriving DecidableEq

/-- What is wrong with criteria, a request or a command. -/
inductive ConfigurationFault where
  | matchMode (v : Value)
  | criteriaShape
  | criteriaKeys (keys : List String)
  | groupsShape (kind : GroupKind)
  | groupShape (kind : GroupKind)
  | literalShape (kind : GroupKind) (v : Value)
  | columnsShape
  | numericShape
  | columnName (v : Value)
  | notANumber (role : NumberRole) (column : String) (v : Value)
  | notFinite (role : NumberRole) (column : String) (v : Value)
  | rangeShape (column : String)
  | regexFlag (v : Value)
  | limit (v : Value)
  | emptyGroup (kind : GroupKind)
  | blankLiteral (kind : GroupKind) (literals : List Value)
  | matchModeMissing
  | noValues (column : String)
  | noCentres (column : String)
  | windowReversed (column : String) (lower upper : Value)
  | extractionReversed (lower upper : Value)
  | noIdentifiers
  | innerLimit
  | bodyShape
  | extractionKeys (keys : List String)
  | extractionRange
  | columnArgument (v : Value)
  | numericArgument (v : Value)
  | catalogUnreadable (path reason : String)
  | catalogShape (path : String)
  | tableMissing

/-- What the catalog does not have. -/
inductive SchemaFault where
  | name (v : Value)
  | table (table : String)
  | column (column : String) (table : Value)
  | noKey (table : String)
  | groupColumn (kind : GroupKind) (table column : String)

/-- What does not fit the type of a column. -/
inductive TypeFault where
  | literal (v : Value) (type : ColumnType) (column : Option Value)
  | uncomparable (type : ColumnType) (column : Option Value)
  | unsearchable (column : String) (table : Value)
  | notNumeric (column : String)
  | unbindable (type : ColumnType)

/-- A text whose placeholders are not as many as its parameters. -/
inductive BindingFault where
  | fragment (text : String) (placeholders parameters : Nat)
  | statement (placeholders parameters : Nat)

/-- What is wrong with the address of a request. -/
inductive AddressFault where
  | brackets
  | futureAddress
  | dottedAddress
  | bracketed (host : List Char)
  | reserved (authority : List Char)
  | port (text : List Char)
  | portRange
  | baseWithQuery
  deriving DecidableEq

/-- A value that an operation cannot take. -/
inductive ValueFault where
  | uuid (f : UuidFault)
  | noMatchMode
  | noGroupKind
  | integer (text : String)
  | integerDigits (digits : Nat)
  | integerText
  | logLevel (v : Value)
  | entryLength (index length : Nat)
  | address (f : AddressFault)
  | headerLineEnd
  | zeroCharacter
  | environmentName

/-- What goes wrong without words. -/
inductive Failure where
  | wrongType
  | missingMember
  | overflow
  | notImplemented
  | noSuchTable
  | argument
  | runtime
  | missingKey
  | hostName
  | encoding
  | depth
  | file (f : FileFault)
  deriving DecidableEq

/-- The kinds of errors that are reported. -/
inductive ReportKind where
  | configuration
  | typeMismatch
  | schema
  | binding
  deriving DecidableEq

/-- Everything that can go wrong. `raised` is an error that the database reports by itself. -/
inductive Error where
  | configuration (f : ConfigurationFault)
  | schema (f : SchemaFault)
  | typeMismatch (f : TypeFault)
  | binding (f : BindingFault)
  | raised (kind : ReportKind) (text : String)
  | value (f : ValueFault)
  | failure (f : Failure)

namespace ReportKind

/-- The name under which an error is reported. -/
def name : ReportKind → String
  | configuration => "ConfigurationError"
  | typeMismatch => "TypeMismatchError"
  | schema => "SchemaError"
  | binding => "BindingError"

/-- The kind with a name. -/
def ofName? (s : String) : Option ReportKind :=
  [configuration, typeMismatch, schema, binding].find? fun k => k.name == s

/-- The status of a response that reports the error. -/
def httpStatus : ReportKind → Nat
  | configuration | typeMismatch => 400
  | schema => 404
  | binding => 500

end ReportKind

/-- The words for a number's place in the filter on a column. -/
def NumberRole.text (role : NumberRole) (column : String) : String :=
  (match role with
    | centre => "numeric value for "
    | bound => "range bound for ") ++ Text.quoted column

/-- The words for a fault of criteria, a request or a command. -/
def ConfigurationFault.message : ConfigurationFault → String
  | matchMode v => "Unknown match mode " ++ v.quoted ++ "; expected one of exact, prefix, word"
  | criteriaShape => "Search criteria must be a JSON object"
  | criteriaKeys keys => "Unknown search criteria keys: " ++ ", ".intercalate keys
  | groupsShape kind => kind.member ++ " must be a list of groups"
  | groupShape kind => "Each " ++ kind.member ++ " group must be a list of strings"
  | literalShape kind v => kind.member ++ " literals must be strings, got " ++ v.quoted
  | columnsShape => "columns must map column names to values"
  | numericShape => "numeric must map column names to value ranges"
  | columnName v => "Invalid column name " ++ v.quoted
  | notANumber role column v => role.text column ++ " must be a number, got " ++ v.quoted
  | notFinite role column v => role.text column ++ " must be finite, got " ++ v.quoted
  | rangeShape column => "range for " ++ Text.quoted column ++ " must be [lower, upper]"
  | regexFlag v => "regex must be a boolean or 'on'/'off', got " ++ v.quoted
  | limit v => "limit must be a positive integer, got " ++ v.quoted
  | emptyGroup kind => kind.name ++ " groups cannot be empty"
  | blankLiteral kind literals =>
    kind.name ++ " group contains an empty value: " ++ (Value.list literals).quoted
  | matchModeMissing => "tag search needs a match mode (exact, prefix or word) when regex is off"
  | noValues column => "column filter on " ++ column ++ " has no values"
  | noCentres column => "numeric filter on " ++ column ++ " has no values"
  | windowReversed column lower upper =>
    "numeric range on " ++ column ++ " has lower bound " ++ lower.plain ++ " above upper bound " ++
      upper.plain
  | extractionReversed lower upper =>
    "extraction range lower bound " ++ lower.plain ++ " is above upper bound " ++ upper.plain
  | noIdentifiers => "identifier lookup needs at least one identifier"
  | innerLimit => "limit is not accepted inside extraction criteria; set it at the top level"
  | bodyShape => "Request body must be a JSON object"
  | extractionKeys keys => "Unknown extraction keys: " ++ ", ".intercalate keys
  | extractionRange => "range must be [lower, upper]"
  | columnArgument v => "--column expects col=value, got " ++ v.quoted
  | numericArgument v => "--numeric expects col=v1,v2,..., got " ++ v.quoted
  | catalogUnreadable path reason => "Could not read catalog file " ++ path ++ ": " ++ reason
  | catalogShape path => "Catalog file " ++ path ++ " needs a 'columns' object"
  | tableMissing => "--table is required unless --list-tables is given"

/-- The values that the words for a fault show. -/
def ConfigurationFault.values : ConfigurationFault → List Value
  | matchMode v | columnName v | regexFlag v | limit v | columnArgument v | numericArgument v => [v]
  | literalShape _ v | notANumber _ _ v | notFinite _ _ v => [v]
  | blankLiteral _ literals => literals
  | windowReversed _ lower upper | extractionReversed lower upper => [lower, upper]
  | _ => []

/-- The words for what the catalog does not have. -/
def SchemaFault.message : SchemaFault → String
  | name v => v.quoted ++ " is not a valid table or column name"
  | table t => "table " ++ t ++ " is not in the schema catalog"
  | column c t => "column " ++ c ++ " is not a column of table " ++ t.plain
  | noKey t => "table " ++ t ++ " has no primary key"
  | groupColumn kind t c =>
    kind.name ++ " search needs column " ++ t ++ "." ++ c ++ ", which is not in the schema catalog"

/-- The words for what does not fit the type of a column. -/
def TypeFault.message : TypeFault → String
  | literal v type column =>
    "Value " ++ v.quoted ++ " is not a valid " ++ type.name ++
      (column.map fun c => " for column " ++ c.quoted).getD ""
  | uncomparable type column =>
    "Columns of type " ++ type.name ++ " cannot be compared to literal values" ++
      (column.map fun c => " (column " ++ c.quoted ++ ")").getD ""
  | unsearchable column table =>
    "column " ++ column ++ " of table " ++ table.plain ++ " has a type that cannot be searched"
  | notNumeric column => "numeric range search needs a numeric column; " ++ column ++ " is not"
  | unbindable type => type.name ++ " values cannot be bound as parameters"

/-- The words for placeholders that do not fit the parameters. -/
def BindingFault.message : BindingFault → String
  | fragment text placeholders parameters =>
    "Fragment " ++ Text.quoted text ++ " has " ++ toString placeholders ++ " placeholders but " ++
      toString parameters ++ " parameters"
  | statement placeholders parameters =>
    "statement has " ++ toString placeholders ++ " placeholders but " ++ toString parameters ++
      " parameters"

/-- The words for what is wrong with an address. -/
def AddressFault.message : AddressFault → String
  | brackets => "Invalid IPv6 URL"
  | futureAddress => "IPvFuture address is invalid"
  | dottedAddress => "An IPv4 address cannot be in brackets"
  | bracketed host =>
    Text.quoted (String.ofList host) ++ " does not appear to be an IPv4 or IPv6 address"
  | reserved authority =>
    "netloc '" ++ String.ofList authority ++ "' contains invalid characters under NFKC normalization"
  | port text =>
    "Port could not be cast to integer value as " ++ Text.quoted (String.ofList text)
  | portRange => "Port out of range 0-65535"
  | baseWithQuery => "base url must not contain a query string or fragment"

/-- The words for a value that an operation cannot take. -/
def ValueFault.message : ValueFault → String
  | uuid (.length n) => "Normalized UUID must have exactly 32 hex characters; got " ++ toString n ++ "."
  | uuid .letter => "Invalid UUID: contains letters beyond 'F' (non-hex characters)."
  | noMatchMode => "Unhandled match mode None"
  | noGroupKind => "Unhandled group kind None"
  | integer text => "invalid literal for int() with base 10: " ++ String.ofList ((Text.quoted text).toList.take 200)
  | integerDigits n =>
    "Exceeds the limit (4300 digits) for integer string conversion: value has " ++ toString n ++
      " digits; use sys.set_int_max_str_digits() to increase the limit"
  | integerText =>
    "Exceeds the limit (4300 digits) for integer string conversion; use" ++
      " sys.set_int_max_str_digits() to increase the limit"
  | logLevel v => "Unknown level: " ++ v.quoted
  | entryLength index length =>
    "dictionary update sequence element #" ++ toString index ++ " has length " ++ toString length ++
      "; 2 is required"
  | address f => f.message
  | zeroCharacter => "embedded null byte"
  | environmentName => "illegal environment variable name"
  | headerLineEnd => "Header values must not contain newline characters."

namespace Error

/-- The kind of a reported error and its words. -/
def report? : Error → Option (ReportKind × String)
  | configuration f => some (.configuration, f.message)
  | schema f => some (.schema, f.message)
  | typeMismatch f => some (.typeMismatch, f.message)
  | binding f => some (.binding, f.message)
  | raised kind text => some (kind, text)
  | value _ => none
  | failure _ => none

/-- A fault of a file as an error; only the zero character in a path has words. -/
def ofFile : FileFault → Error
  | .zeroCharacter => value .zeroCharacter
  | f => failure (.file f)

/-- The words for an error, if it has any. -/
def message? : Error → Option String
  | value f => some f.message
  | e => e.report?.map Prod.snd

end Error

end FacetSearch

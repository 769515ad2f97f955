/-!
# Options of the command

Each option has a spelling with two dashes; help has a short one too. An option takes no text, one or
two. A beginning of a spelling that fits one option only means that option.
-/

namespace FacetSearch.Command

/-- An option. -/
inductive OptionName where
  | help
  | table
  | databaseUrl
  | catalog
  | tag
  | attributeGroup
  | column
  | numeric
  | range
  | matchMode
  | regex
  | limit
  | showSql
  | listTables
  | logLevel
  deriving DecidableEq, Repr

/-- How many texts an option takes. -/
inductive Operands where
  | none
  | one
  | two
  deriving DecidableEq

namespace OptionName

/-- All options in the order in which they are listed. -/
def all : List OptionName :=
  [help, table, databaseUrl, catalog, tag, attributeGroup, column, numeric, range, matchMode, regex, limit,
    showSql, listTables, logLevel]

/-- How an option is spelled. -/
def spellings : OptionName → List String
  | help => ["-h", "--help"]
  | table => ["--table"]
  | databaseUrl => ["--db-url"]
  | catalog => ["--catalog"]
  | tag => ["--tag"]
  | attributeGroup => ["--attribute"]
  | column => ["--column"]
  | numeric => ["--numeric"]
  | range => ["--range"]
  | matchMode => ["--match"]
  | regex => ["--regex"]
  | limit => ["--limit"]
  | showSql => ["--show-sql"]
  | listTables => ["--list-tables"]
  | logLevel => ["--log-level"]

/-- The option in a message. -/
def label (o : OptionName) : String := "/".intercalate o.spellings

/-- The texts that an option takes. -/
def operands : OptionName → Operands
  | help | regex | showSql | listTables => .none
  | range => .two
  | _ => .one

/-- All spellings with their options. -/
def spelled : List (String × OptionName) :=
  all.flatMap fun o => o.spellings.map fun s => (s, o)

/-- The option with a spelling. -/
def ofSpelling? (s : String) : Option OptionName := (spelled.find? fun p => p.1 == s).map Prod.snd

/-- The spellings that begin like a text, with their options. -/
def beginning (s : String) : List (String × OptionName) :=
  spelled.filter fun p => s.toList.isPrefixOf p.1.toList

end OptionName

end FacetSearch.Command

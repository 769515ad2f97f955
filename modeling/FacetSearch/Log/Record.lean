/-!
# Log records

What the search reports while it works: a level, the part that speaks and its words. Records of a part
are kept if their level reaches the threshold of the part, or that of all parts if it has none of its
own.
-/

namespace FacetSearch

/-- How urgent a record is. -/
inductive LogLevel where
  | debug
  | info
  | warning
  | error
  deriving DecidableEq, Repr

/-- The part of the search that a record comes from. -/
inductive LogSource where
  | catalog
  | compiler
  | composer
  | binder
  | search
  | database
  | settings
  | application
  deriving DecidableEq, Repr

/-- One record. -/
structure LogRecord where
  level : LogLevel
  source : LogSource
  message : String
  deriving DecidableEq, Repr

/-- The level as a number that can be compared with thresholds. -/
def LogLevel.severity : LogLevel → Int
  | debug => 10
  | info => 20
  | warning => 30
  | error => 40

/-- The name of a level in a log. -/
def LogLevel.name : LogLevel → String
  | debug => "DEBUG"
  | info => "INFO"
  | warning => "WARNING"
  | error => "ERROR"

namespace LogSource

/-- The name of a part in a log. -/
def name : LogSource → String
  | catalog => "warehouse.catalog"
  | compiler => "warehouse.compiler"
  | composer => "warehouse.composer"
  | binder => "warehouse.binder"
  | search => "warehouse.search"
  | database => "warehouse.db"
  | settings => "warehouse.config_loader"
  | application => "warehouse.main"

/-- The parts that report statements. -/
def statements : List LogSource := [compiler, composer, binder]

end LogSource

/-- Thresholds: that of all parts, and those that the parts that report statements and the application
have of their own; zero is none. -/
structure LogThresholds where
  root : Int := 20
  statements : Int := 0
  application : Int := 0
  deriving DecidableEq

namespace LogThresholds

/-- The threshold that a part has of its own. -/
def own (t : LogThresholds) (s : LogSource) : Int :=
  if s ∈ LogSource.statements then t.statements
  else if s = .application then t.application
  else 0

/-- The threshold for the records of a part. -/
def effective (t : LogThresholds) (s : LogSource) : Int :=
  if t.own s = 0 then t.root else t.own s

/-- The record is kept. -/
def keeps (t : LogThresholds) (r : LogRecord) : Bool := t.effective r.source ≤ r.level.severity

end LogThresholds

end FacetSearch

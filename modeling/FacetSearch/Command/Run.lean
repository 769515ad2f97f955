import FacetSearch.Catalog.File
import FacetSearch.Command.Filters
import FacetSearch.Command.Help
import FacetSearch.Files.Path
import FacetSearch.Json.Writer
import FacetSearch.Log.Level
import FacetSearch.Service.Search
import FacetSearch.Settings.Database
import FacetSearch.Settings.Limits
/-!
# Running the command

The command lists the tables of a catalog, shows the statement of a search or searches and prints the
rows. The catalog comes from a file or from the database; the database is addressed only when it is
needed. Reported errors are printed with their kind and end the command with the code two.
-/

namespace FacetSearch.Command

/-- What the command finds around it: the environment and the files that may add to it, the file with
settings, the file that is named as the catalog, and the database. -/
structure Surroundings where
  environment : Environment
  envFiles : EnvFiles := {}
  configPath : String
  config : Option String := none
  catalogFile : Except FileFault String := .error .missing
  database : Database

/-- A run of the command: the address of the database, once it is needed, and the session with it. -/
structure Run where
  address : Option String := none
  session : Session

/-- A step of a run, which may fail. -/
abbrev Step := ExceptT Error (StateM Run)

/-- How the command ends: with a code, because its arguments are refused, or by an error that is not
reported. -/
inductive Ending where
  | code (n : Nat)
  | refused (n : Nat)
  | failed (e : Error)

/-- What comes of the command: how it ends, what it prints as results and as errors, and the run. -/
structure Outcome where
  ending : Ending
  output : String := ""
  errors : String := ""
  run : Run

/-- The options of the engine that the command connects with: a connection is tried out before use. -/
def engineOptions : Value := .object [(.text "pool_pre_ping", .bool true)]

/-- A value on lines of its own; what JSON has no form for is its plain text. -/
def lines (v : Value) : Except Error String :=
  match Json.write (Json.indented fun v => some v.plain) v with
  | some text => .ok (text ++ "\n")
  | none => .error (.failure .wrongType)

/-- A bound statement with its parameters, as a value. -/
def statementValue (b : Bound) : Value :=
  .object [(.text "sql", .text b.text), (.text "params", .object (b.params.map fun p => (.text p.name, p.value)))]

/-- The path of the catalog that is named. -/
def Arguments.catalogPath? (a : Arguments) : Option Path :=
  match a.catalog with
  | .value s => some (Path.ofString s)
  | _ => none

/-- The table that is searched. -/
def Arguments.searchedTable (a : Arguments) : Except Error String :=
  match a.table.text? with
  | none => .error (.configuration .tableMissing)
  | some t => .ok t

/-- The address of the database: the one that is named, or that of the environment. -/
def Arguments.address (a : Arguments) (w : Surroundings) : Except Error String :=
  match a.databaseUrl.text? with
  | none => (w.envFiles.load w.environment).map Database.url
  | some url => .ok url

/-- The level that records have to reach. -/
def Arguments.threshold (a : Arguments) : Int :=
  match a.logLevel with
  | .value s =>
    match LevelChoice.ofName .warning s with
    | .level l => l.value
    | .recordForm | .formTable => Level.warning.value
  | _ => Level.warning.value

namespace Step

/-- Does what needs no run. -/
def lift {α : Type} (r : Except Error α) : Step α :=
  match r with
  | .ok x => return x
  | .error e => throw e

/-- Does what is reported but does not need the database. -/
def offline {α : Type} (x : Exchange α) : Step α := fun r =>
  let (result, session) := x.run r.session
  (result, { r with session })

/-- Does an exchange with the database, which is addressed first. -/
def exchange {α : Type} (a : Arguments) (w : Surroundings) (x : Exchange α) : Step α := do
  if (← get).address.isNone then
    let address ← lift (a.address w)
    modify fun r => { r with address := some address }
  offline x

/-- The tolerance of the settings. -/
def tolerance (w : Surroundings) : Step Double := fun r =>
  let (config, records) := Limits.ofFile w.configPath w.config
  let (result, records) := (Limits.toleranceOf config).run.run records
  (result, { r with session := r.session.recordAll records })

/-- The catalog that is named, if one is. -/
def namedCatalog (a : Arguments) (w : Surroundings) : Except Error (Option Catalog) :=
  match a.catalogPath? with
  | some path => some <$> Catalog.ofFile path.text w.catalogFile
  | none => .ok none

/-- The catalog that is named, or that of the database. -/
def resolve (a : Arguments) (w : Surroundings) : Option Catalog → Step Catalog
  | some c => return c
  | none => exchange a w Exchange.reflect

/-- What the command prints. -/
def perform (a : Arguments) (w : Surroundings) : Step String := do
  let named ← lift (namedCatalog a w)
  if a.listTables then
    let catalog ← resolve a w named
    lift (do lines (← catalog.describe))
  else
    let table ← lift a.searchedTable
    let parts ← lift a.parts
    let d ← tolerance w
    let criteria ← lift (Criteria.build { parts with tolerance := .float d })
    let catalog ← resolve a w named
    let bound ← offline (do Exchange.bind (← Exchange.searchStatement catalog (.text table) criteria))
    if a.showSql then
      lift (lines (statementValue bound))
    else
      lift (lines (.list (← exchange a w (Exchange.rowsOf bound))))

end Step

/-- The line for a reported error. -/
def reportLine (kind : ReportKind) (text : String) : String := kind.name ++ ": " ++ text ++ "\n"

/-- A run before its first step. -/
def start (a : Arguments) (w : Surroundings) : Run where
  session := { database := w.database, thresholds := { root := a.threshold } }

/-- What comes of the command with arguments. -/
def run (a : Arguments) (w : Surroundings) : Outcome :=
  match (Step.perform a w).run (start a w) with
  | (.ok output, run) => { ending := .code 0, output, run }
  | (.error e, run) =>
    match e.report? with
    | some (kind, text) => { ending := .code 2, errors := reportLine kind text, run }
    | none => { ending := .failed e, run }

/-- What comes of arguments that are refused. -/
def refuse (r : Refusal) (w : Surroundings) : Outcome :=
  let run := start {} w
  match r with
  | .help => { ending := .refused 0, output := help, run }
  | .usage f => { ending := .refused 2, errors := name ++ ": error: " ++ f.message ++ "\n", run }

end FacetSearch.Command

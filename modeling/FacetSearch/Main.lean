import FacetSearch.Command.Run
/-!
# The command

The command reads its environment and its files and leaves the rest to `Command.run`. It has no driver
for a database of its own: there it finds no tables and cannot connect. A catalog in a file is enough to
list tables and to show statements.
-/

namespace FacetSearch.Command

/-- The names of the environment that settings look at. -/
def environmentNames : List String :=
  ["DATABASE_URL", "DB_USER", "PGUSER", "DB_PASSWORD", "PGPASSWORD", "DB_NAME", "PGDATABASE", "DB_HOST",
    "PGHOST", "DB_PORT", "PGPORT", "PYTHON_DOTENV_DISABLED"]

/-- The part of the environment that settings look at. -/
def readEnvironment : IO Environment := do
  let found ← environmentNames.mapM fun n => do return (← IO.getEnv n).map fun text => (n, text)
  return found.filterMap id

/-- The number of a fault of a file. -/
def faultNumber : IO.Error → Nat
  | .noFileOrDirectory _ n _ | .inappropriateType _ n _ | .invalidArgument _ n _ => n.toNat
  | _ => 0

/-- The text of a file, or why it has none. -/
def readText (path : String) : IO (Except FileFault String) := do
  try
    return .ok (← IO.FS.readFile path)
  catch e => return .error ((FileFault.ofNumber? (faultNumber e)).getD .missing)

/-- The text of a file that may be missing. -/
def readOptional (path : String) : IO (Option String) := do
  return (← readText path).toOption

/-- What the command finds around it. -/
def readSurroundings (catalogPath : Option String) : IO Surroundings := do
  let configPath := "config/appconfig.json"
  return {
    environment := ← readEnvironment
    envFiles := ⟨← readOptional "backend/.env", ← readOptional ".env"⟩
    configPath
    config := ← readOptional configPath
    catalogFile := ← readText (catalogPath.getD "")
    database := { refusal := some (.failure .runtime) } }

/-- Prints what comes of the command, and gives the code that it ends with. -/
def report (o : Outcome) : IO UInt32 := do
  for r in o.run.session.log do
    IO.eprintln (r.level.name ++ ":" ++ r.source.name ++ ":" ++ r.message)
  IO.print o.output
  IO.eprint o.errors
  match o.ending with
  | .code n => return n.toUInt32
  | .refused n => return n.toUInt32
  | .failed e =>
    IO.eprintln (e.message?.getD "the search failed")
    return 1

/-- Runs the command with arguments. -/
def execute (arguments : List String) : IO UInt32 := do
  match Arguments.parse arguments with
  | .error r => report (refuse r (← readSurroundings none))
  | .ok a => report (run a (← readSurroundings (a.catalogPath?.map Path.text)))

end FacetSearch.Command

/-- Runs the command. -/
def main (arguments : List String) : IO UInt32 := FacetSearch.Command.execute arguments

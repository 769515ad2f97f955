import FacetSearch.Log.Output
/-!
# Starting a log

A log is started with a name for its files, a directory, levels, a greatest size and the choice whether
to write to the console; what is left out comes from the environment or has a default. The choices
are looked at one after the other, and a choice that makes no sense leaves what was done before it.
-/

namespace FacetSearch

/-- Choices for a log. -/
structure LogChoices where
  application : Value := .text "warehouse"
  directory : Value := .null
  level : Value := .null
  console : Value := .bool true
  maxBytes : Value := .int 1000000
  statements : Value := .null

namespace LogChoices

/-- The directory without any choice. -/
def usualDirectory : String := "repo/var/logs"

/-- The directory for files. -/
def directoryOf (env : Environment) (v : Value) : Except Error Path :=
  match v with
  | .null => .ok (Path.ofString ((Keyed.get? env "LOG_DIR").getD usualDirectory))
  | .text s => .ok (Path.ofString s)
  | _ => .error (.failure .wrongType)

/-- The greatest size of a file, which has to be a number. -/
def sizeOf (v : Value) : Except Error Number :=
  match v.number? with
  | some n => .ok n
  | none => .error (.failure .wrongType)

/-- What is meant by the level for the parts that report statements. -/
def statementsChoice (env : Environment) (v : Value) : LevelChoice :=
  match v with
  | .null => LevelChoice.ofName .info ((Keyed.get? env "LOG_SQL_LEVEL").getD "WARNING")
  | v => LevelChoice.ofValue env v

/-- The record that a log was started. -/
def startLine (application directory : String) (level : Level) : LogLine where
  name := "root"
  level := Level.info
  message := "Logging started app=" ++ application ++ " dir=" ++ directory ++ " level=" ++ level.text

/-- What is done with files, or the fault in it. -/
def orFault {α : Type} (r : Except FileFault α) : ExceptT Error (StateM LogOutput) α :=
  match r with
  | .ok x => return x
  | .error f => throw (.ofFile f)

/-- Begins the file at a path, wherever two dots in it would lead. -/
def beginFile (path : Path) : ExceptT Error (StateM LogOutput) (List String) := do
  let tree := (← get).tree
  let (place, tree) ← orFault (tree.beginFile [] (tree.absolute path))
  modify fun o => { o with tree }
  return place

/-- Starts a log. -/
def start (env : Environment) (c : LogChoices) : ExceptT Error (StateM LogOutput) Unit := do
  let directory ← directoryOf env c.directory
  let (tree, fault) := (← get).tree.ensureDirectories directory
  modify fun o => { o with tree }
  if let some f := fault then throw (.ofFile f)
  let level ← (LevelChoice.ofValue env c.level).level?
  modify fun o => { o.undecided with root := level, file := none, console := none, cleared := true }
  let baseName := c.application.plain
  let path ← modifyGet (LogOutput.newPath directory baseName)
  let maxBytes ← sizeOf c.maxBytes
  let place ← beginFile path
  modify fun o => { o with file := some ⟨directory, baseName, maxBytes, some place⟩ }
  if c.console.isTruthy then
    modify fun o => { o with console := some level }
  let statements ← (statementsChoice env c.statements).level?
  modify fun o => { o.undecided with statements }
  modify (LogOutput.write (startLine baseName directory.text level))

end LogChoices

end FacetSearch

import FacetSearch.Catalog.Reflection
import FacetSearch.Query.Bound
/-!
# Sessions

A session with a database that answers statements in a way that is fixed in advance: it describes its
tables, may refuse to be connected to, and has a reply for each statement in turn. The session keeps
the statements that were sent, how often the database was asked for its tables, and what was reported.
-/

namespace FacetSearch

/-- What a database answers to a statement. -/
inductive Reply where
  | rows (rows : List Value)
  | failure (e : Error)

/-- A database: its tables, why it cannot be connected to, and its replies in order. -/
structure Database where
  inspector : Inspector := ⟨[]⟩
  refusal : Option Error := none
  replies : List Reply := []

/-- A database, the thresholds for what is reported about it, and what has happened so far. -/
structure Session where
  database : Database
  thresholds : LogThresholds := {}
  statements : List Bound := []
  reflections : Nat := 0
  log : List LogRecord := []

/-- An exchange with the database in a session, which may fail. -/
abbrev Exchange := ExceptT Error (StateM Session)

namespace Session

/-- The session after a record, which is kept if it reaches its threshold. -/
def record (s : Session) (r : LogRecord) : Session :=
  if s.thresholds.keeps r then { s with log := s.log ++ [r] } else s

/-- The session after records. -/
def recordAll (s : Session) (rs : List LogRecord) : Session := rs.foldl record s

/-- The session after a statement was sent, and the reply to it; without a reply there are no rows. -/
def send (s : Session) (b : Bound) : Reply × Session :=
  let s := { s with statements := s.statements ++ [b] }
  match s.database.replies with
  | [] => (.rows [], s)
  | reply :: replies => (reply, { s with database := { s.database with replies } })

end Session

namespace Exchange

/-- Reports a record. -/
def report (level : LogLevel) (source : LogSource) (message : String) : Exchange Unit :=
  modify fun s => s.record ⟨level, source, message⟩

/-- Does what needs no session. -/
def lift {α : Type} (r : Except Error α) : Exchange α :=
  match r with
  | .ok a => return a
  | .error e => throw e

/-- Connects to the database. -/
def connect : Exchange Unit := do
  match (← get).database.refusal with
  | some e => throw e
  | none => return

/-- Sends a statement and takes the rows of the reply. -/
def execute (b : Bound) : Exchange (List Value) := do
  match ← modifyGet fun s => s.send b with
  | .rows rows => return rows
  | .failure e => throw e

/-- Makes a catalog of all tables of the database. -/
def reflect : Exchange Catalog := do
  modify fun s => { s with reflections := s.reflections + 1 }
  let (catalog, records) ← lift ((← get).database.inspector.reflect "" none)
  modify fun s => s.recordAll records
  return catalog

/-- The statement that asks a database whether it is there. -/
def pingStatement : Bound := ⟨"select 1", []⟩

/-- The database answers. That it does not is reported. -/
def ping : Exchange Bool :=
  tryCatch (do connect; let _ ← execute pingStatement; return true) fun _ => do
    report .error .database "DB ping failed"
    return false

end Exchange

end FacetSearch

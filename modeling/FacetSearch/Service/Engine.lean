import FacetSearch.Service.Session
import FacetSearch.Settings.Database
/-!
# Engines

The engine is the one way to the database that all searches share. A connector makes it when it is first
asked for, of the settings in the environment; if these make no sense, none is made, and the next time
they are looked at again.
-/

namespace FacetSearch

/-- An engine: the address that it connects to and its options. -/
structure Engine where
  url : String
  options : Database.EngineOptions
  deriving DecidableEq

namespace Engine

/-- A truth value in a record. -/
def flagText (b : Bool) : String := (Value.bool b).plain

/-- The record that an engine is made. -/
def created (o : Database.EngineOptions) : LogRecord where
  level := .info
  source := .database
  message := "Creating DB engine echo=" ++ flagText o.echo ++ " pool_size=" ++ toString o.poolSize ++
    " max_overflow=" ++ toString o.maxOverflow ++ " pre_ping=" ++ flagText o.prePing

/-- The options as a value. -/
def optionsValue (o : Database.EngineOptions) : Value :=
  .object [(.text "echo", .bool o.echo), (.text "pool_size", .int o.poolSize),
    (.text "max_overflow", .int o.maxOverflow), (.text "pool_pre_ping", .bool o.prePing)]

/-- The engine that settings describe. -/
def ofEnvironment (env : Environment) : Except Error Engine := do
  return { url := Database.url env, options := ← Database.engineOptions env }

end Engine

/-- A connector: the environment, the files that may add to it, the engine if it is made, and the session
with the database behind it. -/
structure Connector where
  environment : Environment
  files : EnvFiles := {}
  engine : Option Engine := none
  session : Session

namespace Connector

/-- A step of a connector, which may fail. -/
abbrev Step := ExceptT Error (StateM Connector)

/-- Does what needs no connector. -/
def lift {α : Type} (r : Except Error α) : Step α :=
  match r with
  | .ok a => return a
  | .error e => throw e

/-- Does an exchange in the session. -/
def inSession {α : Type} (x : Exchange α) : Step α := fun p =>
  let (r, session) := x.run p.session
  (r, { p with session })

/-- The engine, made if there is none yet. -/
def sharedEngine : Step Engine := do
  match (← get).engine with
  | some e => return e
  | none =>
    let environment ← lift ((← get).files.load (← get).environment)
    modify fun p => { p with environment }
    let e ← lift (Engine.ofEnvironment environment)
    modify fun p => { p with engine := some e, session := p.session.record (Engine.created e.options) }
    return e

/-- The database behind the engine answers. That it does not is reported, and so is that there is no
engine. -/
def ping : Step Bool :=
  tryCatch (do let _ ← sharedEngine; inSession Exchange.ping) fun _ => do
    inSession (Exchange.report .error .database "DB ping failed")
    return false

end Connector

end FacetSearch

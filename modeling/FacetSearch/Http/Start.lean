import FacetSearch.Http.App
import FacetSearch.Log.Start
import FacetSearch.Settings.EnvFile
/-!
# Starting the application

The application is started with settings from a file. It may start a log first; in development, which
the environment says, the log and the application report everything.
-/

namespace FacetSearch.Http

/-- What the application is started with. -/
structure Launch where
  environment : Environment
  envFile : Option String := none
  configPath : String
  config : Option String := none
  logging : Bool := true
  catalog : Option Catalog := none
  database : Database

namespace Launch

/-- The launch with an environment to which its file is added. -/
def withEnvFile (l : Launch) : Except Error Launch := do
  return { l with environment := ← EnvFile.load l.environment l.envFile, envFile := none }

/-- The environment is that of development. -/
def isDevelopment (l : Launch) : Bool := Keyed.get? l.environment "FLASK_ENV" == some "development"

/-- The choices for the log. -/
def logChoices (l : Launch) : LogChoices where
  level := if l.isDevelopment then .int 10 else .null

/-- The log, started if it is wanted. -/
def startLog (l : Launch) : Except Error LogOutput :=
  if l.logging then
    match (l.logChoices.start l.environment).run {} with
    | (.ok _, o) => .ok o
    | (.error e, _) => .error e
  else .ok {}

/-- The thresholds of a log and of the application. -/
def thresholds (l : Launch) (debug : Bool) (o : LogOutput) : LogThresholds where
  root := o.root.value
  statements := o.statements.value
  application := if l.isDevelopment || debug then 10 else 0

/-- The application and its log. -/
def start (l : Launch) : Except Error (App × LogOutput) := do
  let l ← l.withEnvFile
  let o ← l.startLog
  let (config, _) := Limits.ofFile l.configPath l.config
  let server := Server.ofConfig l.environment config
  let session : Session := { database := l.database, thresholds := l.thresholds server.debug o }
  let session :=
    if l.isDevelopment then session.record ⟨.debug, .application, "Start of logger debug level"⟩
    else session
  let (loaded, records) := (Limits.load l.configPath l.config).run.run []
  let (_, limits) ← loaded
  let session := session.recordAll records
  let session := session.record ⟨.info, .application, "warehouse app created"⟩
  return ({ server, limits, catalog := l.catalog, session }, o)

end Launch

end FacetSearch.Http

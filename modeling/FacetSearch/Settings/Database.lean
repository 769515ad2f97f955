import FacetSearch.Error
import FacetSearch.Number.Numeral
import FacetSearch.Settings.EnvFile
import FacetSearch.Text.Percent
/-!
# Database settings

The address of the database and the options of the engine that connects to it come from the
environment, to which two files may add. A password is written in an address with every byte but
letters, digits and a few marks by its code.
-/

namespace FacetSearch

/-- The contents of the two files that may add to an environment, the first before the second. -/
structure EnvFiles where
  application : Option String := none
  root : Option String := none

/-- The environment with what the files add. -/
def EnvFiles.load (files : EnvFiles) (env : Environment) : Except Error Environment := do
  EnvFile.load (← EnvFile.load env files.application) files.root

namespace Database

/-- A text in an address; a space is a plus. -/
def addressText (s : String) : String :=
  String.ofList ((Percent.encode [' '] s.toList).map fun c => if c = ' ' then '+' else c)

/-- The text of the first name that has one. -/
def firstOf (env : Environment) (names : List String) (usual : String) : String :=
  (names.findSome? env.nonempty?).getD usual

/-- The address of the database: given as a whole or by its parts. -/
def url (env : Environment) : String :=
  match env.nonempty? "DATABASE_URL" with
  | some url => url
  | none =>
    let user := firstOf env ["DB_USER", "PGUSER"] "postgres"
    let password := firstOf env ["DB_PASSWORD", "PGPASSWORD"] ""
    let name := firstOf env ["DB_NAME", "PGDATABASE"] "warehouse"
    let host := firstOf env ["DB_HOST", "PGHOST"] "127.0.0.1"
    let port := firstOf env ["DB_PORT", "PGPORT"] "5432"
    "postgresql+psycopg://" ++ user ++ ":" ++ addressText password ++ "@" ++ host ++ ":" ++ port ++ "/" ++
      name

/-- The options of an engine. -/
structure EngineOptions where
  echo : Bool
  poolSize : Int
  maxOverflow : Int
  prePing : Bool
  deriving DecidableEq

/-- An integer that a setting spells. -/
def integer (text : String) : Except Error Int :=
  match Numeral.int? text.toList with
  | some n => .ok n
  | none =>
    match Numeral.digitCount? text.toList with
    | some n => .error (.value (.integerDigits n))
    | none => .error (.value (.integer text))

/-- An integer of the environment. -/
def integerOf (env : Environment) (name usual : String) : Except Error Int :=
  integer ((Keyed.get? env name).getD usual)

/-- The options that the environment sets. -/
def engineOptions (env : Environment) : Except Error EngineOptions := do
  let echo ← integerOf env "SQLALCHEMY_ECHO" "0"
  let poolSize ← integerOf env "SQLALCHEMY_POOL_SIZE" "5"
  let maxOverflow ← integerOf env "SQLALCHEMY_MAX_OVERFLOW" "10"
  let prePing ← integerOf env "SQLALCHEMY_POOL_PRE_PING" "1"
  return { echo := echo != 0, poolSize, maxOverflow, prePing := prePing != 0 }

end Database

end FacetSearch

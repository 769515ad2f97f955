import FacetSearch.Error
import FacetSearch.Settings.Environment
import FacetSearch.Text.UpperCase
/-!
# Levels of a log

The level of a log is given as a number, as a truth value that counts as one or zero, or by a name in
any case. A name that is unknown means a usual level. Two names that are known, those of the usual form
of a record and of the table of forms, stand for no level and are refused when a log is started with
them.
-/

namespace FacetSearch

/-- A level of a log. -/
inductive Level where
  | number (n : Int)
  | flag (b : Bool)
  deriving DecidableEq

namespace Level

/-- The number of a level. -/
def value : Level → Int
  | number n => n
  | flag b => b.toNat

/-- Names of levels with their numbers. -/
def names : List (String × Int) :=
  [("CRITICAL", 50), ("FATAL", 50), ("ERROR", 40), ("WARNING", 30), ("WARN", 30), ("INFO", 20),
    ("DEBUG", 10), ("NOTSET", 0)]

/-- The level for information. -/
def info : Level := number 20

/-- The level for warnings. -/
def warning : Level := number 30

/-- The level as a log shows it: by the first of its names, or by its number. -/
def text (l : Level) : String :=
  match names.find? fun p => p.2 == l.value with
  | some (name, _) => name
  | none =>
    match l with
    | number n => "Level " ++ toString n
    | flag b => "Level " ++ (Value.bool b).plain

/-- The level as a value. -/
def toValue : Level → Value
  | number n => .int n
  | flag b => .bool b

end Level

/-- What is meant by a level that was asked for: a level, the form of a record, or the table of forms. -/
inductive LevelChoice where
  | level (l : Level)
  | recordForm
  | formTable
  deriving DecidableEq

namespace LevelChoice

/-- The usual form of a record. -/
def recordFormText : String := "%(levelname)s:%(name)s:%(message)s"

/-- The name of the usual form of a record. -/
def recordFormName : String := "BASIC_FORMAT"

/-- The name of the table of forms. -/
def formTableName : String := "_STYLES"

/-- What a name in any case means. -/
def ofName (usual : Level) (s : String) : LevelChoice :=
  let name := Text.upper s
  if name = recordFormName then recordForm
  else if name = formTableName then formTable
  else match Level.names.find? fun p => p.1 == name with
    | some (_, n) => level (.number n)
    | none => level usual

/-- What is meant by a value; anything but a number, a truth value or a name means the level that the
environment sets. -/
def ofValue (env : Environment) : Value → LevelChoice
  | .int n => level (.number n)
  | .bool b => level (.flag b)
  | .text s => ofName .info s
  | _ => ofName .info ((Keyed.get? env "LOG_LEVEL").getD "INFO")

/-- The choice as a value, which the table of forms has none of. -/
def toValue : LevelChoice → Value
  | level l => l.toValue
  | recordForm => .text recordFormText
  | formTable => .null

/-- The level that is chosen. -/
def level? : LevelChoice → Except Error Level
  | level l => .ok l
  | recordForm => .error (.value (.logLevel (.text recordFormText)))
  | formTable => .error (.failure .wrongType)

end LevelChoice

end FacetSearch

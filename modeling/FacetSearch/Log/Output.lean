import FacetSearch.Files.Tree
import FacetSearch.Log.Hierarchy
import FacetSearch.Log.Level
import FacetSearch.Log.Record
import FacetSearch.Number.Number
import FacetSearch.Time.Date
/-!
# Where a log goes

A log that is started writes to a file in a directory and, unless it is told otherwise, to the console.
A file is named for the moment at which it is begun; when a record would make it reach the greatest
size, a new file is begun, so that a record always goes to the last file. Starting a log again ends
the files of the time before. If that leaves nothing to write to, records from warnings on go to the
console all the same, with nothing but their message. Each record is written after the time of day,
which takes twenty characters and is not kept here; it counts for sizes.
-/

namespace FacetSearch

/-- A record of any part and level. -/
structure LogLine where
  name : String
  level : Level
  message : String

/-- The text of a record without the time in front. -/
def LogLine.text (l : LogLine) : String :=
  l.level.text ++ " [1] " ++ l.name ++ ": " ++ l.message ++ "\n"

/-- The characters that the time in front of a record takes. -/
def stampWidth : Nat := 20

/-- A file that records go to: the directory and the start of the names of its files, the greatest size,
if there is one, and the place of the last file, unless it could not be begun. -/
structure LogFile where
  directory : Path
  baseName : String
  maxBytes : Number
  place : Option (List String)

/-- A log: its level, that of the parts that report statements, where records go, whether a start took
away what was there before it, the names that records had so far, which of them are taken at which levels
as far as that was decided, all files with their records, what was written to the console, and the
milliseconds on the clock. -/
structure LogOutput where
  root : Level := Level.info
  statements : Level := .number 0
  file : Option LogFile := none
  console : Option Level := none
  cleared : Bool := false
  names : List String := []
  decided : List ((String × Int) × Bool) := []
  tree : FileTree (List String) := FileTree.fresh []
  written : List String := []
  clock : Nat := 0

namespace LogOutput

/-- The moment at which the clock starts, as a date. -/
def firstDay : Nat := 738886

/-- The digits of a date in the name of a file. -/
def dayText (day : Nat) : List Char :=
  match Date.ofOrdinal? day with
  | some d => Date.padded 4 d.year ++ Date.padded 2 d.month ++ Date.padded 2 d.day
  | none => []

/-- A moment so many milliseconds after the start of the clock, in the name of a file. -/
def moment (ms : Nat) : String :=
  let s := ms / 1000 % 86400
  String.ofList (dayText (firstDay + ms / 86400000) ++ '-' :: Date.padded 2 (s / 3600) ++
    Date.padded 2 (s / 60 % 60) ++ Date.padded 2 (s % 60) ++ '-' :: Date.padded 3 (ms % 1000))

/-- The path of a file that is begun now, and the log after the clock was looked at. -/
def newPath (directory : Path) (baseName : String) (o : LogOutput) : Path × LogOutput :=
  (directory.inside (Path.ofString (baseName ++ "-" ++ moment o.clock ++ ".log")),
    { o with clock := o.clock + 1 })

/-- The bytes that records take in a file. -/
def fileSize (records : List String) : Nat :=
  records.foldr (fun r size => stampWidth + r.utf8ByteSize + size) 0

/-- A record would make the file reach its greatest size. -/
def isFull (f : LogFile) (records : List String) (record : String) : Bool :=
  f.maxBytes.gt (.int 0) &&
    !f.maxBytes.gt (.int (fileSize records + stampWidth + record.length : Nat))

/-- The records in the file at a place. -/
def recordsAt (o : LogOutput) (place : List String) : List String := (o.tree.content? place).getD []

/-- The log after a record is added to the file at a place. -/
def addRecord (place : List String) (record : String) (o : LogOutput) : LogOutput :=
  { o with tree := o.tree.write place (o.recordsAt place ++ [record]) }

/-- The log after a new file is begun, if it can be. -/
def nextFile (f : LogFile) (o : LogOutput) : Option (List String) × LogOutput :=
  let (path, o) := newPath f.directory f.baseName o
  match o.tree.beginFile [] path with
  | .ok (place, tree) => (some place, { o with file := some { f with place := some place }, tree })
  | .error _ => (none, { o with file := some { f with place := none } })

/-- The log after a record is written to a file, a new one if the file would be full. The record is lost
if there is no file. -/
def writeFile (f : LogFile) (record : String) (o : LogOutput) : LogOutput :=
  let (place, o) := match f.place with
    | some place => if isFull f (o.recordsAt place) record then nextFile f o else (some place, o)
    | none => (none, o)
  match place with
  | some place => addRecord place record o
  | none => o

/-- The log after a record is written to the console, if its level reaches that of the console. -/
def writeConsole (l : LogLine) (o : LogOutput) : LogOutput :=
  match o.console with
  | some level => if level.value ≤ l.level.value then { o with written := o.written ++ [l.text] } else o
  | none => o

/-- The name under which connections to the database report, which are warnings and more. -/
def connectionName : String := "sqlalchemy"

/-- The level that a part has of its own. -/
def ownLevel (o : LogOutput) (name : String) : Option Int :=
  if name = connectionName then some Level.warning.value
  else if o.statements.value ≠ 0 ∧ LogSource.statements.any (·.name == name) then some o.statements.value
  else none

/-- A part of this name is there, or has made a record. -/
def isKnown (o : LogOutput) (name : String) : Bool :=
  name == connectionName || LogSource.statements.any (·.name == name) || o.names.contains name

/-- The level that records of a name have to reach. -/
def threshold (o : LogOutput) (name : String) : Int :=
  (LogName.level? (fun n => o.ownLevel (String.ofList n)) (fun n => o.isKnown (String.ofList n))
    name.toList).getD o.root.value

/-- The log after a record that nothing takes: its message alone if it is a warning or more. -/
def writeBare (l : LogLine) (o : LogOutput) : LogOutput :=
  if o.cleared ∧ Level.warning.value ≤ l.level.value then
    { o with written := o.written ++ [l.message ++ "\n"] }
  else o

/-- Whether records of a name and a level are taken, and the log after it is decided. One without a level
above zero never is. What is decided holds until levels are set again. -/
def decide (name : String) (level : Int) (o : LogOutput) : Bool × LogOutput :=
  let o := { o with names := o.names ++ [name] }
  match Keyed.get? o.decided (name, level) with
  | some taken => (taken, o)
  | none =>
    let taken := 0 < level && o.threshold name ≤ level
    (taken, { o with decided := Keyed.put o.decided (name, level) taken })

/-- The log after levels are set. -/
def undecided (o : LogOutput) : LogOutput := { o with decided := [] }

/-- The log after a record. -/
def write (l : LogLine) (o : LogOutput) : LogOutput :=
  let (taken, o) := o.decide l.name l.level.value
  if taken then
    match o.file, o.console with
    | none, none => writeBare l o
    | none, some _ => writeConsole l o
    | some f, _ => writeConsole l (writeFile f l.text o)
  else o

end LogOutput

end FacetSearch

import FacetSearch.Criteria.Basic
import FacetSearch.Error
import FacetSearch.Keyed
import FacetSearch.Value.Numeral
/-!
# Building criteria

Criteria are written loosely: a bare text is a group of one literal, a single value stands for a list
of one, a numeric filter may be a number, a list of centres, a pair of centres and bounds, or an
object. `Criteria.build` brings each part into normal form, and `Criteria.ofObject` takes the parts
from a decoded JSON object. Parts are looked at in a fixed order, so that of several faults the first
one is reported.
-/

namespace FacetSearch.Criteria

/-- The parts of criteria as they are written. -/
structure Parts where
  tags : Value := .null
  attributes : Value := .null
  columns : Value := .null
  numeric : Value := .null
  matchMode : Value := .null
  regex : Value := .bool false
  limit : Value := .null
  tolerance : Value := .float (Double.zero false)

/-- An error of criteria. The words for it show values, which have to be such that can be written. -/
def fault {α : Type} (f : ConfigurationFault) : Except Error α :=
  .error (if f.values.all Value.isWritable then .configuration f else .value .integerText)

/-- A literal of a group, which has to be a text. -/
def literal (kind : GroupKind) : Value → Except Error String
  | .text s => .ok s
  | v => fault (.literalShape kind v)

/-- A group without repetitions; a bare text is a group by itself. -/
def readGroup (kind : GroupKind) (v : Value) : Except Error Group :=
  match v with
  | .text s => .ok [s]
  | v =>
    match v.members? with
    | none => fault (.groupShape kind)
    | some members => return firstsBy (· == ·) (← members.mapM (literal kind))

/-- The groups of a kind; none if nothing is given. -/
def readGroups (kind : GroupKind) (v : Value) : Except Error (List Group) :=
  if v.isNull then .ok []
  else match v.members? with
    | none => fault (.groupsShape kind)
    | some members => members.mapM (readGroup kind)

/-- The name of a column without white space around it, of which something has to be left. -/
def columnName : Value → Except Error String
  | .text s => if Text.isBlankText s then fault (.columnName (.text s)) else .ok (Text.strip s)
  | v => fault (.columnName v)

/-- The values of a column without repetitions; what is not a list is one value. -/
def columnValues (v : Value) : List Value :=
  match v.members? with
  | some members => Value.firsts members
  | none => [v]

/-- The values of each column. A column that is named twice has the values of the last time. -/
def readColumns (v : Value) : Except Error (List (String × List Value)) :=
  if v.isNull then .ok []
  else match v.entries? with
    | none => fault .columnsShape
    | some entries => do
      let filters ← entries.mapM fun (k, values) => do return (← columnName k, columnValues values)
      return Keyed.ofList filters

/-- A finite number of a numeric filter. An integer that is beyond binary64 overflows. -/
def finite (role : NumberRole) (column : String) (v : Value) : Except Error Double :=
  match v with
  | .int n => (Double.ofInt? n).elim (.error (.failure .overflow)) .ok
  | v =>
    match v.double? with
    | none => fault (.notANumber role column v)
    | some d => if d.isFinite then .ok d else fault (.notFinite role column v)

/-- A numeric filter as it is written: its centres and its bounds. -/
def centresAndBounds (v : Value) : Value × Value :=
  match v with
  | .object _ => ((v.get? "values").getD .null, (v.get? "range").getD .null)
  | v =>
    match v.members? with
    | some [centres, bounds] => if bounds.members?.isSome then (centres, bounds) else (v, .null)
    | _ => (v, .null)

/-- The centres of a filter: none, those of a list, or one. -/
def centreValues (v : Value) : List Value :=
  if v.isNull then []
  else match v.members? with
    | some members => members
    | none => [v]

/-- The number that a tolerance is. -/
def toleranceNumber (v : Value) : Except Error Number :=
  match v.number? with
  | some n => .ok n
  | none => .error (.failure .wrongType)

/-- The bounds of a filter: two numbers, or the tolerance in both directions if none are given. -/
def bounds (column : String) (tolerance v : Value) : Except Error (Number × Number) :=
  if v.isNull then do
    let t := (← toleranceNumber tolerance).abs
    return (t.neg, t)
  else match v.members? with
    | some [lower, upper] => do
      let l ← finite .bound column lower
      return (.double l, .double (← finite .bound column upper))
    | _ => fault (.rangeShape column)

/-- A numeric filter on a column. One in normal form is taken as it is. -/
def numericFilter (tolerance : Value) (column : String) (v : Value) : Except Error NumericFilter :=
  match v with
  | .filter centres lower upper => .ok ⟨centres, lower, upper⟩
  | v => do
    let (centres, range) := centresAndBounds v
    let numbers ← (centreValues centres).mapM fun c => do return .float (← finite .centre column c)
    let (lower, upper) ← bounds column tolerance range
    return { centres := Value.firsts numbers, lower := .ofNumber lower, upper := .ofNumber upper }

/-- The numeric filter of each column. A column that is named twice has the last filter. Messages
name the column as it is written. -/
def readNumeric (tolerance v : Value) : Except Error (List (String × NumericFilter)) :=
  if v.isNull then .ok []
  else match v.entries? with
    | none => fault .numericShape
    | some entries => do
      let filters ← entries.mapM fun (k, spec) => do
        let name ← columnName k
        return (name, ← numericFilter tolerance k.plain spec)
      return Keyed.ofList filters

/-- The match mode with a name in any case; a blank name is none. -/
def parseMode (v : Value) : Except Error (Option MatchMode) :=
  match v with
  | .null => .ok none
  | .mode m => .ok (some m)
  | .text s =>
    let name := Text.lower (Text.strip s)
    if name = "" then .ok none
    else match MatchMode.ofName? name with
      | some m => .ok (some m)
      | none => fault (.matchMode v)
  | v => fault (.matchMode v)

/-- Words for yes. -/
def yesWords : List String := ["on", "true", "1", "yes"]

/-- Words for no; so is saying nothing. -/
def noWords : List String := ["off", "false", "0", "no", ""]

/-- Whether literals are regular expressions. -/
def regexFlag (v : Value) : Except Error Bool :=
  match v with
  | .bool b => .ok b
  | .null => .ok false
  | .text s =>
    let word := Text.lower (Text.strip s)
    if yesWords.contains word then .ok true
    else if noWords.contains word then .ok false
    else fault (.regexFlag v)
  | v => fault (.regexFlag v)

/-- A limit that is greater than zero. -/
def positive (v : Value) (n : Int) : Except Error (Option Int) :=
  if 0 < n then .ok (some n) else fault (.limit v)

/-- The greatest number of rows. Infinity in binary64 is no limit; a number has to be a whole one. Other
infinities are too large to be looked at as integers. -/
def parseLimit (v : Value) : Except Error (Option Int) :=
  match v with
  | .null => .ok none
  | .int n => positive v n
  | .float (.infinite negative) => if negative then .error (.failure .overflow) else .ok none
  | .float d =>
    match d.int? with
    | some n => positive v n
    | none => fault (.limit v)
  | .decimal (.infinite _) => .error (.failure .overflow)
  | .decimal d =>
    match d.int? with
    | some n => positive v n
    | none => fault (.limit v)
  | .text s =>
    match Numeral.int? s.toList with
    | some n => positive v n
    | none => fault (.limit v)
  | v => fault (.limit v)

/-- Criteria in normal form from parts that are written loosely. -/
def build (p : Parts) : Except Error Criteria := do
  let tagGroups ← readGroups .tags p.tags
  let attributeGroups ← readGroups .attributes p.attributes
  let columnFilters ← readColumns p.columns
  let numericFilters ← readNumeric p.tolerance p.numeric
  let matchMode ← parseMode p.matchMode
  let regexEnabled ← regexFlag p.regex
  let limit ← parseLimit p.limit
  return { tagGroups, attributeGroups, columnFilters, numericFilters, matchMode, regexEnabled, limit }

/-- The members that criteria may have. -/
def memberNames : List String :=
  ["tags", "attributes", "columns", "numeric", "match", "regex", "limit"]

/-- The texts of an object's keys that are not among the names, in order of their characters. -/
def unknownKeys (names : List String) (entries : List (Value × Value)) : List String :=
  let unknown := (entries.map Prod.fst).filter fun k => !names.any fun n => k.same (.text n)
  (unknown.map Value.plain).mergeSort fun a b => !Text.before b a

/-- Criteria from an object; nothing at all is an object without members. -/
def ofObject (v tolerance : Value) : Except Error Criteria :=
  let v := if v.isNull then .object [] else v
  match v.entries? with
  | none => fault .criteriaShape
  | some entries =>
    let unknown := unknownKeys memberNames entries
    if !unknown.isEmpty then fault (.criteriaKeys unknown)
    else build {
      tags := (v.get? "tags").getD .null
      attributes := (v.get? "attributes").getD .null
      columns := (v.get? "columns").getD .null
      numeric := (v.get? "numeric").getD .null
      matchMode := (v.get? "match").getD .null
      regex := (v.get? "regex").getD (.bool false)
      limit := (v.get? "limit").getD .null
      tolerance }

end FacetSearch.Criteria

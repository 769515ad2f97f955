import FacetSearch.Command.Arguments
import FacetSearch.Criteria.Build
import FacetSearch.Keyed
/-!
# Criteria of the command

The texts that options take are read as criteria. Alternatives of a tag or an attribute stand between
bars. A column and its value, or a column and its numbers between commas, are told apart by the first
equals sign. Values for one column are gathered; numbers for one column replace those before.
-/

namespace FacetSearch.Command

/-- A group of alternatives, which needs a text. -/
def groupValue : Option String → Except Error Value
  | some s => .ok (.list ((Text.split '|' s).map .text))
  | none => .error (.failure .missingMember)

/-- Groups of alternatives; nothing if there are none. -/
def groupsValue (texts : List (Option String)) : Except Error Value := do
  let groups ← texts.mapM groupValue
  return if groups.isEmpty then .null else .list groups

/-- An object with entries; nothing if there are none. -/
def entriesValue {α : Type} (f : α → Value) (entries : List (String × α)) : Value :=
  if entries.isEmpty then .null else .object (entries.map fun (k, v) => (.text k, f v))

/-- An argument as a value; nothing at all is an empty list. -/
def argumentValue (argument : Option String) : Value := (argument.map Value.text).getD (.list [])

/-- The texts before and behind the first equals sign of an argument. -/
def equation (argument : Option String) : Option (String × String) :=
  argument.bind (Text.splitOnce '=')

/-- The values of columns after one more argument. -/
def addColumn (columns : List (String × List String)) (argument : Option String) :
    Except Error (List (String × List String)) :=
  match equation argument with
  | none => .error (.configuration (.columnArgument (argumentValue argument)))
  | some (name, value) =>
    let name := Text.strip name
    .ok (Keyed.put columns name ((Keyed.get? columns name).getD [] ++ [value]))

/-- The values of columns that arguments give. -/
def columnsOf (arguments : List (Option String)) : Except Error (List (String × List String)) :=
  arguments.foldlM addColumn []

/-- The numbers that stand between commas. -/
def numbersOf (s : String) : List String :=
  ((Text.split ',' s).map Text.strip).filter (· ≠ "")

/-- The numbers for columns after one more argument. -/
def addNumeric (numeric : List (String × List String)) (argument : Option String) :
    Except Error (List (String × List String)) :=
  match equation argument with
  | none => .error (.configuration (.numericArgument (argumentValue argument)))
  | some (name, numbers) => .ok (Keyed.put numeric (Text.strip name) (numbersOf numbers))

/-- The numbers for columns that arguments give. -/
def numericOf (arguments : List (Option String)) : Except Error (List (String × List String)) :=
  arguments.foldlM addNumeric []

/-- The values of a column. -/
def valuesValue (values : List String) : Value := .list (values.map .text)

/-- A numeric filter with its numbers and the range around each of them, if there is one. -/
def numericValue (range : Option (Double × Double)) (numbers : List String) : Value :=
  .object ((.text "values", valuesValue numbers) ::
    (range.map fun (lower, upper) => (Value.text "range", .list [.float lower, .float upper])).toList)

/-- What is given as a value; nothing at all is an empty list. -/
def Given.toValue {α : Type} (f : α → Value) : Given α → Value
  | absent => .null
  | nothing => .list []
  | value x => f x

/-- The parts of criteria that arguments give, all but the tolerance. -/
def Arguments.parts (a : Arguments) : Except Error Criteria.Parts := do
  let tags ← groupsValue a.tags
  let attributes ← groupsValue a.attributeGroups
  let columns ← columnsOf a.columns
  let numeric ← numericOf a.numeric
  return {
    tags
    attributes
    columns := entriesValue valuesValue columns
    numeric := entriesValue (numericValue a.range) numeric
    matchMode := a.matchMode.toValue fun m => .text m.name
    regex := .bool a.regex
    limit := a.limit.toValue .int }

end FacetSearch.Command

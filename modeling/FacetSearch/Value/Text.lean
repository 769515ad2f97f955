import FacetSearch.Text.Quoted
import FacetSearch.Value.Basic
/-!
# Texts of values

Two texts of a value: `quoted` is how a message shows it, `plain` is the text that stands for it when
it is compared as a text. They differ in texts, dates, identifiers and match modes.
-/

namespace FacetSearch.Value

/-- The digits of an integer. -/
def intText (n : Int) : String := toString n

/-- The numbers of a date, for a message. -/
def dateArguments (d : Date) : String :=
  toString d.year ++ ", " ++ toString d.month ++ ", " ++ toString d.day

/-- The numbers of a time of day, for a message: seconds and microseconds only as far as needed. -/
def clockArguments (c : Clock) : String :=
  ", " ++ toString c.hour ++ ", " ++ toString c.minute ++
    (if c.second = 0 ∧ c.micro = 0 then "" else ", " ++ toString c.second) ++
    (if c.micro = 0 then "" else ", " ++ toString c.micro)

/-- An offset, for a message. -/
def offsetArgument (o : Offset) : String :=
  let seconds := o.minutes * 60
  if seconds = 0 then ", tzinfo=datetime.timezone.utc"
  else if 0 < seconds then
    ", tzinfo=datetime.timezone(datetime.timedelta(seconds=" ++ toString seconds ++ "))"
  else ", tzinfo=datetime.timezone(datetime.timedelta(days=-1, seconds=" ++
    toString (seconds + 86400) ++ "))"

/-- A timestamp, for a message. -/
def quotedTimestamp (t : Timestamp) : String :=
  "datetime.datetime(" ++ dateArguments t.date ++ clockArguments t.clock ++
    (t.offset.map offsetArgument).getD "" ++ ")"

/-- Members between round brackets; a single one is followed by a comma. -/
def tupleText (members : List String) : String :=
  match members with
  | [m] => "(" ++ m ++ ",)"
  | ms => "(" ++ ", ".intercalate ms ++ ")"

/-- A match mode by its name in capitals. -/
def modeName (m : MatchMode) : String := "MatchMode." ++ String.ofList (m.name.toList.map Char.toUpper)

mutual

/-- The value as a message shows it. -/
def quoted : Value → String
  | .null => "None"
  | .bool b => if b then "True" else "False"
  | .int n => intText n
  | .float d => d.text
  | .text s => Text.quoted s
  | .bytes bs => Text.quotedBytes bs
  | .list xs => "[" ++ ", ".intercalate (quotedMembers xs) ++ "]"
  | .tuple xs => tupleText (quotedMembers xs)
  | .object es => "\x7b" ++ ", ".intercalate (quotedEntries es) ++ "\x7d"
  | .uuid u => "UUID('" ++ u.text ++ "')"
  | .timestamp t => quotedTimestamp t
  | .date d => "datetime.date(" ++ dateArguments d ++ ")"
  | .decimal d => "Decimal('" ++ d.text ++ "')"
  | .filter centres lower upper =>
    "NumericFilter(values=" ++ tupleText (quotedMembers centres) ++ ", lower=" ++ quoted lower ++
      ", upper=" ++ quoted upper ++ ")"
  | .mode m => "<" ++ modeName m ++ ": '" ++ m.name ++ "'>"

/-- The members as a message shows them. -/
def quotedMembers : List Value → List String
  | [] => []
  | x :: xs => quoted x :: quotedMembers xs

/-- The entries as a message shows them. -/
def quotedEntries : List (Value × Value) → List String
  | [] => []
  | (k, v) :: es => (quoted k ++ ": " ++ quoted v) :: quotedEntries es

end

mutual

/-- The value can be written: no integer in it has more digits than can be. -/
def isWritable : Value → Bool
  | .int n => Numeral.isWritable n
  | .list xs => areWritable xs
  | .tuple xs => areWritable xs
  | .object es => entriesWritable es
  | .filter centres lower upper => areWritable centres && isWritable lower && isWritable upper
  | _ => true

/-- All members can be written. -/
def areWritable : List Value → Bool
  | [] => true
  | x :: xs => isWritable x && areWritable xs

/-- All keys and values can be written. -/
def entriesWritable : List (Value × Value) → Bool
  | [] => true
  | (k, v) :: es => isWritable k && isWritable v && entriesWritable es

end

/-- The text that stands for the value. -/
def plain : Value → String
  | .text s => s
  | .uuid u => u.text
  | .timestamp t => t.textWith ' '
  | .date d => d.isoText
  | .decimal d => d.text
  | .mode m => modeName m
  | v => quoted v

end FacetSearch.Value

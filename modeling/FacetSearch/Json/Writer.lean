import FacetSearch.Insertion
import FacetSearch.Value.Text
/-!
# Writing JSON

`write` lays a value out as a JSON text of ASCII characters. A `Layout` says how: what stands between
members, whether each stands on a line of its own, whether entries are sorted by their keys, and
which text stands for a value that JSON has no form for. A numeric filter without such a text is an
object of its parts. Any other value without form and text cannot be written, nor can an object whose
keys have none or cannot be sorted.
-/

namespace FacetSearch.Json

/-- How values are laid out. -/
structure Layout where
  /-- What stands between members. -/
  comma : String
  /-- What stands between a key and its value. -/
  colon : String
  /-- Spaces by which the lines of members are indented; without, there are no lines. -/
  indent : Option Nat
  /-- Entries are sorted by their keys. -/
  sorted : Bool
  /-- The text for a value that JSON has no form for. -/
  other : Value → Option String

/-- Everything on one line with a space behind commas and colons. -/
def spaced : Layout := ⟨", ", ": ", none, false, fun _ => none⟩

/-- Everything on one line without spaces, sorted by keys. -/
def compact (other : Value → Option String) : Layout := ⟨",", ":", none, true, other⟩

/-- Members on lines of their own, sorted by keys. -/
def sortedLines (other : Value → Option String) : Layout := ⟨",", ": ", some 2, true, other⟩

/-- Members on lines of their own. -/
def indented (other : Value → Option String) : Layout := ⟨",", ": ", some 2, false, other⟩

/-- The escape of a code of sixteen bits. -/
def escapeUnit (n : Nat) : List Char := '\\' :: 'u' :: Text.hexDigits 4 n

/-- The escape of a character by its code, in two halves if it is beyond sixteen bits. -/
def escapeCode (n : Nat) : List Char :=
  if n < 0x10000 then escapeUnit n
  else escapeUnit (0xD800 + (n - 0x10000) / 0x400) ++ escapeUnit (0xDC00 + (n - 0x10000) % 0x400)

/-- One character of a text. -/
def escapeChar (c : Char) : List Char :=
  if c = '"' then ['\\', '"']
  else if c = '\\' then ['\\', '\\']
  else if c = '\n' then ['\\', 'n']
  else if c = '\r' then ['\\', 'r']
  else if c = '\t' then ['\\', 't']
  else if c = '\x08' then ['\\', 'b']
  else if c = '\x0c' then ['\\', 'f']
  else if 32 ≤ c.toNat ∧ c.toNat ≤ 126 then [c]
  else escapeCode (Text.code c)

/-- A text between quotes. -/
def quote (s : String) : String := String.ofList ('"' :: s.toList.flatMap escapeChar ++ ['"'])

/-- A binary64 number. -/
def doubleText : Double → String
  | .nan _ => "NaN"
  | .infinite negative => if negative then "-Infinity" else "Infinity"
  | d => d.text

/-- The key of an entry as a text. -/
def keyText? : Value → Option String
  | .text s => some s
  | .null => some "null"
  | .bool b => some (if b then "true" else "false")
  | .int n => some (Value.intText n)
  | .float d => some (doubleText d)
  | _ => none

/-- The first key comes before the second, if the two can be compared. -/
def keyLt? : Value → Value → Option Bool
  | .text a, .text b => some (Text.before a b)
  | a, b => do return (← b.number?).gt (← a.number?)

/-- An entry with its key written and its value written. -/
structure Entry where
  key : Value
  text : String

/-- The entries in the order of their keys. Single entries need not be compared. -/
def sortEntries (entries : List Entry) : Option (List Entry) :=
  match entries with
  | [] => some []
  | [e] => some [e]
  | e :: es =>
    if es.all fun f => (keyLt? e.key f.key).isSome then
      some (inOrder (fun a b => (keyLt? a.key b.key).getD false) (e :: es))
    else none

/-- A line end and the indentation of a level, if there are lines. -/
def lineStart (l : Layout) (level : Nat) : String :=
  match l.indent with
  | none => ""
  | some n => String.ofList ('\n' :: List.replicate (n * level) ' ')

/-- Members between brackets. -/
def bracket (l : Layout) (level : Nat) (opening closing : String) (members : List String) : String :=
  if members.isEmpty then opening ++ closing
  else opening ++ lineStart l (level + 1) ++ (l.comma ++ lineStart l (level + 1)).intercalate members ++
    lineStart l level ++ closing

/-- Entries between brackets, in their order or sorted. -/
def objectText (l : Layout) (level : Nat) (entries : List Entry) : Option String := do
  let entries ← if l.sorted then sortEntries entries else some entries
  return bracket l level "\x7b" "\x7d" (entries.map Entry.text)

/-- An entry of a key that is a text and of a value that is written. -/
def textEntry (l : Layout) (key value : String) : Entry := ⟨.text key, quote key ++ l.colon ++ value⟩

/-- A value that holds no others. -/
def scalarText (l : Layout) : Value → Option String
  | .null => some "null"
  | .bool b => some (if b then "true" else "false")
  | .int n => some (Value.intText n)
  | .float d => some (doubleText d)
  | .text s => some (quote s)
  | v => (l.other v).map quote

mutual

/-- A value at a level of nesting. -/
def valueText (l : Layout) (level : Nat) : Value → Option String
  | .list xs => do return bracket l level "[" "]" (← memberTexts l (level + 1) xs)
  | .tuple xs => do return bracket l level "[" "]" (← memberTexts l (level + 1) xs)
  | .object es => do objectText l level (← entryTexts l (level + 1) es)
  | .filter centres lower upper =>
    match l.other (.filter centres lower upper) with
    | some text => some (quote text)
    | none => do
      let members ← memberTexts l (level + 2) centres
      objectText l level [textEntry l "values" (bracket l (level + 1) "[" "]" members),
        textEntry l "lower" (← valueText l (level + 1) lower),
        textEntry l "upper" (← valueText l (level + 1) upper)]
  | v => scalarText l v

/-- The members of a list. -/
def memberTexts (l : Layout) (level : Nat) : List Value → Option (List String)
  | [] => some []
  | x :: xs => do
    let first ← valueText l level x
    return first :: (← memberTexts l level xs)

/-- The entries of an object. -/
def entryTexts (l : Layout) (level : Nat) : List (Value × Value) → Option (List Entry)
  | [] => some []
  | (k, v) :: es => do
    let key ← keyText? k
    let value ← valueText l level v
    return ⟨k, quote key ++ l.colon ++ value⟩ :: (← entryTexts l level es)

end

/-- The JSON text of a value, unless it cannot be written. -/
def write (l : Layout) (v : Value) : Option String := valueText l 0 v

end FacetSearch.Json

import FacetSearch.Number.Numeral
import FacetSearch.Time.Timestamp
/-!
# Dates with slashes and American dates

`Timestamp.ofSlashed?` reads `YYYY/MM/DD`, `MM/DD/YYYY`, `MM-DD-YYYY` and `YYYY/MM/DD hh:mm:ss`. A year
has four digits, every other field one or two; the digits of a year and the second digit of a field
that is not limited by the first may be those of any script. One blank may stand before a day of one
digit.
-/

namespace FacetSearch.SlashedText

open Text (digit? isDigit isBlank)

/-- The fields of two characters and of one character that are read. -/
structure Field where
  two : Char → Char → Bool
  one : Char → Bool

/-- The character is between the two others. -/
def between (low high c : Char) : Bool := low ≤ c && c ≤ high

/-- A month. -/
def month : Field where
  two a b := a == '1' && between '0' '2' b || a == '0' && between '1' '9' b
  one := between '1' '9'

/-- A day of a month. -/
def day : Field where
  two a b := a == '3' && between '0' '1' b || between '1' '2' a && isDigit b ||
    (a == '0' || a == ' ') && between '1' '9' b
  one := between '1' '9'

/-- An hour. -/
def hour : Field where
  two a b := a == '2' && between '0' '3' b || between '0' '1' a && isDigit b
  one := isDigit

/-- A minute. -/
def minute : Field where
  two a b := between '0' '5' a && isDigit b
  one := isDigit

/-- A second, with room for leap seconds. -/
def second : Field where
  two a b := a == '6' && between '0' '1' b || between '0' '5' a && isDigit b
  one := isDigit

/-- The value of a character in a field; a blank counts as zero. -/
def digitValue (c : Char) : Nat := (digit? c).getD 0

/-- The value of the longest field that the text begins with, and the rest. -/
def Field.read? (f : Field) : List Char → Option (Nat × List Char)
  | a :: b :: cs =>
    if f.two a b then some (digitValue a * 10 + digitValue b, cs)
    else if f.one a then some (digitValue a, b :: cs) else none
  | [a] => if f.one a then some (digitValue a, []) else none
  | [] => none

/-- The value of four digits, and the rest. -/
def year? (cs : List Char) : Option (Nat × List Char) := do
  let ds ← Numeral.digits? (cs.take 4)
  guard (ds.length = 4)
  return (Numeral.ofDigits ds, cs.drop 4)

/-- The rest after a character that has to be there. -/
def after? (c : Char) : List Char → Option (List Char)
  | d :: cs => if c = d then some cs else none
  | [] => none

/-- Year, month and day behind slashes. -/
def yearFirst? (cs : List Char) : Option (Date × List Char) := do
  let (y, cs) ← year? cs
  let (m, cs) ← month.read? (← after? '/' cs)
  let (d, cs) ← day.read? (← after? '/' cs)
  return (← Date.of? y m d, cs)

/-- Month, day and year, which are the whole text. -/
def monthFirst? (sep : Char) (cs : List Char) : Option Timestamp := do
  let (m, cs) ← month.read? cs
  let (d, cs) ← day.read? (← after? sep cs)
  let (y, cs) ← year? (← after? sep cs)
  guard cs.isEmpty
  return .ofDate (← Date.of? y m d)

/-- A time of day that is the whole text. -/
def clock? (cs : List Char) : Option Clock := do
  let (h, cs) ← hour.read? cs
  let (m, cs) ← minute.read? (← after? ':' cs)
  let (s, cs) ← second.read? (← after? ':' cs)
  guard cs.isEmpty
  Clock.of? h m s 0

/-- Year, month and day, which are the whole text. -/
def dateOnly? (cs : List Char) : Option Timestamp := do
  let (d, cs) ← yearFirst? cs
  guard cs.isEmpty
  return .ofDate d

/-- Year, month and day, white space, and a time of day. -/
def dateTime? (cs : List Char) : Option Timestamp := do
  let (d, cs) ← yearFirst? cs
  guard (cs.head?.any isBlank)
  return ⟨d, ← clock? (cs.dropWhile isBlank), none⟩

end FacetSearch.SlashedText

namespace FacetSearch

/-- The timestamp that a text stands for in the first of the four forms that fits. -/
def Timestamp.ofSlashed? (cs : List Char) : Option Timestamp :=
  SlashedText.dateOnly? cs <|> SlashedText.monthFirst? '/' cs <|> SlashedText.monthFirst? '-' cs <|>
    SlashedText.dateTime? cs

end FacetSearch

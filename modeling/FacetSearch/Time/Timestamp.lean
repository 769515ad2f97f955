import FacetSearch.Time.Date
/-!
# Timestamps

A date with a time of day to the microsecond, and the offset from Greenwich if it is known, in whole
minutes less than a day. Two timestamps are the same instant when both have an offset and agree after
it is taken off, or when neither has one and they agree as they stand.
-/

namespace FacetSearch

/-- Minutes east of Greenwich. -/
structure Offset where
  minutes : Int
  lessThanADay : -1440 < minutes ∧ minutes < 1440
  deriving DecidableEq

/-- A time of day. -/
structure Clock where
  hour : Nat
  minute : Nat
  second : Nat
  micro : Nat
  isTime : hour < 24 ∧ minute < 60 ∧ second < 60 ∧ micro < 1000000
  deriving DecidableEq

/-- A date and a time of day. -/
structure Timestamp where
  date : Date
  clock : Clock
  offset : Option Offset
  deriving DecidableEq

namespace Offset

/-- Greenwich itself. -/
def utc : Offset := ⟨0, by decide⟩

/-- The offset of so many minutes, unless it is a day or more. -/
def of? (minutes : Int) : Option Offset :=
  if h : -1440 < minutes ∧ minutes < 1440 then some ⟨minutes, h⟩ else none

/-- The characters of `+HH:MM`. -/
def isoChars (o : Offset) : List Char :=
  let m := o.minutes.natAbs
  (if o.minutes < 0 then '-' else '+') :: Date.padded 2 (m / 60) ++ ':' :: Date.padded 2 (m % 60)

end Offset

namespace Clock

/-- The start of a day. -/
def midnight : Clock := ⟨0, 0, 0, 0, by decide⟩

/-- The time of day with these parts, if there is one. -/
def of? (hour minute second micro : Nat) : Option Clock :=
  if h : hour < 24 ∧ minute < 60 ∧ second < 60 ∧ micro < 1000000 then
    some ⟨hour, minute, second, micro, h⟩
  else none

/-- The microseconds since midnight. -/
def toMicros (c : Clock) : Nat := ((c.hour * 60 + c.minute) * 60 + c.second) * 1000000 + c.micro

/-- The characters of `HH:MM:SS`, followed by six digits after a point unless they are zeros. -/
def isoChars (c : Clock) : List Char :=
  Date.padded 2 c.hour ++ ':' :: Date.padded 2 c.minute ++ ':' :: Date.padded 2 c.second ++
    if c.micro = 0 then [] else '.' :: Date.padded 6 c.micro

end Clock

namespace Timestamp

/-- The start of a day, without offset. -/
def ofDate (d : Date) : Timestamp := ⟨d, .midnight, none⟩

/-- The same timestamp with `sep` between date and time. -/
def textWith (sep : Char) (t : Timestamp) : String :=
  String.ofList (t.date.isoChars ++ sep :: t.clock.isoChars ++ (t.offset.map Offset.isoChars).getD [])

/-- The text `YYYY-MM-DDTHH:MM:SS`, then microseconds and offset if there are any. -/
def isoText (t : Timestamp) : String := t.textWith 'T'

/-- The microseconds since the start of year 1, as the timestamp stands. -/
def toMicros (t : Timestamp) : Int := t.date.toOrdinal * 86400000000 + t.clock.toMicros

/-- The microseconds since the start of year 1 in Greenwich. -/
def instant? (t : Timestamp) : Option Int := t.offset.map fun o => t.toMicros - o.minutes * 60000000

/-- The same point in time. -/
def same (a b : Timestamp) : Bool :=
  match a.instant?, b.instant? with
  | some x, some y => x == y
  | none, none => a.toMicros == b.toMicros
  | _, _ => false

/-- The timestamp so many microseconds after the start of year 1. -/
def ofMicros? (n : Int) (offset : Option Offset) : Option Timestamp := do
  guard (0 ≤ n)
  let n := n.toNat
  let date ← Date.ofOrdinal? (n / 86400000000)
  let micros := n % 86400000000
  let seconds := micros / 1000000
  let clock ← Clock.of? (seconds / 3600) (seconds / 60 % 60) (seconds % 60) (micros % 1000000)
  return ⟨date, clock, offset⟩

/-- The same timestamp a day later, if the calendar reaches so far. -/
def nextDay? (t : Timestamp) : Option Timestamp :=
  (Date.ofOrdinal? (t.date.toOrdinal + 1)).map fun d => { t with date := d }

/-- The timestamp in Greenwich; one without offset is taken as such. -/
def toUtc? (t : Timestamp) : Option Timestamp :=
  match t.offset with
  | none => some { t with offset := some .utc }
  | some o => ofMicros? (t.toMicros - o.minutes * 60000000) (some .utc)

/-- The names of the days of the week, Monday first. -/
def dayNames : List String := ["Mon", "Tue", "Wed", "Thu", "Fri", "Sat", "Sun"]

/-- The names of the months. -/
def monthNames : List String :=
  ["Jan", "Feb", "Mar", "Apr", "May", "Jun", "Jul", "Aug", "Sep", "Oct", "Nov", "Dec"]

/-- The form that HTTP headers use, in Greenwich: `Tue, 02 Jan 2024 03:04:05 GMT`. -/
def httpText? (t : Timestamp) : Option String :=
  t.toUtc?.map fun t =>
    let two n := String.ofList (Date.padded 2 n)
    let day := dayNames.getD t.date.weekday ""
    let month := monthNames.getD (t.date.month - 1) ""
    let year := String.ofList (Date.padded 4 t.date.year)
    day ++ ", " ++ two t.date.day ++ " " ++ month ++ " " ++ year ++ " " ++ two t.clock.hour ++ ":" ++
      two t.clock.minute ++ ":" ++ two t.clock.second ++ " GMT"

end Timestamp

end FacetSearch

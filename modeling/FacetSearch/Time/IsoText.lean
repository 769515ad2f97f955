import FacetSearch.Number.Numeral
import FacetSearch.Time.Timestamp
/-!
# Reading ISO 8601

`Timestamp.ofIso?` reads a date, by month and day, by week or by day of the year, and after any one
character a time of day with an optional offset. Each field is a number of ASCII digits of a fixed
width.
-/

namespace FacetSearch.IsoText

/-- The number that the first `width` characters stand for, if all of them are there and are ASCII digits,
and what follows them. -/
def number? (width : Nat) (cs : List Char) : Option (Nat × List Char) :=
  let digits := cs.take width
  if digits.length = width ∧ digits.all Char.isDigit then
    some (Numeral.ofDigits (digits.map fun c => c.toNat - 48), cs.drop width)
  else none

/-- The list without its first member if that is a dash, and whether it was. -/
def splitDash : List Char → Bool × List Char
  | '-' :: cs => (true, cs)
  | cs => (false, cs)

/-- Year, month and day and the rest of the text: `YYYY`, `YYYY-MM`, `YYYY-MM-DD` or `YYYYMMDD`. The
parts need not be those of a date. -/
def monthDate? (cs : List Char) : Option ((Nat × Nat × Nat) × List Char) := do
  let (year, cs) ← number? 4 cs
  if cs.isEmpty then return ((year, 1, 1), [])
  let (dashed, cs) := splitDash cs
  let (month, cs) ← number? 2 cs
  if cs.isEmpty then
    guard dashed
    return ((year, month, 1), [])
  let (again, cs) := if dashed then splitDash cs else (false, cs)
  guard (again = dashed)
  let (day, cs) ← number? 2 cs
  return ((year, month, day), cs)

/-- The day of a week of a year. The first week is the one with the fourth of January; the last one
may run into the next year. -/
def weekDate? (year week day : Nat) : Option Date := do
  guard (1 ≤ week ∧ week ≤ 53 ∧ 1 ≤ day ∧ day ≤ 7)
  let fourth ← Date.of? year 1 4
  Date.ofOrdinal? (fourth.toOrdinal - fourth.weekday + (week - 1) * 7 + (day - 1))

/-- A date by week, `YYYY-Www-D` or without dashes, the day being optional, or by day of the year,
`YYYY-DDD` or without dash; and the rest of the text. -/
def weekOrDayDate? (cs : List Char) : Option (Date × List Char) := do
  let (year, cs) ← number? 4 cs
  let (dashed, cs) := splitDash cs
  match cs with
  | 'W' :: cs =>
    let (week, cs) ← number? 2 cs
    if cs.isEmpty then return (← weekDate? year week 1, [])
    let (again, cs) := splitDash cs
    guard (again = dashed)
    let (day, cs) ← number? 1 cs
    return (← weekDate? year week day, cs)
  | cs =>
    let (day, cs) ← number? 3 cs
    return (← Date.ofDayOfYear? year day, cs)

/-- An offset begins here. -/
def startsZone : List Char → Bool
  | c :: _ => c == '-' || c == '+' || c == 'Z' || c == 'z'
  | [] => false

/-- The minutes of an offset that are the whole text: `mm` or `:mm`, or none. -/
def zoneMinutes? (cs : List Char) : Option Nat := do
  if cs.isEmpty then return 0
  let (minutes, cs) ← number? 2 (if cs.head? = some ':' then cs.drop 1 else cs)
  guard cs.isEmpty
  return minutes

/-- The offset that is the whole text: `Z`, `±hh`, `±hhmm` or `±hh:mm`. -/
def zone? (cs : List Char) : Option Offset := do
  if cs = ['Z'] ∨ cs = ['z'] then return .utc
  let sign : Int ← match cs with
    | '-' :: _ => some (-1)
    | '+' :: _ => some 1
    | _ => none
  let (hours, cs) ← number? 2 (cs.drop 1)
  let minutes ← zoneMinutes? cs
  guard (minutes ≤ 59 ∧ hours ≤ 23)
  Offset.of? (sign * (hours * 60 + minutes : Nat))

/-- A field of two digits and the rest, unless the text ends or the offset begins here. -/
def field? (cs : List Char) : Option (Nat × List Char) :=
  if cs.isEmpty || startsZone cs then some (0, cs) else number? 2 cs

/-- A field behind a colon, or without one if `colons` says so; and whether there was a colon. -/
def colonField? (colons : Option Bool) (cs : List Char) : Option (Nat × Bool × List Char) :=
  if cs.isEmpty || startsZone cs then some (0, false, cs)
  else match colons, cs with
    | some false, cs => (number? 2 cs).map fun (n, cs) => (n, false, cs)
    | _, ':' :: cs => (number? 2 cs).map fun (n, cs) => (n, true, cs)
    | none, cs => (number? 2 cs).map fun (n, cs) => (n, false, cs)
    | some true, _ => none

/-- Microseconds behind a point or comma, cut after six digits. -/
def fraction (cs : List Char) : Nat × List Char :=
  match cs with
  | c :: rest =>
    let ds := rest.takeWhile Char.isDigit
    if (c = '.' ∨ c = ',') ∧ 0 < ds.length then
      let kept := ds.take 6
      (Numeral.ofDigits (kept.map fun d => d.toNat - 48) * Nat.pow 10 (6 - kept.length),
        rest.dropWhile Char.isDigit)
    else (0, cs)
  | [] => (0, [])

/-- The parts of a time of day and its offset. -/
structure Parts where
  hour : Nat
  minute : Nat
  second : Nat
  micro : Nat
  offset : Option Offset

/-- A time of day that is the whole text. The offset may follow any field. -/
def time? (cs : List Char) : Option Parts := do
  guard (2 ≤ cs.length)
  let (hour, cs) ← field? cs
  let (minute, colons, cs) ← colonField? none cs
  let (second, _, cs) ← colonField? (some colons) cs
  let (micro, cs) := if startsZone cs then (0, cs) else fraction cs
  let offset ← if cs.isEmpty then some none
    else if startsZone cs then (zone? cs).map some else none
  return { hour, minute, second, micro, offset }

/-- The timestamp of a date and parts of a time. Hour 24 is allowed for the next day's midnight. -/
def combine? (date : Date) (p : Parts) : Option Timestamp := do
  if p.hour = 24 then
    guard (p.minute = 0 ∧ p.second = 0 ∧ p.micro = 0)
    Timestamp.nextDay? ⟨date, .midnight, p.offset⟩
  else
    let clock ← Clock.of? p.hour p.minute p.second p.micro
    return ⟨date, clock, p.offset⟩

/-- The time after the date, if the text goes on; any one character stands between them. -/
def finish? (date : Date) (cs : List Char) : Option Timestamp :=
  if cs.isEmpty then some (Timestamp.ofDate date)
  else do combine? date (← time? (cs.drop 1))

end FacetSearch.IsoText

namespace FacetSearch

/-- The timestamp that an ASCII text stands for. A text that begins with month and day is not read in
another way. -/
def Timestamp.ofIso? (cs : List Char) : Option Timestamp :=
  if cs.all fun c => c.toNat < 128 then
    match IsoText.monthDate? cs with
    | some ((year, month, day), rest) => do IsoText.finish? (← Date.of? year month day) rest
    | none => do
      let (date, rest) ← IsoText.weekOrDayDate? cs
      IsoText.finish? date rest
  else none

end FacetSearch

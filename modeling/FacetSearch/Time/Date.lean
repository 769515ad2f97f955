/-!
# Dates

Dates of the Gregorian calendar, extended back to year 1, up to year 9999. A `Date` carries the proof
that its day exists. Days are also counted: day 1 is the first of January of year 1, a Monday.
-/

namespace FacetSearch

namespace Date

/-- Every fourth year is a leap year, of the full centuries every fourth. -/
def isLeap (year : Nat) : Bool := year % 4 = 0 && (year % 100 != 0 || year % 400 = 0)

/-- The number of days in a month; there are none outside 1 to 12. -/
def daysInMonth (year month : Nat) : Nat :=
  match month with
  | 2 => if isLeap year then 29 else 28
  | 4 | 6 | 9 | 11 => 30
  | 1 | 3 | 5 | 7 | 8 | 10 | 12 => 31
  | _ => 0

/-- The year is between 1 and 9999 and has such a day. -/
def Exists (year month day : Nat) : Prop :=
  1 ≤ year ∧ year ≤ 9999 ∧ 1 ≤ day ∧ day ≤ daysInMonth year month

instance (year month day : Nat) : Decidable (Exists year month day) :=
  inferInstanceAs (Decidable (_ ∧ _))

end Date

/-- A day of the calendar. -/
structure Date where
  year : Nat
  month : Nat
  day : Nat
  isDay : Date.Exists year month day
  deriving DecidableEq

namespace Date

/-- The date with this year, month and day, if there is one. -/
def of? (year month day : Nat) : Option Date :=
  if h : Exists year month day then some ⟨year, month, day, h⟩ else none

/-- The number of days before a year. -/
def daysBeforeYear (year : Nat) : Nat :=
  let y := year - 1
  y * 365 + y / 4 - y / 100 + y / 400

/-- The number of days of a year before a month. -/
def daysBeforeMonth (year month : Nat) : Nat :=
  (List.range (month - 1)).foldr (fun m days => daysInMonth year (m + 1) + days) 0

/-- The count of a day, the first of January of year 1 being day 1. -/
def toOrdinal (d : Date) : Nat := daysBeforeYear d.year + daysBeforeMonth d.year d.month + d.day

/-- The date on the day of a year that is counted from 1. -/
def ofDayOfYear? (year day : Nat) : Option Date :=
  (List.range 12).findSome? fun m =>
    let before := daysBeforeMonth year (m + 1)
    if before < day ∧ day ≤ before + daysInMonth year (m + 1) then of? year (m + 1) (day - before)
    else none

/-- The date with a count, which begins with one. The last day of a leap cycle belongs to the year that
it ends. -/
def ofOrdinal? (n : Nat) : Option Date := do
  guard (1 ≤ n)
  let n := n - 1
  let (cycles, n) := (n / 146097, n % 146097)
  let centuries := min (n / 36524) 3
  let n := n - centuries * 36524
  let (fours, n) := (n / 1461, n % 1461)
  let years := min (n / 365) 3
  ofDayOfYear? (400 * cycles + 100 * centuries + 4 * fours + years + 1) (n - years * 365 + 1)

/-- The day of the week, from 0 for Monday to 6 for Sunday. -/
def weekday (d : Date) : Nat := (d.toOrdinal + 6) % 7

/-- A number with at least `width` digits. -/
def padded (width n : Nat) : List Char :=
  let digits := Nat.toDigits 10 n
  List.replicate (width - digits.length) '0' ++ digits

/-- The characters of `YYYY-MM-DD`. -/
def isoChars (d : Date) : List Char := padded 4 d.year ++ '-' :: padded 2 d.month ++ '-' :: padded 2 d.day

/-- The text `YYYY-MM-DD`. -/
def isoText (d : Date) : String := String.ofList d.isoChars

end Date

end FacetSearch

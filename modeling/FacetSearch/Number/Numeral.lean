import FacetSearch.Number.Double
import FacetSearch.Text.Blank
import FacetSearch.Text.Digit
/-!
# Numerals

Reading of integers and binary64 numbers. Both may stand between white space, take a sign and use the
digits of any script, with single underscores between digits. An integer of more than
`maxDigits` digits is not read.
-/

namespace FacetSearch.Numeral

open Text

/-- The greatest number of digits that an integer is read from. -/
def maxDigits : Nat := 4300

/-- The integer has no more digits than that, so that it can be written. -/
def isWritable (n : Int) : Bool := n.natAbs < Nat.pow 10 maxDigits

/-- The value of digits, most significant first. -/
def ofDigits (digits : List Nat) : Nat := digits.foldl (fun n d => n * 10 + d) 0

/-- The values of a list of digits, if there is nothing else in it. -/
def digits? (cs : List Char) : Option (List Nat) := cs.mapM digit?

/-- A sign, if there is one, and the rest. -/
def splitSign : List Char → Bool × List Char
  | '+' :: cs => (false, cs)
  | '-' :: cs => (true, cs)
  | cs => (false, cs)

/-- An integer with an optional sign and nothing but digits, at least one. -/
def plainInt? (cs : List Char) : Option Int := do
  let (negative, cs) := splitSign cs
  let ds ← digits? cs
  guard (0 < ds.length ∧ ds.length ≤ maxDigits)
  return if negative then -(ofDigits ds : Int) else ofDigits ds

/-- The text without the underscores between digits; an underscore elsewhere is an error. -/
def dropUnderscores (afterDigit : Bool) : List Char → Option (List Char)
  | [] => some []
  | '_' :: c :: cs =>
    if afterDigit && isDigit c then (c :: ·) <$> dropUnderscores true cs else none
  | c :: cs => if c = '_' then none else (c :: ·) <$> dropUnderscores (isDigit c) cs

/-- An integer between white space. -/
def int? (cs : List Char) : Option Int := do
  plainInt? (← dropUnderscores false (trim isNumberBlank cs))

/-- The number of digits in front of a text, if they are too many for an integer. -/
def digitCount? (cs : List Char) : Option Nat := do
  let (_, cs) := splitSign (trim isNumberBlank cs)
  let ds ← dropUnderscores false (cs.takeWhile fun c => isDigit c || c == '_')
  guard (maxDigits < ds.length)
  return ds.length

/-- The word in lower case, compared by ASCII letters. -/
def isWordOf (cs : List Char) (word : String) : Bool := cs.map Char.toLower == word.toList

/-- The exponent part of a number: nothing, or a letter, a sign and digits. -/
def exponent? : List Char → Option Int
  | [] => some 0
  | c :: cs => do
    guard (c = 'e' ∨ c = 'E')
    let (negative, cs) := splitSign cs
    let ds ← digits? cs
    guard (0 < ds.length)
    return if negative then -(ofDigits ds : Int) else ofDigits ds

/-- A number without sign: digits with at most one point among them, and an exponent. -/
def magnitude? (negative : Bool) (cs : List Char) : Option Double := do
  let whole := cs.takeWhile isDigit
  let rest := cs.dropWhile isDigit
  let (fraction, rest) := match rest with
    | '.' :: rest => (rest.takeWhile isDigit, rest.dropWhile isDigit)
    | rest => ([], rest)
  let ds ← digits? (whole ++ fraction)
  guard (0 < ds.length)
  let e ← exponent? rest
  return Double.ofDecimal negative (ofDigits ds) (e - fraction.length)

/-- A binary64 number between white space; infinity and NaN are words in any case. -/
def double? (cs : List Char) : Option Double := do
  let cs ← dropUnderscores false (trim isNumberBlank cs)
  let (negative, cs) := splitSign cs
  if isWordOf cs "inf" || isWordOf cs "infinity" then return .infinite negative
  else if isWordOf cs "nan" then return .nan 0
  else magnitude? negative cs

/-- Bytes as the characters of a numeral; a byte beyond ASCII belongs to none. -/
def ofBytes (bytes : List UInt8) : List Char :=
  bytes.map fun b => if b.toNat < 128 then Char.ofNat b.toNat else '?'

end FacetSearch.Numeral

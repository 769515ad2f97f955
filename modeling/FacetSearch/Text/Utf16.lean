import FacetSearch.Text.Code
/-!
# Decoding UTF-16

Units of two bytes as characters. A character beyond the first 65536 is written as a pair of halves; half
a pair that stands alone is kept as such.
-/

namespace FacetSearch.Utf16

/-- The first half of a pair. -/
def isHigh (n : Nat) : Bool := 0xD800 ≤ n && n ≤ 0xDBFF

/-- The second half of a pair. -/
def isLow (n : Nat) : Bool := 0xDC00 ≤ n && n ≤ 0xDFFF

/-- The character of a pair. -/
def pair (high low : Nat) : Char := Char.ofNat (0x10000 + (high - 0xD800) * 0x400 + (low - 0xDC00))

/-- The characters of units. -/
def decode (units : List Nat) : List Char :=
  match units with
  | [] => []
  | [n] => [Text.ofCode n]
  | high :: low :: rest =>
    if isHigh high && isLow low then pair high low :: decode rest else Text.ofCode high :: decode (low :: rest)
  termination_by units.length

end FacetSearch.Utf16

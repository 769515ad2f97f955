import FacetSearch.Text.Utf16
/-!
# JSON in units of more than one byte

A JSON text is written in UTF-8, or in units of two or four bytes. It begins with an ASCII character, so
that the zero bytes among its first four tell which of them it is.
-/

namespace FacetSearch.Json

/-- How a text is written in units of two or four bytes, the greatest byte of a unit in front or behind. -/
structure Units where
  four : Bool
  greatestFirst : Bool
  deriving DecidableEq

namespace Units

/-- The units that the first bytes of a text tell, if they are of more than one byte. -/
def ofBytes? : List Nat → Option Units
  | 0 :: 0 :: _ :: _ :: _ => some ⟨true, true⟩
  | 0 :: _ :: _ :: _ :: _ => some ⟨false, true⟩
  | _ :: 0 :: 0 :: 0 :: _ => some ⟨true, false⟩
  | _ :: 0 :: _ :: _ :: _ => some ⟨false, false⟩
  | [0, _] => some ⟨false, true⟩
  | [_, 0] => some ⟨false, false⟩
  | _ => none

/-- Pairs of digits as numbers. No digit is left over. -/
def joinPairs? (base : Nat) (greatestFirst : Bool) : List Nat → Option (List Nat)
  | [] => some []
  | [_] => none
  | a :: b :: rest =>
    (joinPairs? base greatestFirst rest).map ((if greatestFirst then a * base + b else b * base + a) :: ·)

/-- The characters of bytes, unless the bytes break off or stand for none. -/
def decode? (u : Units) (bytes : List Nat) : Option (List Char) := do
  let pairs ← joinPairs? 256 u.greatestFirst bytes
  if u.four then
    let codes ← joinPairs? 65536 u.greatestFirst pairs
    guard (codes.all (· ≤ 0x10FFFF))
    return codes.map Text.ofCode
  else return Utf16.decode pairs

end Units

end FacetSearch.Json

import FacetSearch.Text.Quoted
import FacetSearch.Text.Utf8
/-!
# Percent-encoding

In an address a byte may be written by its code after a percent sign. `decode` reads such bytes, together
with those of all other characters, as UTF-8; `encode` writes all bytes so but those of letters, digits
and some marks.
-/

namespace FacetSearch.Percent

/-- The value of a hexadecimal digit. -/
def hexValue? (c : Char) : Option Nat :=
  if '0' ≤ c ∧ c ≤ '9' then some (c.toNat - 48)
  else if 'a' ≤ c ∧ c ≤ 'f' then some (c.toNat - 87)
  else if 'A' ≤ c ∧ c ≤ 'F' then some (c.toNat - 55)
  else none

/-- The bytes of a character. -/
def bytesOf (c : Char) : List Nat := (String.singleton c).toUTF8.toList.map UInt8.toNat

/-- The bytes that characters stand for. -/
def bytes : List Char → List Nat
  | [] => []
  | '%' :: a :: b :: cs =>
    match hexValue? a, hexValue? b with
    | some x, some y => (16 * x + y) :: bytes cs
    | _, _ => 37 :: bytes (a :: b :: cs)
  | c :: cs => bytesOf c ++ bytes cs

/-- The characters that percent-encoded characters stand for. -/
def decode (cs : List Char) : List Char := Utf8.decode (bytes cs)

/-- A byte after a percent sign. -/
def escape (b : Nat) : List Char := '%' :: (Text.hexDigits 2 b).map Char.toUpper

/-- A letter, a digit or a mark that always stands for itself. -/
def isPlain (c : Char) : Bool := c.isAlphanum || c == '_' || c == '.' || c == '-' || c == '~'

/-- The characters with all bytes by their codes but those of plain characters and of given marks. -/
def encode (marks : List Char) (cs : List Char) : List Char :=
  cs.flatMap fun c => if isPlain c || marks.contains c then [c] else (bytesOf c).flatMap escape

end FacetSearch.Percent

/-!
# Universally unique identifiers

An identifier is 32 hexadecimal digits. Any text whose ASCII letters and digits are such digits
spells it; `Uuid.text` is the spelling in lower case with hyphens after 8, 12, 16 and 20 digits.
-/

namespace FacetSearch

/-- 32 hexadecimal digits. -/
structure Uuid where
  digits : List (Fin 16)
  length_eq : digits.length = 32
  deriving DecidableEq

/-- Why a text spells no identifier. -/
inductive UuidFault where
  | length (found : Nat)
  | letter
  deriving DecidableEq

namespace Uuid

/-- An ASCII letter or digit. -/
def isSignificant (c : Char) : Bool := c.isAlphanum

/-- The value of a hexadecimal digit in either case. -/
def hexValue? (c : Char) : Option (Fin 16) :=
  if '0' ≤ c ∧ c ≤ '9' then some (Fin.ofNat 16 (c.toNat - 48))
  else if 'a' ≤ c ∧ c ≤ 'f' then some (Fin.ofNat 16 (c.toNat - 87))
  else if 'A' ≤ c ∧ c ≤ 'F' then some (Fin.ofNat 16 (c.toNat - 55))
  else none

/-- The identifier that a text spells. -/
def parse (s : String) : Except UuidFault Uuid :=
  let cs := s.toList.filter isSignificant
  if cs.length ≠ 32 then .error (.length cs.length)
  else match cs.mapM hexValue? with
    | none => .error .letter
    | some digits => if h : digits.length = 32 then .ok ⟨digits, h⟩ else .error (.length digits.length)

/-- A digit as a character. -/
def hexChar (d : Fin 16) : Char := Nat.digitChar d.val

/-- The spelling in lower case with hyphens. -/
def text (u : Uuid) : String :=
  let cs := u.digits.map hexChar
  String.ofList (cs.take 8 ++ '-' :: (cs.drop 8).take 4 ++ '-' :: (cs.drop 12).take 4 ++
    '-' :: (cs.drop 16).take 4 ++ '-' :: cs.drop 20)

end Uuid

end FacetSearch

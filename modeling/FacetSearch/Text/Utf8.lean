/-!
# Decoding UTF-8

Bytes as characters. Bytes that begin a character and break off, and bytes that begin none, become one
replacement character for each longest such run.
-/

namespace FacetSearch.Utf8

/-- How many bytes follow the first byte of a character. -/
def following (b : Nat) : Nat :=
  if 0xC2 ≤ b ∧ b ≤ 0xDF then 1
  else if 0xE0 ≤ b ∧ b ≤ 0xEF then 2
  else if 0xF0 ≤ b ∧ b ≤ 0xF4 then 3
  else 0

/-- The least and the greatest byte that may follow a first byte. -/
def secondRange (b : Nat) : Nat × Nat :=
  if b = 0xE0 then (0xA0, 0xBF)
  else if b = 0xED then (0x80, 0x9F)
  else if b = 0xF0 then (0x90, 0xBF)
  else if b = 0xF4 then (0x80, 0x8F)
  else (0x80, 0xBF)

/-- The bytes in front that may follow the first byte of a character, in its range and then in that of
all, at most so many. -/
def tail (range : Nat × Nat) : Nat → List Nat → List Nat
  | width + 1, c :: cs => if range.1 ≤ c ∧ c ≤ range.2 then c :: tail (0x80, 0xBF) width cs else []
  | _, _ => []

/-- The code that the first byte of a character begins. -/
def leadBits (b : Nat) : Nat := if b < 0xE0 then b % 0x20 else if b < 0xF0 then b % 0x10 else b % 0x08

/-- The code of a character. -/
def code (b : Nat) (cs : List Nat) : Nat := cs.foldl (fun n c => n * 0x40 + c % 0x40) (leadBits b)

/-- The characters of bytes. -/
def decode (bytes : List Nat) : List Char :=
  match bytes with
  | [] => []
  | b :: bs =>
    let cs := tail (secondRange b) (following b) bs
    let c := if b < 0x80 then Char.ofNat b
      else if 0 < following b ∧ cs.length = following b then Char.ofNat (code b cs)
      else '\ufffd'
    c :: decode (bs.drop cs.length)
  termination_by bytes.length
  decreasing_by simp only [List.length_drop, List.length_cons]; omega

end FacetSearch.Utf8

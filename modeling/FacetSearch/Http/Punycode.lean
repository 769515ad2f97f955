/-!
# Punycode

A label of a host name is written in ASCII: its ASCII characters first, then the places of the others,
in order of their codes, as numbers of variable length in base 36. The threshold for the last digit of a
number follows the numbers written so far.
-/

namespace FacetSearch.Punycode

/-- The digit for a value below 36. -/
def digitChar (d : Nat) : Char := if d < 26 then Char.ofNat (97 + d) else Char.ofNat (22 + d)

/-- The least value of a digit that is followed by another one. -/
def threshold (k bias : Nat) : Nat := if k ≤ bias then 1 else if bias + 26 ≤ k then 26 else k - bias

theorem threshold_pos (k bias : Nat) : 1 ≤ threshold k bias := by
  unfold threshold
  split
  · omega
  · split <;> omega

/-- The digits of a number, the first of which has the place `k`. -/
def digits (bias k q : Nat) : List Char :=
  let t := threshold k bias
  if q < t then [digitChar q]
  else digitChar (t + (q - t) % (36 - t)) :: digits bias (k + 36) ((q - t) / (36 - t))
  termination_by q
  decreasing_by
    have := threshold_pos k bias
    exact Nat.lt_of_le_of_lt (Nat.div_le_self _ _) (by omega)

/-- A difference divided until it is small, and how far it was. -/
def dampened (delta k : Nat) : Nat × Nat :=
  if 455 < delta then dampened (delta / 35) (k + 36) else (delta, k)
  termination_by delta
  decreasing_by omega

/-- The bias after a number was written as the `count`-th character. -/
def adapted (delta count : Nat) (first : Bool) : Nat :=
  let halved := if first then delta / 700 else delta / 2
  let (delta, k) := dampened (halved + halved / count) 0
  k + 36 * delta / (delta + 38)

/-- What is written so far: digits, characters that are placed, the way since the last of them, and the
bias. -/
structure Progress where
  written : List Char
  placed : Nat
  delta : Nat
  bias : Nat

/-- Places the characters of a code among all characters of a label, of which so many are ASCII. -/
def placeCode (ascii code : Nat) (p : Progress) (label : List Nat) : Progress :=
  label.foldl (fun p c =>
    if c < code then { p with delta := p.delta + 1 }
    else if c = code then
      { written := p.written ++ digits p.bias 36 p.delta
        placed := p.placed + 1
        delta := 0
        bias := adapted p.delta (p.placed + 1) (p.placed = ascii) }
    else p) p

/-- Places the characters of all codes, which ascend; `next` is the code after the last one. -/
def placeCodes (ascii next : Nat) (p : Progress) (label : List Nat) : List Nat → Progress
  | [] => p
  | code :: codes =>
    let p := placeCode ascii code { p with delta := p.delta + (code - next) * (p.placed + 1) } label
    placeCodes ascii (code + 1) { p with delta := p.delta + 1 } label codes

/-- A label in ASCII. -/
def encode (label : List Char) : List Char :=
  let ascii := label.filter fun c => c.toNat < 128
  let codes := label.map Char.toNat
  let beyond := ((codes.filter (128 ≤ ·)).mergeSort fun a b => a ≤ b).eraseDups
  let p := placeCodes ascii.length 128 ⟨[], ascii.length, 0, 72⟩ codes beyond
  (if ascii.isEmpty then [] else ascii ++ ['-']) ++ p.written

end FacetSearch.Punycode

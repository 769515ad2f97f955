import FacetSearch.Http.Punycode
import FacetSearch.Text.Code
import FacetSearch.Text.Direction
import FacetSearch.Text.LowerCase
import FacetSearch.Text.NormalForm
/-!
# Labels of host names

A label of a host name is written in one to 63 ASCII characters. Other characters are prepared first, so
that labels that read the same are written the same: some are left out, the others are put into lower
case and normal form. Blanks, controls and characters without a meaning of their own are not allowed in
a label, and letters of both directions are not mixed. What is left beyond ASCII is written in Punycode.
-/

namespace FacetSearch.HostLabel

/-- A label is neither empty nor too long. -/
def isLabel (cs : List Char) : Bool := 0 < cs.length && cs.length < 64

/-- All characters are those of ASCII. -/
def isAscii (cs : List Char) : Bool := cs.all fun c => c.toNat < 128

/-- The mark in front of a label in Punycode. -/
def mark : List Char := "xn--".toList

/-- Ranges of characters that are left out of a label. -/
def silentRanges : List (Nat × Nat) :=
  [(173, 173), (847, 847), (6150, 6150), (6155, 6157), (8203, 8205), (8288, 8288), (65024, 65039),
    (65279, 65279)]

/-- Ranges of codes beyond ASCII that a label does not have. -/
def refusedRanges : List (Nat × Nat) :=
  [(128, 160), (832, 833), (1757, 1757), (1807, 1807), (5760, 5760), (6158, 6158), (8192, 8207),
    (8232, 8239), (8287, 8291), (8298, 8303), (12272, 12283), (12288, 12288), (55296, 63743),
    (64976, 65007), (65279, 65279), (65529, 65535), (119155, 119162), (917505, 917505),
    (917536, 917631), (983040, 1114111)]

/-- A code that a label does not have; among them are the last two of each plane. -/
def isRefused (n : Nat) : Bool :=
  refusedRanges.any (fun r => r.1 ≤ n && n ≤ r.2) || 0xFFFE ≤ n % 0x10000

/-- The letters that a letter in lower case is compared as: an iota below another letter stands beside
it, a final sigma is like any other. -/
def compared (n : Nat) : List Nat :=
  if n = 0x345 then [0x3B9]
  else if n = 0xDF then [0x73, 0x73]
  else if n = 0x3C2 then [0x3C3]
  else [n]

/-- Codes without regard to case, in normal form. -/
def folded (ns : List Nat) : List Nat :=
  let lowered := (Text.lower (String.ofList (ns.map Text.ofCode))).toList.map Text.code
  NormalForm.ofCodes ((lowered.flatMap (NormalForm.takeApart NormalForm.maxDepth)).flatMap compared)

/-- A character in its place in a label. The normal form of a small letter may have capitals, which is
why it is folded again. -/
def prepareChar (c : Char) : List Nat :=
  if Text.inRanges silentRanges c then [] else folded (folded [Text.code c])

/-- Letters of both directions do not stand in one label, and one with letters from the right to the left
begins and ends with such. -/
def hasOneDirection (cs : List Char) : Bool :=
  !cs.any Text.isLeftward ||
    (!cs.any Text.isRightward && cs.head?.any Text.isLeftward && cs.getLast?.any Text.isLeftward)

/-- A label prepared, if it is allowed. -/
def prepared? (cs : List Char) : Option (List Char) :=
  let codes := NormalForm.ofCodes (cs.flatMap prepareChar)
  let cs := codes.map Text.ofCode
  if codes.any isRefused || !hasOneDirection cs then none else some cs

/-- A prepared label in ASCII. One that only looks as if it was in Punycode is none. -/
def encoded? (cs : List Char) : Option (List Char) :=
  if isAscii cs then some cs
  else if mark.isPrefixOf cs then none
  else some (mark ++ Punycode.encode cs)

/-- A label in ASCII, if it is one. -/
def ascii? (cs : List Char) : Option (List Char) := do
  let cs ← if isAscii cs then some cs else (prepared? cs).bind encoded?
  if isLabel cs then some cs else none

end FacetSearch.HostLabel

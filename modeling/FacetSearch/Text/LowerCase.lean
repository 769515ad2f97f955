import FacetSearch.Text.CaseTable
import FacetSearch.Text.Ranges
/-!
# Lower case

The lower case of a text, letter by letter, with the two exceptions that Unicode makes: a capital I
with a dot becomes two characters, and a capital sigma at the end of a word becomes a final sigma.
-/

namespace FacetSearch.Text

/-- The lower case of a letter beyond ASCII, from the table. -/
def lowerBeyondAscii (n : Nat) : Nat :=
  match CaseTable.lowerRuns.find? fun (first, last, stride, _) =>
      first ≤ n && n ≤ last && (n - first) % stride == 0 with
  | some (first, _, _, lowered) => lowered + (n - first)
  | none => n

/-- The lower case of one character, wherever it stands. -/
def lowerChar (c : Char) : Char :=
  if c.toNat < 128 then c.toLower else Char.ofNat (lowerBeyondAscii c.toNat)

/-- A character with case. -/
def isCased (c : Char) : Bool :=
  if c.toNat < 128 then c.isAlpha else inRanges CaseTable.cased c

/-- A character that is passed over when a rule asks what stands next to a letter. -/
def isCaseIgnorable (c : Char) : Bool := inRanges CaseTable.ignorable c

/-- The next character that is not passed over has case. -/
def meetsCased (cs : List Char) : Bool :=
  match cs.dropWhile isCaseIgnorable with
  | [] => false
  | c :: _ => isCased c

/-- The lower case of the characters `rest`, of which `before` stand in front, nearest first. A
capital sigma is final if a letter stands before it and none after it. -/
def lowerFrom (before : List Char) : List Char → List Char
  | [] => []
  | c :: rest =>
    let lowered :=
      if c = 'Σ' then [if meetsCased before && !meetsCased rest then 'ς' else 'σ']
      else if c = 'İ' then ['i', '\u0307']
      else [lowerChar c]
    lowered ++ lowerFrom (c :: before) rest

/-- The text in lower case. -/
def lower (s : String) : String := String.ofList (lowerFrom [] s.toList)

end FacetSearch.Text

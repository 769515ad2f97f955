import FacetSearch.Text.CombiningClass
import FacetSearch.Text.Compatibility
import FacetSearch.Text.Composite
/-!
# The normal form of compatibility

Two spellings of a text that differ only in how its characters are put together, or in characters that
only stand for others, have one normal form: all characters are taken apart, the marks behind a letter
are put into the order of their classes, and letters are put together with the marks behind them.
Characters are given by their codes.
-/

namespace FacetSearch.NormalForm

/-- A code taken apart, and its parts so often again. -/
def takeApart : Nat → Nat → List Nat
  | depth + 1, n =>
    match Composite.parts? n with
    | some (first, second) => takeApart depth first ++ takeApart depth second
    | none => (Composite.syllableParts? n <|> Compatibility.image? n).getD [n]
  | 0, n => [n]

/-- How often composites consist of composites, at most. -/
def maxDepth : Nat := 4

/-- The code of a mark. -/
def isMark (n : Nat) : Bool := Text.combiningClass n != 0

/-- Codes with the marks in the order of their classes. -/
def ordered (ns : List Nat) : List Nat :=
  match ns with
  | [] => []
  | n :: rest =>
    if isMark n then
      ((n :: rest.takeWhile isMark).mergeSort fun a b => Text.combiningClass a ≤ Text.combiningClass b) ++
        ordered (rest.dropWhile isMark)
    else n :: ordered rest
  termination_by ns.length
  decreasing_by
    · have := (List.dropWhile_sublist isMark (l := rest)).length_le
      simp only [List.length_cons]
      omega
    · simp

/-- The letter `n` together with the marks that it takes up, and the codes that are left. A mark of the
class `last` stands between, or none if it is zero: marks of that class or a lower one are not reached,
nor are letters. -/
def takeUp (n last : Nat) : List Nat → Nat × List Nat
  | [] => (n, [])
  | m :: rest =>
    let c := Text.combiningClass m
    if last ≠ 0 ∧ c = 0 then (n, m :: rest)
    else if last ≠ 0 ∧ c ≤ last then
      let (composed, left) := takeUp n last rest
      (composed, m :: left)
    else
      match Composite.ofParts? n m with
      | some composed => takeUp composed last rest
      | none =>
        if c = 0 then (n, m :: rest)
        else
          let (composed, left) := takeUp n c rest
          (composed, m :: left)

theorem length_takeUp_le (n last : Nat) (ns : List Nat) : (takeUp n last ns).2.length ≤ ns.length := by
  induction ns generalizing n last with
  | nil => simp [takeUp]
  | cons m rest ih =>
    rw [takeUp]
    split
    · simp
    · split
      · simpa using ih n last
      · split
        · rename_i composed _
          have := ih composed last
          simp only [List.length_cons]
          omega
        · split
          · simp
          · simpa using ih n (Text.combiningClass m)

/-- The syllable that begins with two codes, and the codes behind it. -/
def syllable? (first : Nat) : List Nat → Option (Nat × List Nat)
  | [] => none
  | second :: rest => do
    let s ← Composite.openSyllable? first second
    match rest with
    | third :: rest' =>
      match Composite.closing? third with
      | some k => return (s + k, rest')
      | none => return (s, rest)
    | [] => return (s, [])

theorem length_syllable?_le {first s : Nat} {ns rest : List Nat} (h : syllable? first ns = some (s, rest)) :
    rest.length ≤ ns.length := by
  cases ns with
  | nil => simp [syllable?] at h
  | cons second tail =>
    cases ho : Composite.openSyllable? first second with
    | none => simp [syllable?, ho] at h
    | some o =>
      cases tail with
      | nil =>
        simp [syllable?, ho] at h
        simp [← h.2]
      | cons third tail =>
        cases hc : Composite.closing? third with
        | none =>
          simp [syllable?, ho, hc] at h
          simp [← h.2]
        | some k =>
          simp [syllable?, ho, hc] at h
          simp [← h.2]
          omega

/-- Codes with letters and marks put together. -/
def putTogether (ns : List Nat) : List Nat :=
  match ns with
  | [] => []
  | n :: rest =>
    match _h : syllable? n rest with
    | some (s, left) => s :: putTogether left
    | none =>
      let taken := takeUp n 0 rest
      taken.1 :: putTogether taken.2
  termination_by ns.length
  decreasing_by
    · have := length_syllable?_le _h
      simp only [List.length_cons]
      omega
    · exact Nat.lt_succ_of_le (length_takeUp_le n 0 rest)

/-- The normal form of codes. -/
def ofCodes (ns : List Nat) : List Nat := putTogether (ordered (ns.flatMap (takeApart maxDepth)))

end FacetSearch.NormalForm

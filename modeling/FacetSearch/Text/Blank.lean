import FacetSearch.Text.Ranges
/-!
# White space

White space is what Unicode calls so, together with the four separators `U+001C` to `U+001F`; a
zero-width space and a byte order mark are not white space. `strip` removes it from both ends:
nothing else is lost (`exists_strip`), and what is left neither starts nor ends with it.
-/

namespace FacetSearch.Text

/-- Ranges of white space. -/
def blankRanges : List (Nat × Nat) :=
  [(9, 13), (28, 32), (133, 133), (160, 160), (5760, 5760), (8192, 8202), (8232, 8233), (8239, 8239),
    (8287, 8287), (12288, 12288)]

/-- White space. -/
def isBlank (c : Char) : Bool := inRanges blankRanges c

/-- White space between which a number may stand: of the ASCII characters only the six common ones. -/
def isNumberBlank (c : Char) : Bool :=
  isBlank c && !(28 ≤ c.toNat && c.toNat ≤ 31)

/-- The list without the members at its end that satisfy `p`. -/
def dropEndWhile (p : Char → Bool) (cs : List Char) : List Char := (cs.reverse.dropWhile p).reverse

/-- The list without the members at either end that satisfy `p`. -/
def trim (p : Char → Bool) (cs : List Char) : List Char := dropEndWhile p (cs.dropWhile p)

/-- The characters without white space at either end. -/
def stripChars (cs : List Char) : List Char := trim isBlank cs

/-- The text without white space at either end. -/
def strip (s : String) : String := String.ofList (stripChars s.toList)

/-- There is nothing but white space. -/
def isBlankText (s : String) : Bool := s.toList.all isBlank

theorem exists_dropEndWhile (p : Char → Bool) (cs : List Char) :
    ∃ back, cs = dropEndWhile p cs ++ back ∧ ∀ c ∈ back, p c = true := by
  refine ⟨(cs.reverse.takeWhile p).reverse, ?_, ?_⟩
  · rw [dropEndWhile, ← List.reverse_append, List.takeWhile_append_dropWhile, List.reverse_reverse]
  · intro c hc
    exact List.all_eq_true.1 List.all_takeWhile c (List.mem_reverse.1 hc)

/-- Only white space is lost, and only at the ends. -/
theorem exists_strip (cs : List Char) :
    ∃ front back, cs = front ++ stripChars cs ++ back ∧
      (∀ c ∈ front, isBlank c = true) ∧ ∀ c ∈ back, isBlank c = true := by
  obtain ⟨back, hb, hblank⟩ := exists_dropEndWhile isBlank (cs.dropWhile isBlank)
  refine ⟨cs.takeWhile isBlank, back, ?_, ?_, hblank⟩
  · rw [List.append_assoc, stripChars, trim, ← hb, List.takeWhile_append_dropWhile]
  · exact fun c hc => List.all_eq_true.1 List.all_takeWhile c hc

end FacetSearch.Text

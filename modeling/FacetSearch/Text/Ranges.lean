/-!
# Character ranges
-/

namespace FacetSearch.Text

/-- The character's code lies in one of the ranges, ends included. -/
def inRanges (ranges : List (Nat × Nat)) (c : Char) : Bool :=
  ranges.any fun r => r.1 ≤ c.toNat && c.toNat ≤ r.2

end FacetSearch.Text

import FacetSearch.Number.Numeral
import FacetSearch.Value.Basic
/-!
# Numbers spelled by values

A binary64 number may be given as such, as a text or bytes that spell it, or as a decimal. Integers and
booleans are left to those who ask, because an integer may be too large for binary64.
-/

namespace FacetSearch.Value

/-- The binary64 number that a value is or spells. -/
def double? : Value → Option Double
  | .float d => some d
  | .text s => Numeral.double? s.toList
  | .bytes bs => Numeral.double? (Numeral.ofBytes bs)
  | .decimal d => some d.toDouble
  | _ => none

end FacetSearch.Value

/-!
# Match modes
-/

namespace FacetSearch

/-- How a literal of a tag group is matched against the path of a tag: it is the whole path, the
path or one above it, or a run of whole segments of it. -/
inductive MatchMode where
  | whole
  | subtree
  | word
  deriving DecidableEq, Repr

namespace MatchMode

/-- All modes in their order. -/
def all : List MatchMode := [whole, subtree, word]

/-- The name of a mode in criteria. -/
def name : MatchMode → String
  | whole => "exact"
  | subtree => "prefix"
  | word => "word"

/-- The mode with a name. -/
def ofName? (s : String) : Option MatchMode := all.find? fun m => m.name == s

end MatchMode

end FacetSearch

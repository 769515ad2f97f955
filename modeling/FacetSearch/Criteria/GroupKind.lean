/-!
# Kinds of groups
-/

namespace FacetSearch

/-- What the literals of a group are matched against: the tags of an entity or its attributes. -/
inductive GroupKind where
  | tags
  | attributes
  deriving DecidableEq, Repr

namespace GroupKind

/-- The name of a kind. -/
def name : GroupKind → String
  | tags => "tag"
  | attributes => "attribute"

/-- The member of criteria that holds the groups of a kind. -/
def member : GroupKind → String
  | tags => "tags"
  | attributes => "attributes"

end GroupKind

end FacetSearch

import FacetSearch.Criteria.NumericFilter
import FacetSearch.Value.Equality
/-!
# Criteria

What to search for, in normal form. Literals of a group are alternatives, and so are the values of a
column and the centres of a numeric filter; groups, columns and filters all have to be met.
-/

namespace FacetSearch

/-- Alternatives that one tag or attribute has to match. -/
abbrev Group := List String

/-- Criteria of one search. -/
structure Criteria where
  tagGroups : List Group
  attributeGroups : List Group
  columnFilters : List (String × List Value)
  numericFilters : List (String × NumericFilter)
  matchMode : Option MatchMode
  regexEnabled : Bool
  limit : Option Int

/-- There is no filter of any kind; a limit is not a filter. -/
def Criteria.isEmpty (c : Criteria) : Bool :=
  c.tagGroups.isEmpty && c.attributeGroups.isEmpty && c.columnFilters.isEmpty &&
    c.numericFilters.isEmpty

end FacetSearch

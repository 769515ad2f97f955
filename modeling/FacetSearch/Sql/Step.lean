import FacetSearch.Sql.Fragment
/-!
# Steps by which fragments are put together

A fragment is put together step by step, and a step may fail. What it leaves is where the next one goes on: text that does
not fit its parameters leaves everything as it was, and fragments that are joined are added one by one up to the first
that does not fit.
-/

namespace FacetSearch.Fragment

/-- A step by which a fragment is put together. -/
inductive Step where
  | append (text : String) (params : List Param)
  | extend (g : Fragment)
  | join (separator : String) (gs : List Fragment)

namespace Step

/-- What something was added to; if that failed, it is left as it was. -/
def kept (f : Fragment) : Except Error Fragment → Fragment × Option Error
  | .ok g => (g, none)
  | .error e => (f, some e)

/-- What a step leaves of a fragment, and the error that stopped it. -/
def apply (f : Fragment) : Step → Fragment × Option Error
  | append text params => kept f (f.append text params)
  | extend g => kept f (f.extend g)
  | join separator gs => f.joinReached separator gs

end Step

/-- What is left of a fragment after steps, whether they fail or not. -/
def assemble (f : Fragment) (steps : List Step) : Fragment := steps.foldl (fun f s => (s.apply f).1) f

end FacetSearch.Fragment

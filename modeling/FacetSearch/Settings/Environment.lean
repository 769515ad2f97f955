import FacetSearch.Error
import FacetSearch.Keyed
/-!
# Environments

Names with texts, as a process is started with them.
-/

namespace FacetSearch

/-- Names with their texts. -/
abbrev Environment := List (String × String)

namespace Environment

/-- The text of a name, if it is there and not empty. -/
def nonempty? (env : Environment) (name : String) : Option String :=
  (Keyed.get? env name).filter (· ≠ "")

/-- An entry that can be added: there is no zero character in it, and no equals sign in its name. -/
def entry (e : String × String) : Except Error (String × String) :=
  if e.1.toList.contains '\x00' || e.2.toList.contains '\x00' then .error (.value .zeroCharacter)
  else if e.1.toList.contains '=' then .error (.value .environmentName)
  else .ok e

/-- The environment with names that it does not have yet. -/
def addMissing (env : Environment) (entries : List (String × String)) : Environment :=
  entries.foldl (fun env (name, text) => if (Keyed.get? env name).isSome then env else env ++ [(name, text)])
    env

/-- Names that are there keep their texts. -/
theorem get?_addMissing (entries : List (String × String)) (env : Environment) {name text : String}
    (h : Keyed.get? env name = some text) : Keyed.get? (addMissing env entries) name = some text := by
  induction entries generalizing env with
  | nil => exact h
  | cons e es ih =>
    refine ih _ ?_
    dsimp only
    split
    · exact h
    · exact Keyed.get?_append_of_some _ h

end Environment

end FacetSearch

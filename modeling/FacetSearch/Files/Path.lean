import FacetSearch.Text.Split
/-!
# Paths

A path begins at the root or at the place where one is, and goes through the names between its slashes.
Empty names and single dots say nothing and are left out. Two dots stay, because where they lead depends
on the files. The path without names is written as a dot.
-/

namespace FacetSearch

/-- A path: how many slashes count at its beginning, none, one or two, and its names. -/
structure Path where
  slashes : Nat
  names : List String
  deriving DecidableEq

namespace Path

/-- The names in a text that say something. -/
def namesOf (s : String) : List String := (Text.split '/' s).filter fun p => p ≠ "" ∧ p ≠ "."

/-- The slashes that count at the beginning of a text: two only if there are exactly two. -/
def slashesOf (s : String) : Nat :=
  match (s.toList.takeWhile (· == '/')).length with
  | 0 => 0
  | 2 => 2
  | _ => 1

/-- The path that a text stands for. -/
def ofString (s : String) : Path := ⟨slashesOf s, namesOf s⟩

/-- A path as text. -/
def text (p : Path) : String :=
  let s := String.ofList (List.replicate p.slashes '/') ++ "/".intercalate p.names
  if s = "" then "." else s

/-- The path of a file in a directory; a path that begins at the root stays as it is. -/
def inside (directory file : Path) : Path :=
  if file.slashes = 0 then { directory with names := directory.names ++ file.names } else file

theorem inside_of_slashes {directory file : Path} (h : file.slashes ≠ 0) : inside directory file = file := by
  simp [inside, h]

theorem empty_notMem_namesOf (s : String) : "" ∉ namesOf s := by simp [namesOf]

theorem dot_notMem_namesOf (s : String) : "." ∉ namesOf s := by simp [namesOf]

end Path

end FacetSearch

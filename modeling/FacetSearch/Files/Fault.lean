import FacetSearch.Text.Quoted
/-!
# Faults of files

Why a file cannot be read or begun, or a directory not be made. All reasons but one have a number by
which systems know them; a path with the zero character is refused before a system sees it.
-/

namespace FacetSearch

/-- Why something cannot be done with a file or a directory. -/
inductive FileFault where
  | missing
  | exists
  | notDirectory
  | directory
  | nameTooLong
  | zeroCharacter
  deriving DecidableEq

namespace FileFault

/-- The reasons that have a number, with the number and the words for it. -/
def numbered : List (FileFault × Nat × String) :=
  [(missing, 2, "No such file or directory"), (.exists, 17, "File exists"),
    (notDirectory, 20, "Not a directory"), (directory, 21, "Is a directory"),
    (nameTooLong, 36, "File name too long")]

/-- The reason with a number. -/
def ofNumber? (n : Nat) : Option FileFault := (numbered.find? fun p => p.2.1 == n).map Prod.fst

/-- The words for a fault of the file at a path. -/
def message (f : FileFault) (path : String) : String :=
  match numbered.find? fun p => p.1 == f with
  | some (_, number, words) => "[Errno " ++ toString number ++ "] " ++ words ++ ": " ++ Text.quoted path
  | none => "embedded null byte"

theorem ofNumber?_of_mem {f : FileFault} {n : Nat} {words : String} (h : (f, n, words) ∈ numbered) :
    ofNumber? n = some f := by
  simp only [numbered, List.mem_cons, List.not_mem_nil, or_false, Prod.mk.injEq] at h
  rcases h with ⟨rfl, rfl, _⟩ | ⟨rfl, rfl, _⟩ | ⟨rfl, rfl, _⟩ | ⟨rfl, rfl, _⟩ | ⟨rfl, rfl, _⟩ <;> rfl

end FileFault

end FacetSearch

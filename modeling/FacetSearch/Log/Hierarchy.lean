/-!
# The hierarchy of names in a log

The names of parts have dots between their components, and what has no level of its own has that of the
nearest part around it. The parts around a name are found at its dots from the last one on; behind each
dot that is found the next character in front is passed over, so that of two dots that stand together
only the second is one.
-/

namespace FacetSearch.LogName

/-- The names around a name, nearest first. The characters are given from the last one on. -/
def aroundReversed (cs : List Char) : List (List Char) :=
  match _h : cs.dropWhile (· ≠ '.') with
  | _ :: c :: rest => (c :: rest).reverse :: aroundReversed rest
  | _ => []
  termination_by cs.length
  decreasing_by
    have := (List.dropWhile_sublist (· ≠ '.') (l := cs)).length_le
    simp_all
    omega

/-- The names around a name, nearest first. -/
def around (name : List Char) : List (List Char) := aroundReversed name.reverse

theorem length_lt_of_mem_aroundReversed {cs n : List Char} (h : n ∈ aroundReversed cs) :
    n.length < cs.length := by
  induction cs using aroundReversed.induct with
  | case1 cs d c rest hd ih =>
    have hl := (List.dropWhile_sublist (· ≠ '.') (l := cs)).length_le
    rw [hd] at hl
    rw [aroundReversed] at h
    split at h
    · rename_i heq
      rw [hd] at heq
      cases heq
      simp only [List.length_cons] at hl
      rcases List.mem_cons.1 h with rfl | hm
      · simp; omega
      · have := ih hm
        omega
    · cases h
  | case2 cs hd =>
    rw [aroundReversed] at h
    split at h
    · rename_i heq
      exact absurd heq (hd _ _ _)
    · cases h

/-- A name around another is shorter. -/
theorem length_lt_of_mem_around {name n : List Char} (h : n ∈ around name) : n.length < name.length := by
  simpa using length_lt_of_mem_aroundReversed h

/-- The first that a level is found for: the name itself, or the nearest name around it that is known,
and so on from there. -/
def level? (own : List Char → Option Int) (known : List Char → Bool) (name : List Char) : Option Int :=
  match own name with
  | some n => some n
  | none =>
    match _h : (around name).find? known with
    | some n => level? own known n
    | none => none
  termination_by name.length
  decreasing_by exact length_lt_of_mem_around (List.mem_of_find?_eq_some ‹_›)

end FacetSearch.LogName

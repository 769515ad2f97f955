/-!
# Splitting

A text is split at every occurrence of a character or at the first one. Put together again with the
character in between, the parts give the text back (`join_splitChars`, `eq_of_splitFirst`), and no part
holds the character (`notMem_of_mem_splitChars`, `notMem_of_splitFirst`). Parts that do not hold the
character are found again where it stands between them (`splitChars_append`, `splitFirst_append`).
-/

namespace FacetSearch.Text

/-- The parts between the occurrences of a character; there is at least one. -/
def splitChars (sep : Char) : List Char → List (List Char)
  | [] => [[]]
  | c :: cs =>
    if c = sep then [] :: splitChars sep cs
    else match splitChars sep cs with
      | p :: ps => (c :: p) :: ps
      | [] => [[c]]

/-- The parts of a text between the occurrences of a character. -/
def split (sep : Char) (s : String) : List String := (splitChars sep s.toList).map String.ofList

/-- What stands before and behind the first occurrence of a character. -/
def splitFirst (sep : Char) : List Char → Option (List Char × List Char)
  | [] => none
  | c :: cs =>
    if c = sep then some ([], cs)
    else (splitFirst sep cs).map fun (before, behind) => (c :: before, behind)

/-- The texts before and behind the first occurrence of a character. -/
def splitOnce (sep : Char) (s : String) : Option (String × String) :=
  (splitFirst sep s.toList).map fun (before, behind) => (String.ofList before, String.ofList behind)

theorem splitChars_ne_nil (sep : Char) (cs : List Char) : splitChars sep cs ≠ [] := by
  cases cs with
  | nil => simp [splitChars]
  | cons c cs =>
    simp only [splitChars]
    split
    · simp
    · split <;> simp

theorem join_splitChars (sep : Char) (cs : List Char) :
    [sep].intercalate (splitChars sep cs) = cs := by
  induction cs with
  | nil => rfl
  | cons c cs ih =>
    simp only [splitChars]
    cases h : splitChars sep cs with
    | nil => exact absurd h (splitChars_ne_nil sep cs)
    | cons p ps =>
      rw [h] at ih
      split
      · rename_i hc
        rw [List.intercalate_cons_cons, ih, hc]
        rfl
      · cases ps with
        | nil => simpa using ih
        | cons q qs =>
          rw [List.intercalate_cons_cons] at ih ⊢
          rw [← ih]
          rfl

theorem notMem_of_mem_splitChars {sep : Char} {cs p : List Char} (h : p ∈ splitChars sep cs) :
    sep ∉ p := by
  induction cs generalizing p with
  | nil => simp_all [splitChars]
  | cons c cs ih =>
    simp only [splitChars] at h
    split at h
    · rcases List.mem_cons.1 h with rfl | h
      · simp
      · exact ih h
    · rename_i hc
      split at h
      · rename_i q qs hq
        rcases List.mem_cons.1 h with rfl | h
        · exact fun hs => (List.mem_cons.1 hs).elim (fun e => hc e.symm) (ih (by simp [hq]))
        · exact ih (by simp [hq, h])
      · rw [List.mem_singleton.1 h]
        exact fun hs => hc (List.mem_singleton.1 hs).symm

theorem splitChars_of_notMem {sep : Char} {cs : List Char} (h : sep ∉ cs) : splitChars sep cs = [cs] := by
  induction cs with
  | nil => rfl
  | cons c cs ih =>
    rw [List.mem_cons, not_or] at h
    rw [splitChars, if_neg (Ne.symm h.1), ih h.2]

theorem splitChars_append {sep : Char} {before : List Char} (h : sep ∉ before) (behind : List Char) :
    splitChars sep (before ++ sep :: behind) = before :: splitChars sep behind := by
  induction before with
  | nil => rw [List.nil_append, splitChars, if_pos rfl]
  | cons c before ih =>
    rw [List.mem_cons, not_or] at h
    rw [List.cons_append, splitChars, if_neg (Ne.symm h.1), ih h.2]

theorem eq_of_splitFirst {sep : Char} {cs before behind : List Char}
    (h : splitFirst sep cs = some (before, behind)) : cs = before ++ sep :: behind := by
  induction cs generalizing before with
  | nil => simp [splitFirst] at h
  | cons c cs ih =>
    simp only [splitFirst] at h
    split at h
    · simp_all
    · obtain ⟨⟨b, r⟩, hr, he⟩ := Option.map_eq_some_iff.1 h
      simp only [Prod.mk.injEq] at he
      obtain ⟨rfl, rfl⟩ := he
      rw [ih hr]
      rfl

theorem notMem_of_splitFirst {sep : Char} {cs before behind : List Char}
    (h : splitFirst sep cs = some (before, behind)) : sep ∉ before := by
  induction cs generalizing before with
  | nil => simp [splitFirst] at h
  | cons c cs ih =>
    simp only [splitFirst] at h
    split at h
    · simp_all
    · rename_i hc
      obtain ⟨⟨b, r⟩, hr, he⟩ := Option.map_eq_some_iff.1 h
      simp only [Prod.mk.injEq] at he
      obtain ⟨rfl, rfl⟩ := he
      exact fun hs => (List.mem_cons.1 hs).elim (fun e => hc e.symm) (ih hr)

theorem splitFirst_append {sep : Char} {before : List Char} (h : sep ∉ before) (behind : List Char) :
    splitFirst sep (before ++ sep :: behind) = some (before, behind) := by
  induction before with
  | nil => simp [splitFirst]
  | cons c before ih =>
    rw [List.mem_cons, not_or] at h
    rw [List.cons_append, splitFirst, if_neg (Ne.symm h.1), ih h.2, Option.map_some]

end FacetSearch.Text

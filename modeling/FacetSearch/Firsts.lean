/-!
# First members

`firstsBy same` keeps of members that are the same the first one: every member is the same as one
that is kept (`exists_mem_firstsBy`), and nothing is added (`mem_of_mem_firstsBy`).
-/

namespace FacetSearch

variable {α : Type}

/-- The members after `seen` that are not the same as an earlier one, behind `seen`. -/
def firstsAfter (same : α → α → Bool) (seen : List α) : List α → List α
  | [] => seen
  | a :: as => firstsAfter same (if seen.any (same · a) then seen else seen ++ [a]) as

/-- The members that are not the same as an earlier one, in their order. -/
def firstsBy (same : α → α → Bool) (as : List α) : List α := firstsAfter same [] as

theorem subset_firstsAfter (same : α → α → Bool) (seen as : List α) :
    ∀ a ∈ seen, a ∈ firstsAfter same seen as := by
  induction as generalizing seen with
  | nil => exact fun a h => h
  | cons b as ih =>
    intro a h
    refine ih _ a ?_
    split
    · exact h
    · exact List.mem_append_left _ h

theorem mem_of_mem_firstsAfter (same : α → α → Bool) (seen as : List α) :
    ∀ a ∈ firstsAfter same seen as, a ∈ seen ∨ a ∈ as := by
  induction as generalizing seen with
  | nil => exact fun a h => .inl h
  | cons b as ih =>
    intro a h
    rcases ih _ a h with h | h
    · split at h
      · exact .inl h
      · rcases List.mem_append.1 h with h | h
        · exact .inl h
        · exact .inr (List.mem_singleton.1 h ▸ List.mem_cons_self)
    · exact .inr (List.mem_cons_of_mem _ h)

theorem exists_mem_firstsAfter {same : α → α → Bool} (seen : List α) {as : List α}
    (hrefl : ∀ a ∈ as, same a a = true) : ∀ a ∈ as, ∃ b ∈ firstsAfter same seen as, same b a = true := by
  induction as generalizing seen with
  | nil => simp
  | cons c as ih =>
    intro a h
    rcases List.mem_cons.1 h with rfl | h
    · simp only [firstsAfter]
      split
      · rename_i hs
        obtain ⟨b, hb, hsame⟩ := List.any_eq_true.1 hs
        exact ⟨b, subset_firstsAfter same _ _ b hb, hsame⟩
      · exact ⟨a, subset_firstsAfter same _ _ a (by simp), hrefl a h⟩
    · exact ih _ (fun a h => hrefl a (List.mem_cons_of_mem _ h)) a h

theorem mem_of_mem_firstsBy {same : α → α → Bool} {as : List α} {a : α} (h : a ∈ firstsBy same as) :
    a ∈ as := by
  rcases mem_of_mem_firstsAfter same [] as a h with h | h
  · simp at h
  · exact h

theorem exists_mem_firstsBy_of_refl {same : α → α → Bool} {as : List α} (hrefl : ∀ a ∈ as, same a a = true)
    {a : α} (h : a ∈ as) : ∃ b ∈ firstsBy same as, same b a = true :=
  exists_mem_firstsAfter [] hrefl a h

theorem exists_mem_firstsBy {same : α → α → Bool} (hrefl : ∀ a, same a a = true) {as : List α} {a : α}
    (h : a ∈ as) : ∃ b ∈ firstsBy same as, same b a = true :=
  exists_mem_firstsBy_of_refl (fun a _ => hrefl a) h

end FacetSearch

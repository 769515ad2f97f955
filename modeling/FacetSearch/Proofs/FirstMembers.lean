import FacetSearch.Firsts
import Mathlib.Data.List.Induction
import Mathlib.Data.List.Pairwise
/-!
# The first of equal members

What is kept of members is compared with those that are kept already only. If being the same is reflexive and transitive this
comes to keeping the members to which no earlier one is the same (`firstsBy_eq_newMembers`). No two of them are the same
(`pairwise_firstsBy`), so that they are kept once more (`firstsBy_firstsBy`), and if being the same is symmetric too, each
member is the same as just one of them (`keepsFirst_firstsBy`).
-/

namespace FacetSearch

variable {α β : Type}

/-- The members to which no earlier one is the same, in their order. -/
def newMembers (same : α → α → Bool) (as : List α) : List α :=
  (as.zipIdx.filter fun p => !(as.take p.2).any (same · p.1)).map Prod.fst

/-- Of members that are the same the first is kept, and no other, in the order in which they were given. -/
structure KeepsFirst (same : α → α → Bool) (given kept : List α) : Prop where
  inOrder : kept = newMembers same given
  once : ∀ a ∈ given, kept.countP (same · a) = 1

variable {same : α → α → Bool}

theorem sublist_newMembers (same : α → α → Bool) (as : List α) : (newMembers same as).Sublist as := by
  have h := (List.filter_sublist (p := fun p => !(as.take p.2).any (same · p.1)) (l := as.zipIdx)).map Prod.fst
  rwa [List.zipIdx_map_fst] at h

/-- A last member is new if it is the same as no other. -/
theorem newMembers_concat (as : List α) (a : α) :
    newMembers same (as ++ [a]) = newMembers same as ++ if as.any (same · a) then [] else [a] := by
  have hfront : as.zipIdx.filter (fun p => !((as ++ [a]).take p.2).any (same · p.1)) =
      as.zipIdx.filter fun p => !(as.take p.2).any (same · p.1) := by
    refine List.filter_congr fun p hp => ?_
    have hlength : p.2 ≤ as.length := by
      have := (List.mem_zipIdx hp).2.1
      omega
    rw [List.take_append_of_le_length hlength]
  rw [newMembers, List.zipIdx_append, List.filter_append, List.map_append, hfront, newMembers]
  congr 1
  rw [List.zipIdx_singleton, Nat.zero_add, List.filter_cons, List.filter_nil, List.take_left]
  cases as.any (same · a) <;> rfl

/-! ## What is kept -/

section

variable (hrefl : ∀ a, same a a = true) (htrans : ∀ {a b c}, same a b = true → same b c = true → same a c = true)

include hrefl htrans

/-- For every member there is a new one that is the same. -/
theorem exists_newMember {as : List α} {a : α} (h : a ∈ as) : ∃ b ∈ newMembers same as, same b a = true := by
  induction as using List.reverseRecOn generalizing a with
  | nil => cases h
  | append_singleton as x ih =>
    rw [newMembers_concat]
    rcases List.mem_append.1 h with h | h
    · obtain ⟨b, hb, hba⟩ := ih h
      exact ⟨b, List.mem_append_left _ hb, hba⟩
    · obtain rfl := List.mem_singleton.1 h
      split
      · rename_i hany
        obtain ⟨c, hc, hca⟩ := List.any_eq_true.1 hany
        obtain ⟨b, hb, hbc⟩ := ih hc
        exact ⟨b, List.mem_append_left _ hb, htrans hbc hca⟩
      · exact ⟨a, List.mem_append_right _ List.mem_cons_self, hrefl a⟩

/-- What is the same as some member is the same as a new one. -/
theorem any_newMembers (as : List α) (a : α) : (newMembers same as).any (same · a) = as.any (same · a) := by
  rw [Bool.eq_iff_iff, List.any_eq_true, List.any_eq_true]
  constructor
  · rintro ⟨b, hb, hba⟩
    exact ⟨b, (sublist_newMembers same as).subset hb, hba⟩
  · rintro ⟨b, hb, hba⟩
    obtain ⟨c, hc, hcb⟩ := exists_newMember hrefl htrans hb
    exact ⟨c, hc, htrans hcb hba⟩

theorem firstsAfter_newMembers (front as : List α) :
    firstsAfter same (newMembers same front) as = newMembers same (front ++ as) := by
  induction as generalizing front with
  | nil => rw [firstsAfter, List.append_nil]
  | cons a as ih =>
    have hnext : (if (newMembers same front).any (same · a) then newMembers same front else newMembers same front ++ [a]) =
        newMembers same (front ++ [a]) := by
      rw [any_newMembers hrefl htrans, newMembers_concat]
      split
      · rw [List.append_nil]
      · rfl
    rw [firstsAfter, hnext, ih, List.append_assoc, List.singleton_append]

/-- The members that are kept are those that are the same as no earlier one. -/
theorem firstsBy_eq_newMembers (as : List α) : firstsBy same as = newMembers same as :=
  firstsAfter_newMembers hrefl htrans [] as

end

theorem pairwise_firstsAfter {seen : List α} (h : seen.Pairwise fun a b => same a b = false) (as : List α) :
    (firstsAfter same seen as).Pairwise fun a b => same a b = false := by
  induction as generalizing seen with
  | nil => exact h
  | cons a as ih =>
    refine ih ?_
    split
    · exact h
    · rename_i hany
      refine List.pairwise_append.2 ⟨h, List.pairwise_singleton _ _, fun b hb c hc => ?_⟩
      obtain rfl := List.mem_singleton.1 hc
      simp only [List.any_eq_true, not_exists, not_and, Bool.not_eq_true] at hany
      exact hany b hb

/-- No member that is kept is the same as a later one. -/
theorem pairwise_firstsBy (same : α → α → Bool) (as : List α) :
    (firstsBy same as).Pairwise fun a b => same a b = false := pairwise_firstsAfter List.Pairwise.nil as

theorem firstsAfter_of_pairwise {seen as : List α} (h : (seen ++ as).Pairwise fun a b => same a b = false) :
    firstsAfter same seen as = seen ++ as := by
  induction as generalizing seen with
  | nil => rw [firstsAfter, List.append_nil]
  | cons a as ih =>
    have hany : seen.any (same · a) = false := by
      rw [List.any_eq_false]
      intro b hb
      rw [(List.pairwise_append.1 h).2.2 b hb a List.mem_cons_self]
      exact Bool.false_ne_true
    rw [firstsAfter, hany, if_neg Bool.false_ne_true, ih (by rwa [List.append_assoc]), List.append_assoc,
      List.singleton_append]

/-- All members are kept if none is the same as a later one. -/
theorem firstsBy_of_pairwise {as : List α} (h : as.Pairwise fun a b => same a b = false) : firstsBy same as = as :=
  firstsAfter_of_pairwise h

/-- What is kept is kept again. -/
theorem firstsBy_firstsBy (same : α → α → Bool) (as : List α) : firstsBy same (firstsBy same as) = firstsBy same as :=
  firstsBy_of_pairwise (pairwise_firstsBy same as)

theorem firstsAfter_map {same' : β → β → Bool} {f : α → β} (h : ∀ a b, same' (f a) (f b) = same a b) (seen as : List α) :
    firstsAfter same' (seen.map f) (as.map f) = (firstsAfter same seen as).map f := by
  induction as generalizing seen with
  | nil => rfl
  | cons a as ih =>
    have hnext : (if (seen.map f).any (same' · (f a)) then seen.map f else seen.map f ++ [f a]) =
        (if seen.any (same · a) then seen else seen ++ [a]).map f := by
      rw [List.any_map, apply_ite (List.map f), List.map_append, List.map_singleton]
      simp only [Function.comp_def, h]
    rw [List.map_cons, firstsAfter, hnext, ih, firstsAfter]

theorem firstsBy_map {same' : β → β → Bool} {f : α → β} (h : ∀ a b, same' (f a) (f b) = same a b) (as : List α) :
    firstsBy same' (as.map f) = (firstsBy same as).map f := firstsAfter_map h [] as

/-- Of members that are the same the first is kept, where being the same is an equivalence on them. -/
theorem keepsFirst_firstsBy (hrefl : ∀ a, same a a = true)
    (htrans : ∀ {a b c}, same a b = true → same b c = true → same a c = true) {as : List α}
    (hsymm : ∀ a ∈ as, ∀ b, same a b = true → same b a = true) : KeepsFirst same as (firstsBy same as) where
  inOrder := firstsBy_eq_newMembers hrefl htrans as
  once a ha := by
    obtain ⟨b, hb, hba⟩ := exists_mem_firstsBy hrefl ha
    have hpos : 0 < (firstsBy same as).countP (same · a) := List.countP_pos_iff.2 ⟨b, hb, hba⟩
    have hle : (firstsBy same as).countP (same · a) ≤ 1 := by
      rw [List.countP_eq_length_filter]
      have hpairwise := (pairwise_firstsBy same as).filter (same · a)
      have hmem : ∀ x ∈ (firstsBy same as).filter (same · a), x ∈ as ∧ same x a = true := fun x hx =>
        ⟨mem_of_mem_firstsBy (List.mem_filter.1 hx).1, (List.mem_filter.1 hx).2⟩
      match hkept : (firstsBy same as).filter (same · a) with
      | [] => simp
      | [x] => simp
      | x :: y :: rest =>
        -- two that are the same as one member are the same as each other
        rw [hkept] at hpairwise hmem
        have hxy := (List.pairwise_cons.1 hpairwise).1 y List.mem_cons_self
        obtain ⟨-, hxa⟩ := hmem x List.mem_cons_self
        obtain ⟨hy, hya⟩ := hmem y (List.mem_cons_of_mem _ List.mem_cons_self)
        rw [htrans hxa (hsymm y hy a hya)] at hxy
        cases hxy
    omega

end FacetSearch

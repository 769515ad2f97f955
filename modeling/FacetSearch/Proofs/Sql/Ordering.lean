import FacetSearch.Proofs.Sql.Meaning
/-!
# Rows in order

What comes of `ORDER BY`. A server that puts all values in one order (`Server.Orders`) puts lists of values in order
by the first that differ (`inOrder_total`, `inOrder_trans`), so sorted rows are in order, each with all that come after
it (`Server.Orders.pairwise_mergeSort`). Where frames are made of something simpler, that can be sorted in their place
(`arranged_map`).
-/

namespace FacetSearch.Sql

/-- The server puts all values in one order, and integers in theirs. -/
structure Server.Orders (s : Server) : Prop where
  total : ∀ a b, s.atMost a b = true ∨ s.atMost b a = true
  trans : ∀ a b c, s.atMost a b = true → s.atMost b c = true → s.atMost a c = true
  int : ∀ m n : Int, s.atMost (.int m) (.int n) = decide (m ≤ n)

namespace Server

variable {s : Server}

theorem inOrder_cons {a b : Value} {as bs : List Value} : s.inOrder (a :: as) (b :: bs) = true ↔
    s.atMost a b = true ∧ (s.atMost b a = true → s.inOrder as bs = true) := by
  rw [inOrder, less]
  cases s.atMost a b <;> cases s.atMost b a <;> simp

theorem inOrder_one {a b : Value} : s.inOrder [a] [b] = true ↔ s.atMost a b = true := by
  rw [inOrder_cons]
  exact and_iff_left fun _ => rfl

theorem inOrder_two {a b c d : Value} : s.inOrder [a, c] [b, d] = true ↔
    s.atMost a b = true ∧ (s.atMost b a = true → s.atMost c d = true) := by
  rw [inOrder_cons, inOrder_one]

namespace Orders

variable (h : s.Orders)

include h

theorem less_int (m n : Int) : s.less (.int m) (.int n) = true ↔ m < n := by
  rw [less, h.int, h.int, Bool.and_eq_true, Bool.not_eq_true', decide_eq_true_iff, decide_eq_false_iff_not]
  omega

theorem inOrder_total (as bs : List Value) : s.inOrder as bs = true ∨ s.inOrder bs as = true := by
  induction as generalizing bs with
  | nil => exact .inl (by simp [inOrder])
  | cons a as ih =>
    cases bs with
    | nil => exact .inl rfl
    | cons b bs =>
      rw [inOrder_cons, inOrder_cons]
      -- where both heads are at most the other, their tails decide
      by_cases hab : s.atMost a b = true
      · by_cases hba : s.atMost b a = true
        · rcases ih bs with hs | hs
          · exact .inl ⟨hab, fun _ => hs⟩
          · exact .inr ⟨hba, fun _ => hs⟩
        · exact .inl ⟨hab, fun hba' => absurd hba' hba⟩
      · have hba := (h.total a b).resolve_left hab
        exact .inr ⟨hba, fun hab' => absurd hab' hab⟩

theorem inOrder_trans {as bs cs : List Value} (hb : as.length = bs.length) (hc : bs.length = cs.length)
    (hab : s.inOrder as bs = true) (hbc : s.inOrder bs cs = true) : s.inOrder as cs = true := by
  induction as generalizing bs cs with
  | nil => simp [inOrder]
  | cons a as ih =>
    cases bs with
    | nil => cases hb
    | cons b bs =>
      cases cs with
      | nil => cases hc
      | cons c cs =>
        obtain ⟨hab, htails⟩ := inOrder_cons.1 hab
        obtain ⟨hbc, htails'⟩ := inOrder_cons.1 hbc
        refine inOrder_cons.2 ⟨h.trans a b c hab hbc, fun hca => ?_⟩
        exact ih (Nat.succ.inj hb) (Nat.succ.inj hc) (htails (h.trans b c a hbc hca)) (htails' (h.trans c a b hca hab))

/-- Sorted by as many values each, all are in order. -/
theorem pairwise_mergeSort {α : Type} {key : α → List Value} {n : Nat} (hkey : ∀ a, (key a).length = n) (as : List α) :
    (as.mergeSort fun a b => s.inOrder (key a) (key b)).Pairwise fun a b => s.inOrder (key a) (key b) = true := by
  refine List.pairwise_mergeSort (fun a b c => ?_) (fun a b => ?_) as
  · exact h.inOrder_trans ((hkey a).trans (hkey b).symm) ((hkey b).trans (hkey c).symm)
  · rw [Bool.or_eq_true]
    exact h.inOrder_total _ _

end Orders

end Server

/-- Frames that are made of something are arranged as it is. -/
theorem arranged_map {α : Type} (s : Server) (outer : Scope) {order : List Term} (hne : order ≠ []) (f : α → Scope)
    (key : α → List Value) (as : List α) (hkey : ∀ a ∈ as, order.map (Term.eval s (f a ++ outer)) = key a) :
    arranged s outer order (as.map f) = (as.mergeSort fun a b => s.inOrder (key a) (key b)).map f := by
  have horder : order.isEmpty = false := by simpa using hne
  rw [arranged, horder, if_neg (by simp)]
  refine (List.map_mergeSort fun a ha b hb => ?_).symm
  rw [hkey a ha, hkey b hb]

end FacetSearch.Sql

/-!
# Insertion into runs

A list is put into order by a relation that says which of two members comes first: the members that
stand in order at its start are kept, or turned round if they stand in the opposite order, and every
further member is inserted by halving. If the relation orders all members, this is sorting, and members
of one rank keep their order. If it does not, as between numbers and a NaN, the answer still depends on
the list alone.
-/

namespace FacetSearch

variable {α : Type}

/-- The members that go on in steps of a kind after `last`, and those behind them. -/
def runAfter (step : α → α → Bool) (last : α) : List α → List α × List α
  | [] => ([], [])
  | a :: as =>
    if step last a then
      let (run, rest) := runAfter step a as
      (a :: run, rest)
    else ([], a :: as)

/-- The members that stand in order at the start of a list, in order, and the others. -/
def firstRun (before : α → α → Bool) : List α → List α × List α
  | [] => ([], [])
  | [a] => ([a], [])
  | a :: b :: as =>
    if before b a then
      let (run, rest) := runAfter (fun last next => before next last) b as
      ((a :: b :: run).reverse, rest)
    else
      let (run, rest) := runAfter (fun last next => !before next last) b as
      (a :: b :: run, rest)

/-- The place of a new member among those from place `low` to place `high`, found by halving. -/
def placeOf (before : α → α → Bool) (new : α) (members : List α) (low high : Nat) : Nat :=
  if _h : low < high then
    let middle := low + (high - low) / 2
    match members[middle]? with
    | some m =>
      if before new m then placeOf before new members low middle
      else placeOf before new members (middle + 1) high
    | none => low
  else low
  termination_by high - low
  decreasing_by all_goals omega

/-- The members with a new one at its place. -/
def insertByHalving (before : α → α → Bool) (members : List α) (new : α) : List α :=
  members.insertIdx (placeOf before new members 0 members.length) new

/-- The list in order. -/
def inOrder (before : α → α → Bool) (as : List α) : List α :=
  let (run, rest) := firstRun before as
  rest.foldl (insertByHalving before) run

theorem mem_runAfter (step : α → α → Bool) (last a : α) (as : List α) :
    a ∈ as ↔ a ∈ (runAfter step last as).1 ∨ a ∈ (runAfter step last as).2 := by
  induction as generalizing last with
  | nil => simp [runAfter]
  | cons b as ih =>
    simp only [runAfter]
    split
    · simp only [List.mem_cons, ih b, or_assoc]
    · simp

theorem mem_firstRun (before : α → α → Bool) (a : α) (as : List α) :
    a ∈ as ↔ a ∈ (firstRun before as).1 ∨ a ∈ (firstRun before as).2 := by
  match as with
  | [] => simp [firstRun]
  | [b] => simp [firstRun]
  | b :: c :: as =>
    simp only [firstRun]
    split
    · simp only [List.mem_reverse, List.mem_cons, mem_runAfter (fun l n => before n l) c a as, or_assoc]
    · simp only [List.mem_cons, mem_runAfter (fun l n => !before n l) c a as, or_assoc]

theorem placeOf_le (before : α → α → Bool) (new : α) (members : List α) (low high : Nat)
    (h : low ≤ high) : placeOf before new members low high ≤ high := by
  fun_induction placeOf before new members low high with
  | case1 low high hlt middle m hm hb ih => exact Nat.le_trans (ih (by omega)) (by omega)
  | case2 low high hlt middle m hm hb ih => exact ih (by omega)
  | case3 low high hlt middle hm => exact h
  | case4 low high hlt => exact h

/-- Putting in order neither adds nor loses a member. -/
theorem mem_inOrder (before : α → α → Bool) (a : α) (as : List α) : a ∈ inOrder before as ↔ a ∈ as := by
  have step : ∀ (rest run : List α),
      a ∈ rest.foldl (insertByHalving before) run ↔ a ∈ run ∨ a ∈ rest := by
    intro rest
    induction rest with
    | nil => simp
    | cons b rest ih =>
      intro run
      rw [List.foldl_cons, ih, insertByHalving,
        List.mem_insertIdx (placeOf_le before b run 0 run.length (Nat.zero_le _))]
      simp only [List.mem_cons, or_assoc, or_left_comm]
  rw [mem_firstRun before a as]
  exact step _ _

end FacetSearch

/-!
# Keyed lists

A list of pairs that is looked up by the first component and keeps the order in which keys were first
put. `put` changes what is found under its key (`get?_put_self`) and nothing else (`get?_put_of_ne`).
-/

namespace FacetSearch.Keyed

variable {α β : Type} [DecidableEq α]

/-- What stands under a key. -/
def get? : List (α × β) → α → Option β
  | [], _ => none
  | (k, b) :: es, key => if k = key then some b else get? es key

/-- The list after a key is given a value. A key that is there keeps its place. -/
def put : List (α × β) → α → β → List (α × β)
  | [], key, b => [(key, b)]
  | (k, c) :: es, key, b => if k = key then (k, b) :: es else (k, c) :: put es key b

/-- The list after all pairs are put in their order. -/
def ofList (pairs : List (α × β)) : List (α × β) := pairs.foldl (fun es p => put es p.1 p.2) []

theorem get?_put_self (es : List (α × β)) (key : α) (b : β) : get? (put es key b) key = some b := by
  induction es with
  | nil => simp [put, get?]
  | cons e es ih =>
    obtain ⟨k, c⟩ := e
    by_cases h : k = key <;> simp [put, get?, h, ih]

theorem get?_put_of_ne (es : List (α × β)) {key other : α} (b : β) (h : key ≠ other) :
    get? (put es key b) other = get? es other := by
  induction es with
  | nil => simp [put, get?, h]
  | cons e es ih =>
    obtain ⟨k, c⟩ := e
    by_cases hk : k = key
    · subst hk
      simp [put, get?, h]
    · simp [put, get?, hk, ih]

theorem get?_append_of_some {es : List (α × β)} (fs : List (α × β)) {key : α} {b : β}
    (h : get? es key = some b) : get? (es ++ fs) key = some b := by
  induction es with
  | nil => simp [get?] at h
  | cons e es ih =>
    obtain ⟨k, c⟩ := e
    by_cases hk : k = key
    · simpa [get?, hk] using h
    · simp only [get?, hk, if_false, List.cons_append] at h ⊢
      exact ih h

end FacetSearch.Keyed

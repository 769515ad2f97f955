import FacetSearch.Error
import Mathlib.Data.List.Forall2
/-!
# Outcomes

What a chain of steps answers is read off its steps: `bind_eq_ok` and `mapM_eq_ok` say when it
succeeds, `Yields` that what it answers then has a property, and `FailsOnly` that it fails in certain ways only. Every
chain inherits the last two from its steps.
-/

namespace FacetSearch

variable {ε α β : Type}

theorem bind_eq_ok {x : Except ε α} {f : α → Except ε β} {b : β} :
    (x >>= f) = .ok b ↔ ∃ a, x = .ok a ∧ f a = .ok b := by
  cases x with
  | ok a => simp [bind, Except.bind]
  | error e => simp [bind, Except.bind]

theorem bind_eq_error {x : Except ε α} {f : α → Except ε β} {e : ε} :
    (x >>= f) = .error e ↔ x = .error e ∨ ∃ a, x = .ok a ∧ f a = .error e := by
  cases x with
  | ok a => simp [bind, Except.bind]
  | error e' => simp [bind, Except.bind]

theorem pure_eq_ok {a b : α} : (pure a : Except ε α) = .ok b ↔ a = b := by
  simp [pure, Except.pure]

/-- What is missing is an error. -/
theorem elim_eq_ok {x : Option α} {e : ε} {a : α} : (x.elim (.error e) .ok : Except ε α) = .ok a ↔ x = some a := by
  cases x with
  | none => simp
  | some b => simp

theorem toOption_eq_some {x : Except ε α} {a : α} : x.toOption = some a ↔ x = .ok a := by
  cases x with
  | ok b => simp [Except.toOption]
  | error e => simp [Except.toOption]

/-- Each member has its own answer. -/
theorem mapM_eq_ok {f : α → Except ε β} {as : List α} {bs : List β} :
    as.mapM f = .ok bs ↔ List.Forall₂ (fun a b => f a = .ok b) as bs := by
  induction as generalizing bs with
  | nil => simp [pure, Except.pure, eq_comm]
  | cons a as ih =>
    simp only [List.mapM_cons, bind_eq_ok, pure_eq_ok, ih, List.forall₂_cons_left_iff]
    constructor
    · rintro ⟨b, hb, bs', hbs, rfl⟩
      exact ⟨b, bs', hb, hbs, rfl⟩
    · rintro ⟨b, bs', hb, hbs, rfl⟩
      exact ⟨b, hb, bs', hbs, rfl⟩

/-- If each member has an answer, there is a list of answers. -/
theorem exists_forall₂ {R : α → β → Prop} {as : List α} (h : ∀ a ∈ as, ∃ b, R a b) : ∃ bs, List.Forall₂ R as bs := by
  induction as with
  | nil => exact ⟨[], .nil⟩
  | cons a as ih =>
    obtain ⟨b, hb⟩ := h a List.mem_cons_self
    obtain ⟨bs, hbs⟩ := ih fun x hx => h x (List.mem_cons_of_mem a hx)
    exact ⟨b :: bs, .cons hb hbs⟩

theorem exists_mapM {f : α → Except ε β} {as : List α} (h : ∀ a ∈ as, ∃ b, f a = .ok b) : ∃ bs, as.mapM f = .ok bs := by
  obtain ⟨bs, hbs⟩ := exists_forall₂ h
  exact ⟨bs, mapM_eq_ok.2 hbs⟩

/-- Members that are read as what they were made of are read as that all together. -/
theorem mapM_map_eq_ok {read : β → Except ε α} {write : α → β} {as : List α} (h : ∀ a ∈ as, read (write a) = .ok a) :
    (as.map write).mapM read = .ok as :=
  mapM_eq_ok.2 (List.forall₂_map_left_iff.2 (List.forall₂_same.2 h))

/-- Each member has its own value. -/
theorem mapM_eq_some {f : α → Option β} {as : List α} {bs : List β} :
    as.mapM f = some bs ↔ List.Forall₂ (fun a b => f a = some b) as bs := by
  induction as generalizing bs with
  | nil => simp [eq_comm]
  | cons a as ih =>
    simp only [List.mapM_cons, Option.bind_eq_bind, Option.bind_eq_some_iff, Option.pure_def, Option.some.injEq, ih,
      List.forall₂_cons_left_iff]
    constructor
    · rintro ⟨b, hb, bs', hbs, rfl⟩
      exact ⟨b, bs', hb, hbs, rfl⟩
    · rintro ⟨b, bs', hb, hbs, rfl⟩
      exact ⟨b, hb, bs', hbs, rfl⟩

/-- Each answer comes from a member. -/
theorem exists_of_mem_right {R : α → β → Prop} {as : List α} {bs : List β} (h : List.Forall₂ R as bs) {b : β}
    (hb : b ∈ bs) : ∃ a ∈ as, R a b := by
  induction h with
  | nil => cases hb
  | cons hr _ ih =>
    rcases List.mem_cons.1 hb with rfl | hb
    · exact ⟨_, List.mem_cons_self, hr⟩
    · obtain ⟨a, ha, hr⟩ := ih hb
      exact ⟨a, List.mem_cons_of_mem _ ha, hr⟩

/-- Each member has an answer. -/
theorem exists_of_mem_left {R : α → β → Prop} {as : List α} {bs : List β} (h : List.Forall₂ R as bs) {a : α}
    (ha : a ∈ as) : ∃ b ∈ bs, R a b := exists_of_mem_right h.flip ha

/-- What holds of a member holds of its answer. -/
theorem exists_mem_iff {R : α → β → Prop} {P : α → Prop} {Q : β → Prop} {as : List α} {bs : List β}
    (h : List.Forall₂ R as bs) (hR : ∀ a b, R a b → (P a ↔ Q b)) : (∃ a ∈ as, P a) ↔ ∃ b ∈ bs, Q b := by
  induction h with
  | nil => simp
  | cons hr _ ih => simp [hR _ _ hr, ih]

/-- What holds of all members holds of all answers. -/
theorem forall_mem_iff {R : α → β → Prop} {P : α → Prop} {Q : β → Prop} {as : List α} {bs : List β}
    (h : List.Forall₂ R as bs) (hR : ∀ a b, R a b → (P a ↔ Q b)) : (∀ a ∈ as, P a) ↔ ∀ b ∈ bs, Q b := by
  induction h with
  | nil => simp
  | cons hr _ ih => simp [hR _ _ hr, ih]

/-! ## Results -/

/-- If this succeeds, its result has the property. -/
def Yields (Q : α → Prop) (x : Except ε α) : Prop := ∀ a, x = .ok a → Q a

namespace Yields

variable {Q : α → Prop} {Q' : β → Prop}

theorem ok {a : α} (h : Q a) : Yields Q (.ok a : Except ε α) := by
  intro b hb
  cases hb
  exact h

theorem error (e : ε) : Yields Q (.error e : Except ε α) := by
  intro b hb
  cases hb

theorem any (x : Except ε α) : Yields (fun _ => True) x := fun _ _ => trivial

theorem bind {x : Except ε α} {f : α → Except ε β} (hx : Yields Q x) (hf : ∀ a, Q a → Yields Q' (f a)) :
    Yields Q' (x >>= f) := by
  intro b h
  obtain ⟨a, ha, h⟩ := bind_eq_ok.1 h
  exact hf a (hx a ha) b h

end Yields

/-! ## Ways to fail -/

/-- If this fails, it fails in one of certain ways. -/
def FailsOnly (P : Error → Prop) (x : Except Error α) : Prop := ∀ e, x = .error e → P e

namespace FailsOnly

variable {P : Error → Prop}

theorem ok (a : α) : FailsOnly P (.ok a) := by
  intro e h
  cases h

theorem error {e : Error} (h : P e) : FailsOnly P (.error e : Except Error α) := by
  intro e' h'
  cases h'
  exact h

theorem of_eq_ok {x : Except Error α} {a : α} (h : x = .ok a) : FailsOnly P x := h ▸ ok a

theorem bind {x : Except Error α} {f : α → Except Error β} (hx : FailsOnly P x)
    (hf : ∀ a, x = .ok a → FailsOnly P (f a)) : FailsOnly P (x >>= f) := by
  intro e h
  rcases bind_eq_error.1 h with h | ⟨a, ha, h⟩
  · exact hx e h
  · exact hf a ha e h

theorem ite {c : Prop} [Decidable c] {x y : Except Error α} (hx : c → FailsOnly P x) (hy : ¬c → FailsOnly P y) :
    FailsOnly P (if c then x else y) := by
  split
  · exact hx ‹c›
  · exact hy ‹¬c›

theorem elim {x : Option α} {e : Error} (h : x = none → P e) : FailsOnly P (x.elim (.error e) .ok) := by
  cases x with
  | none => exact error (h rfl)
  | some a => exact ok a

/-- Nothing happens after an error. -/
theorem throw {e : Error} {f : α → Except Error β} (h : P e) : FailsOnly P (throw e >>= f) := error h

theorem mapM {f : α → Except Error β} {as : List α} (h : ∀ a ∈ as, FailsOnly P (f a)) :
    FailsOnly P (as.mapM f) := by
  induction as with
  | nil => exact ok []
  | cons a as ih =>
    rw [List.mapM_cons]
    refine bind (h a (by simp)) fun b _ => bind (ih fun x hx => h x (by simp [hx])) fun bs _ => ok _

end FailsOnly

end FacetSearch

import Mathlib.Order.Defs.Unbundled
/-!
# Computations that change a state

What a computation does to a state is said by a relation between the state before and after it that is reflexive and
transitive. `Obeys R Q x` says that `x`, which may fail, changes the state as `R` allows in either case, and that its
result has the property `Q` if there is one. Every chain inherits this from its steps. Where a failure matters too,
`Ends P s x` says of one run what its result and the state after it are like.
-/

namespace FacetSearch

variable {σ ε α β : Type}

/-- The computation changes the state as the relation allows. -/
def Steps (R : σ → σ → Prop) (x : StateM σ α) : Prop := ∀ s, R s (x.run s).2

/-- The computation changes the state as the relation allows, and its result has the property if it does not fail. -/
def Obeys (R : σ → σ → Prop) (Q : α → Prop) (x : ExceptT ε (StateM σ) α) : Prop :=
  ∀ s, R s (x.run.run s).2 ∧ ∀ a, (x.run.run s).1 = .ok a → Q a

/-- Of the run from a state, the result and the state after it have the property. -/
def Ends (P : Except ε α → σ → Prop) (s : σ) (x : ExceptT ε (StateM σ) α) : Prop :=
  P (x.run.run s).1 (x.run.run s).2

/-- What follows is run after a success only, on the state that is left. -/
theorem run_bind (x : ExceptT ε (StateM σ) α) (f : α → ExceptT ε (StateM σ) β) (s : σ) :
    (x >>= f).run.run s = match x.run.run s with
      | (.ok a, s') => (f a).run.run s'
      | (.error e, s') => (.error e, s') := by
  show (ExceptT.bindCont f (x.run.run s).1).run (x.run.run s).2 = _
  rcases x.run.run s with ⟨r, s'⟩
  cases r <;> rfl

/-- What has a result already does not change the state. -/
theorem run_liftM (x : Except ε α) (s : σ) : (liftM x : ExceptT ε (StateM σ) α).run.run s = (x, s) := by
  cases x <;> rfl

/-- The state changes in whatever way. -/
def Anyhow (_ _ : σ) : Prop := True

instance : Std.Refl (@Anyhow σ) := ⟨fun _ => trivial⟩

instance : IsTrans σ Anyhow := ⟨fun _ _ _ _ _ => trivial⟩

variable {R : σ → σ → Prop}

namespace Steps

theorem pure [Std.Refl R] (a : α) : Steps R (pure a : StateM σ α) := fun s => Std.Refl.refl s

theorem bind [IsTrans σ R] {x : StateM σ α} {f : α → StateM σ β} (hx : Steps R x) (hf : ∀ a, Steps R (f a)) :
    Steps R (x >>= f) := by
  intro s
  exact IsTrans.trans _ _ _ (hx s) (hf (x.run s).1 (x.run s).2)

theorem get_bind {f : σ → StateM σ α} (h : ∀ s, Steps R (f s)) : Steps R (MonadState.get >>= f) := fun s => h s s

theorem modify {f : σ → σ} (h : ∀ s, R s (f s)) : Steps R (modify f : StateM σ PUnit) := h

theorem mono {R' : σ → σ → Prop} {x : StateM σ α} (h : Steps R x) (hR : ∀ s s', R s s' → R' s s') : Steps R' x :=
  fun s => hR _ _ (h s)

end Steps

namespace Obeys

variable {Q : α → Prop} {Q' : β → Prop}

theorem pure [Std.Refl R] {a : α} (h : Q a) : Obeys R Q (Pure.pure a : ExceptT ε (StateM σ) α) := by
  intro s
  refine ⟨Std.Refl.refl s, ?_⟩
  rintro _ ⟨⟩
  exact h

theorem throw [Std.Refl R] (e : ε) : Obeys R Q (MonadExcept.throw e : ExceptT ε (StateM σ) α) := by
  intro s
  refine ⟨Std.Refl.refl s, ?_⟩
  rintro _ ⟨⟩

theorem bind [IsTrans σ R] {x : ExceptT ε (StateM σ) α} {f : α → ExceptT ε (StateM σ) β} (hx : Obeys R Q x)
    (hf : ∀ a, Q a → Obeys R Q' (f a)) : Obeys R Q' (x >>= f) := by
  intro s
  obtain ⟨hstep, hresult⟩ := hx s
  rw [run_bind]
  rcases hs : x.run.run s with ⟨r, s'⟩
  rw [hs] at hstep hresult
  cases r with
  | ok a =>
    obtain ⟨hnext, hlast⟩ := hf a (hresult a rfl) s'
    exact ⟨IsTrans.trans _ _ _ hstep hnext, hlast⟩
  | error e => exact ⟨hstep, by rintro _ ⟨⟩⟩

/-- What is read off the state does not change it. -/
theorem get_bind {f : σ → ExceptT ε (StateM σ) α} (h : ∀ s, Obeys R Q (f s)) : Obeys R Q (MonadState.get >>= f) :=
  fun s => h s s

theorem modify {f : σ → σ} (h : ∀ s, R s (f s)) : Obeys R (fun _ => True) (modify f : ExceptT ε (StateM σ) PUnit) :=
  fun s => ⟨h s, fun _ _ => trivial⟩

/-- A failure is followed by what handles it. -/
theorem tryCatch [IsTrans σ R] {x : ExceptT ε (StateM σ) α} {f : ε → ExceptT ε (StateM σ) α} (hx : Obeys R Q x)
    (hf : ∀ e, Obeys R Q (f e)) : Obeys R Q (MonadExcept.tryCatch x f) := by
  intro s
  obtain ⟨hstep, hresult⟩ := hx s
  have hrun : (MonadExcept.tryCatch x f).run.run s = match x.run.run s with
      | (.ok a, s') => (.ok a, s')
      | (.error e, s') => (f e).run.run s' := by
    show (match (x.run.run s).1 with
      | .ok a => (Pure.pure (.ok a) : StateM σ (Except ε α))
      | .error e => (f e).run).run (x.run.run s).2 = _
    rcases x.run.run s with ⟨r, s'⟩
    cases r <;> rfl
  rw [hrun]
  rcases hs : x.run.run s with ⟨r, s'⟩
  rw [hs] at hstep hresult
  cases r with
  | ok a => exact ⟨hstep, hresult⟩
  | error e =>
    obtain ⟨hnext, hlast⟩ := hf e s'
    exact ⟨IsTrans.trans _ _ _ hstep hnext, hlast⟩

theorem anyhow (x : ExceptT ε (StateM σ) α) : Obeys Anyhow (fun _ => True) x := fun _ => ⟨trivial, fun _ _ => trivial⟩

theorem run {x : ExceptT ε (StateM σ) α} (h : Obeys R Q x) : Steps R x.run := fun s => (h s).1

theorem ends {x : ExceptT ε (StateM σ) α} (h : Obeys R Q x) (s : σ) :
    Ends (fun r s' => R s s' ∧ ∀ a, r = .ok a → Q a) s x := h s

end Obeys

namespace Ends

variable {P : Except ε α → σ → Prop} {P' : Except ε β → σ → Prop} {s : σ}

theorem pure {a : α} (h : P (.ok a) s) : Ends P s (Pure.pure a) := h

theorem throw {e : ε} (h : P (.error e) s) : Ends P s (MonadExcept.throw e) := h

theorem get_bind {f : σ → ExceptT ε (StateM σ) α} (h : Ends P s (f s)) : Ends P s (MonadState.get >>= f) := h

theorem modify_bind {g : σ → σ} {f : PUnit → ExceptT ε (StateM σ) α} (h : Ends P (g s) (f ⟨⟩)) :
    Ends P s (modify g >>= f) := h

theorem bind {x : ExceptT ε (StateM σ) α} {f : α → ExceptT ε (StateM σ) β} (hx : Ends P s x)
    (hok : ∀ a s', P (.ok a) s' → Ends P' s' (f a)) (herror : ∀ e s', P (.error e) s' → P' (.error e) s') :
    Ends P' s (x >>= f) := by
  unfold Ends at hx ⊢
  rw [run_bind]
  rcases hs : x.run.run s with ⟨r, s'⟩
  rw [hs] at hx
  cases r with
  | ok a => exact hok a s' hx
  | error e => exact herror e s' hx

/-- After a success what follows is run on what is left. -/
theorem bind_of_ok {x : ExceptT ε (StateM σ) α} {f : α → ExceptT ε (StateM σ) β} {a : α} {s' : σ}
    (hx : x.run.run s = (.ok a, s')) (hf : Ends P' s' (f a)) : Ends P' s (x >>= f) := by
  unfold Ends at hf ⊢
  rwa [run_bind, hx]

/-- After a failure nothing is run. -/
theorem bind_of_error {x : ExceptT ε (StateM σ) α} {f : α → ExceptT ε (StateM σ) β} {e : ε} {s' : σ}
    (hx : x.run.run s = (.error e, s')) (h : P' (.error e) s') : Ends P' s (x >>= f) := by
  unfold Ends
  rwa [run_bind, hx]

theorem mono {Q : Except ε α → σ → Prop} {x : ExceptT ε (StateM σ) α} (h : Ends P s x) (hQ : ∀ r s', P r s' → Q r s') :
    Ends Q s x := hQ _ _ h

end Ends

end FacetSearch

import FacetSearch.Proofs.Fragments
import FacetSearch.Sql.Step
import Mathlib.Data.List.TakeWhile
/-!
# Fragments put together step by step

Every step adds pieces, one after the other, up to the first that has another number of placeholders than of parameters
(`Step.apply_eq`); a join has the separators among its pieces. So whatever steps are done and however many of them fail,
what is there is the pieces added so far, one behind the other, and the parameters are those of its placeholders
(`assembled_of_steps`).
-/

namespace FacetSearch.Fragment

instance : DecidablePred WellFormed := fun f => inferInstanceAs (Decidable (placeholders f.text = f.params.length))

/-- Fragments one behind the other. -/
def concat (gs : List Fragment) : Fragment := gs.foldr (· ++ ·) empty

@[simp] theorem concat_nil : concat [] = empty := rfl

@[simp] theorem concat_cons (g : Fragment) (gs : List Fragment) : concat (g :: gs) = g ++ concat gs := rfl

theorem concat_append (gs hs : List Fragment) : concat (gs ++ hs) = concat gs ++ concat hs := by
  induction gs with
  | nil => rw [List.nil_append, concat_nil, empty_append]
  | cons g gs ih => rw [List.cons_append, concat_cons, concat_cons, ih, append_assoc]

theorem wellFormed_concat {gs : List Fragment} (h : ∀ g ∈ gs, g.WellFormed) : (concat gs).WellFormed := by
  induction gs with
  | nil => exact wellFormed_empty
  | cons g gs ih =>
    obtain ⟨hg, hgs⟩ := List.forall_mem_cons.1 h
    exact hg.append (ih hgs)

/-- The error of a piece that has another number of placeholders than of parameters. -/
def misfit (g : Fragment) : Error := .binding (.fragment g.text (placeholders g.text) g.params.length)

theorem extend_eq_error (f : Fragment) {g : Fragment} (h : ¬g.WellFormed) : f.extend g = .error g.misfit := if_neg h

/-! ## Pieces one by one -/

/-- What is reached when pieces are added, and the error that stopped it. -/
def add (f : Fragment) : List Fragment → Fragment × Option Error
  | [] => (f, none)
  | g :: gs =>
    match f.extend g with
    | .error e => (f, some e)
    | .ok extended => extended.add gs

/-- The pieces in front of the first that does not fit. -/
def fitting (gs : List Fragment) : List Fragment := gs.takeWhile (decide ·.WellFormed)

theorem add_eq (f : Fragment) (gs : List Fragment) :
    f.add gs = (f ++ concat (fitting gs), (gs.find? fun g => !decide g.WellFormed).map misfit) := by
  induction gs generalizing f with
  | nil => simp [add, fitting]
  | cons g gs ih =>
    by_cases hg : g.WellFormed
    · simp [add, extend_eq f hg, ih, fitting, hg, append_assoc]
    · simp [add, extend_eq_error f hg, fitting, hg]

/-- The pieces of a join behind the first fragment. -/
def separated (separator : String) (gs : List Fragment) : List Fragment := gs.flatMap fun g => [ofText separator, g]

theorem intersperse_cons (separator : String) (g : Fragment) (gs : List Fragment) :
    (g :: gs).intersperse (ofText separator) = g :: separated separator gs := by
  induction gs generalizing g with
  | nil => rfl
  | cons h gs ih => rw [List.intersperse_cons_cons, ih, separated, separated, List.flatMap_cons]; rfl

theorem extendAll_eq_add (f : Fragment) (separator : String) (gs : List Fragment) :
    f.extendAll separator gs = f.add (separated separator gs) := by
  induction gs generalizing f with
  | nil => rfl
  | cons g gs ih =>
    have hpieces : separated separator (g :: gs) = ofText separator :: g :: separated separator gs := rfl
    have hseparator : f.append separator [] = f.extend (ofText separator) := rfl
    rw [hpieces, extendAll, add, hseparator]
    cases f.extend (ofText separator) with
    | error e => rfl
    | ok h =>
      simp only [add]
      cases h.extend g with
      | error e => rfl
      | ok h => exact ih h

theorem joinReached_eq_add (f : Fragment) (separator : String) (gs : List Fragment) :
    f.joinReached separator gs = f.add (gs.intersperse (ofText separator)) := by
  cases gs with
  | nil => rfl
  | cons g gs =>
    rw [intersperse_cons, joinReached, add]
    cases f.extend g with
    | error e => rfl
    | ok h => exact extendAll_eq_add h separator gs

/-! ## Steps -/

namespace Step

/-- The pieces that a step is to add, in their order. -/
def pieces : Step → List Fragment
  | append text params => [⟨text, params⟩]
  | extend g => [g]
  | join separator gs => gs.intersperse (ofText separator)

/-- The pieces that a step adds. -/
def appended (s : Step) : List Fragment := fitting s.pieces

theorem kept_extend (f g : Fragment) : kept f (f.extend g) = f.add [g] := by
  rw [add]
  cases f.extend g <;> rfl

/-- A step adds its pieces one by one. -/
theorem apply_eq_add (f : Fragment) (s : Step) : s.apply f = f.add s.pieces := by
  cases s with
  | append text params => exact kept_extend f ⟨text, params⟩
  | extend g => exact kept_extend f g
  | join separator gs => exact joinReached_eq_add f separator gs

theorem apply_eq (f : Fragment) (s : Step) :
    s.apply f = (f ++ concat s.appended, (s.pieces.find? fun g => !decide g.WellFormed).map misfit) := by
  rw [apply_eq_add, add_eq, appended]

/-- What a step comes to: all its pieces are added, or those in front of the first that does not fit, and the error is that
of this piece. -/
inductive Comes (s : Step) (f : Fragment) : Fragment × Option Error → Prop
  | done (h : ∀ g ∈ s.pieces, g.WellFormed) : Comes s f (f ++ concat s.pieces, none)
  | stopped {front back : List Fragment} {g : Fragment} (hpieces : s.pieces = front ++ g :: back)
    (hfront : ∀ h ∈ front, h.WellFormed) (hg : ¬g.WellFormed) : Comes s f (f ++ concat front, some g.misfit)

theorem comes_apply (f : Fragment) (s : Step) : s.Comes f (s.apply f) := by
  rw [apply_eq, appended, fitting]
  cases hfind : s.pieces.find? fun g => !decide g.WellFormed with
  | none =>
    have hall : ∀ g ∈ s.pieces, g.WellFormed := by simpa using hfind
    rw [List.takeWhile_eq_self_iff.2 fun g hg => decide_eq_true (hall g hg)]
    exact .done hall
  | some g =>
    obtain ⟨hg, front, back, hpieces, hfront⟩ := List.find?_eq_some_iff_append.1 hfind
    have hfront' : ∀ h ∈ front, h.WellFormed := fun h hh => by simpa using hfront h hh
    have htake : s.pieces.takeWhile (decide ·.WellFormed) = front := by
      rw [hpieces, List.takeWhile_append_of_pos fun h hh => decide_eq_true (hfront' h hh),
        List.takeWhile_cons_of_neg (by simpa using hg), List.append_nil]
    rw [htake]
    exact .stopped hpieces hfront' (by simpa using hg)

/-- A step fails if one of its pieces does not fit. -/
theorem fails_iff (f : Fragment) (s : Step) : (s.apply f).2 ≠ none ↔ ∃ g ∈ s.pieces, ¬g.WellFormed := by
  rw [apply_eq, ne_eq, Option.map_eq_none_iff, List.find?_eq_none]
  simp

/-- A join fails if one of its fragments does not fit, or if there are two and the separator has placeholders. -/
theorem join_fails_iff (f : Fragment) (separator : String) (gs : List Fragment) :
    ((join separator gs).apply f).2 ≠ none ↔
      (∃ g ∈ gs, ¬g.WellFormed) ∨ (placeholders separator ≠ 0 ∧ 2 ≤ gs.length) := by
  have hseparator : (ofText separator).WellFormed ↔ placeholders separator = 0 := Iff.rfl
  rw [fails_iff, pieces]
  match gs with
  | [] => simp
  | [g] => simp
  | g :: h :: gs =>
    rw [intersperse_cons]
    simp only [separated, List.mem_cons, List.mem_flatMap, List.not_mem_nil, or_false, List.length_cons]
    constructor
    · rintro ⟨p, rfl | ⟨q, hq, rfl | rfl⟩, hp⟩
      · exact .inl ⟨p, .inl rfl, hp⟩
      · exact .inr ⟨fun h => hp (hseparator.2 h), by omega⟩
      · exact .inl ⟨p, .inr hq, hp⟩
    · rintro (⟨p, rfl | hp, hmisfit⟩ | ⟨hp, -⟩)
      · exact ⟨p, .inl rfl, hmisfit⟩
      · exact ⟨p, .inr ⟨p, hp, .inr rfl⟩, hmisfit⟩
      · exact ⟨ofText separator, .inr ⟨h, .inl rfl, .inl rfl⟩, fun h => hp (hseparator.1 h)⟩

/-- What a step adds fits. -/
theorem wellFormed_of_mem_appended {s : Step} {g : Fragment} (h : g ∈ s.appended) : g.WellFormed := by
  have hfits : decide g.WellFormed = true := List.mem_takeWhile_imp (p := fun x : Fragment => decide x.WellFormed) h
  exact of_decide_eq_true hfits

/-- A step that has one piece adds it or nothing. -/
theorem apply_eq_of_fails {f g : Fragment} {s : Step} (hs : s.pieces = [g]) (h : (s.apply f).2 ≠ none) :
    (s.apply f).1 = f := by
  obtain ⟨p, hp, hmisfit⟩ := (fails_iff f s).1 h
  rw [hs] at hp
  obtain rfl := List.mem_singleton.1 hp
  rw [apply_eq, appended, fitting, hs, List.takeWhile_cons_of_neg (by simpa using hmisfit), concat_nil, append_empty]

end Step

/-- What is left after steps is the pieces that they added. -/
theorem assemble_eq (f : Fragment) (steps : List Step) :
    f.assemble steps = f ++ concat (steps.flatMap Step.appended) := by
  induction steps generalizing f with
  | nil => exact (append_empty f).symm
  | cons s steps ih =>
    have hfirst : f.assemble (s :: steps) = (f ++ concat s.appended).assemble steps := by
      rw [assemble, List.foldl_cons, Step.apply_eq]
      rfl
    rw [hfirst, ih, List.flatMap_cons, concat_append, append_assoc]

/-- Whatever steps were done before, and whether they failed or not: what is there after the next step is all pieces that were
added, in their order, with as many parameters as placeholders. The step adds all its pieces, or those in front of the first
that does not fit, with the error of this one. Text or a fragment that does not fit leaves everything as it was; a join fails
if a fragment does not fit, or if there are two fragments and the separator has placeholders. -/
theorem assembled_of_steps (before : List Step) (s : Step) :
    let built := empty.assemble before
    empty.assemble (before ++ [s]) = (s.apply built).1 ∧
    (s.apply built).1.WellFormed ∧
    (s.apply built).1 = concat ((before ++ [s]).flatMap Step.appended) ∧
    s.Comes built (s.apply built) ∧
    (∀ text params, s = .append text params → (s.apply built).2 ≠ none → (s.apply built).1 = built) ∧
    (∀ g, s = .extend g → (s.apply built).2 ≠ none → (s.apply built).1 = built) ∧
    ∀ separator gs, s = .join separator gs → ((s.apply built).2 ≠ none ↔
      (∃ g ∈ gs, placeholders g.text ≠ g.params.length) ∨ (placeholders separator ≠ 0 ∧ 2 ≤ gs.length)) := by
  intro built
  have hlast : empty.assemble (before ++ [s]) = (s.apply built).1 := by
    rw [assemble, List.foldl_append]
    rfl
  have hconcat : (s.apply built).1 = concat ((before ++ [s]).flatMap Step.appended) := by
    rw [← hlast, assemble_eq, empty_append]
  refine ⟨hlast, ?_, hconcat, s.comes_apply built, ?_, ?_, ?_⟩
  · rw [hconcat]
    refine wellFormed_concat fun g hg => ?_
    obtain ⟨t, -, ht⟩ := List.mem_flatMap.1 hg
    exact Step.wellFormed_of_mem_appended ht
  · rintro text params rfl
    exact Step.apply_eq_of_fails rfl
  · rintro g rfl
    exact Step.apply_eq_of_fails rfl
  · rintro separator gs rfl
    exact Step.join_fails_iff built separator gs

end FacetSearch.Fragment

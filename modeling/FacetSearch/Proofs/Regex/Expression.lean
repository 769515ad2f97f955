import Mathlib.Data.List.Forall2
/-!
# Regular expressions

What a regular expression matches in a text. An expression stands at a place, with the text before it and the text
after it, so that its anchors can tell where the ends are; it is found in a text if it matches somewhere. When
characters count as the same, and which of them a bracket expression stands for, is left open in `Comparison`.
-/

namespace FacetSearch.Regex

/-- A regular expression. Bracket expressions are kept as they are written, without the outer brackets. -/
inductive Expression where
  | nothing
  | char (c : Char)
  | any
  | brackets (inside : List Char)
  | start
  | finish
  | cat (a b : Expression)
  | either (a b : Expression)
  | star (a : Expression)
  | plus (a : Expression)
  | opt (a : Expression)

/-- How characters are compared. -/
structure Comparison where
  same : Char → Char → Prop
  equivalence : Equivalence same
  isInside : List Char → Char → Prop

/-- A match any number of times in a row, of what is matched between two texts. -/
inductive Repeated (R : List Char → List Char → List Char → Prop) : List Char → List Char → List Char → Prop
  | none {pre post} : Repeated R pre [] post
  | more {pre x y post} (hx : R pre x (y ++ post)) (hy : Repeated R (pre ++ x) y post) : Repeated R pre (x ++ y) post

namespace Comparison

variable (k : Comparison)

/-- Both texts have the same characters. -/
def Alike (a b : List Char) : Prop := List.Forall₂ k.same a b

/-- The expression matches a text that stands between two others. -/
def Matches : Expression → List Char → List Char → List Char → Prop
  | .nothing, _, mid, _ => mid = []
  | .char c, _, mid, _ => ∃ d, mid = [d] ∧ k.same c d
  | .any, _, mid, _ => ∃ d, mid = [d]
  | .brackets inside, _, mid, _ => ∃ d, mid = [d] ∧ k.isInside inside d
  | .start, pre, mid, _ => pre = [] ∧ mid = []
  | .finish, _, mid, post => mid = [] ∧ post = []
  | .cat a b, pre, mid, post => ∃ x y, mid = x ++ y ∧ Matches a pre x (y ++ post) ∧ Matches b (pre ++ x) y post
  | .either a b, pre, mid, post => Matches a pre mid post ∨ Matches b pre mid post
  | .star a, pre, mid, post => Repeated (Matches a) pre mid post
  | .plus a, pre, mid, post =>
    ∃ x y, mid = x ++ y ∧ Matches a pre x (y ++ post) ∧ Repeated (Matches a) (pre ++ x) y post
  | .opt a, pre, mid, post => mid = [] ∨ Matches a pre mid post

/-- The expression matches somewhere in a text. -/
def Found (e : Expression) (text : List Char) : Prop :=
  ∃ pre mid post, text = pre ++ mid ++ post ∧ k.Matches e pre mid post

section

variable {k} {a b e : Expression} {pre mid post : List Char}

theorem matches_cat : k.Matches (.cat a b) pre mid post ↔
    ∃ x y, mid = x ++ y ∧ k.Matches a pre x (y ++ post) ∧ k.Matches b (pre ++ x) y post :=
  Iff.rfl

theorem matches_either : k.Matches (.either a b) pre mid post ↔ k.Matches a pre mid post ∨ k.Matches b pre mid post :=
  Iff.rfl

/-- Nothing in front of an expression changes nothing. -/
@[simp]
theorem matches_nothing_cat : k.Matches (.cat .nothing e) pre mid post ↔ k.Matches e pre mid post := by
  constructor
  · rintro ⟨_, y, rfl, rfl, h⟩
    simpa using h
  · intro h
    exact ⟨[], mid, rfl, rfl, by simpa using h⟩

@[simp]
theorem matches_start : k.Matches .start pre mid post ↔ pre = [] ∧ mid = [] := Iff.rfl

@[simp]
theorem matches_finish : k.Matches .finish pre mid post ↔ mid = [] ∧ post = [] := Iff.rfl

@[simp]
theorem matches_char {c : Char} : k.Matches (.char c) pre mid post ↔ ∃ d, mid = [d] ∧ k.same c d := Iff.rfl

/-- Any characters, any number of them, are any text. -/
theorem matches_star_any : k.Matches (.star .any) pre mid post := by
  induction mid generalizing pre with
  | nil => exact .none
  | cons c mid ih => exact .more (x := [c]) ⟨c, rfl⟩ ih

end

end Comparison

/-! ## Texts as expressions -/

namespace Expression

/-- An expression with the characters of a text behind it. -/
def followedBy (e : Expression) (cs : List Char) : Expression := cs.foldl (fun e c => .cat e (.char c)) e

/-- One of some texts. -/
def choice : List (List Char) → Expression
  | [] => .nothing
  | cs :: rest => rest.foldl (fun e cs => .either e (followedBy .nothing cs)) (followedBy .nothing cs)

/-- An expression with one of some texts behind it. -/
def thenOneOf (e : Expression) : List (List Char) → Expression
  | [cs] => e.followedBy cs
  | texts => .cat e (choice texts)

end Expression

namespace Comparison

variable {k : Comparison} {e : Expression} {pre mid post : List Char}

theorem matches_followedBy {cs : List Char} : k.Matches (e.followedBy cs) pre mid post ↔
    ∃ x y, mid = x ++ y ∧ k.Matches e pre x (y ++ post) ∧ k.Alike cs y := by
  induction cs generalizing e with
  | nil =>
    constructor
    · intro h
      exact ⟨mid, [], by simp, h, .nil⟩
    · rintro ⟨x, _, rfl, h, ⟨⟩⟩
      rw [List.append_nil]
      exact h
  | cons c cs ih =>
    rw [Expression.followedBy, List.foldl_cons, ← Expression.followedBy, ih]
    constructor
    · rintro ⟨_, z, rfl, ⟨x, _, rfl, hx, d, rfl, hd⟩, hz⟩
      exact ⟨x, d :: z, by simp, by simpa using hx, .cons hd hz⟩
    · rintro ⟨x, y, rfl, hx, hy⟩
      obtain ⟨d, z, hd, hz, rfl⟩ := List.forall₂_cons_left_iff.1 hy
      exact ⟨x ++ [d], z, by simp, ⟨x, [d], rfl, by simpa using hx, d, rfl, hd⟩, hz⟩

theorem matches_text {cs : List Char} :
    k.Matches (Expression.followedBy .nothing cs) pre mid post ↔ k.Alike cs mid := by
  rw [matches_followedBy]
  constructor
  · rintro ⟨_, y, rfl, rfl, h⟩
    exact h
  · intro h
    exact ⟨[], mid, rfl, rfl, h⟩

theorem matches_choice {texts : List (List Char)} (hne : texts ≠ []) :
    k.Matches (.choice texts) pre mid post ↔ ∃ cs ∈ texts, k.Alike cs mid := by
  have further (e : Expression) (rest : List (List Char)) :
      k.Matches (rest.foldl (fun e cs => .either e (.followedBy .nothing cs)) e) pre mid post ↔
        k.Matches e pre mid post ∨ ∃ cs ∈ rest, k.Alike cs mid := by
    induction rest generalizing e with
    | nil => simp
    | cons cs rest ih => simp [ih, matches_either, matches_text, or_assoc]
  cases texts with
  | nil => exact absurd rfl hne
  | cons cs rest =>
    rw [Expression.choice, further, matches_text]
    simp

theorem matches_thenOneOf {texts : List (List Char)} (hne : texts ≠ []) :
    k.Matches (e.thenOneOf texts) pre mid post ↔
      ∃ x y, mid = x ++ y ∧ k.Matches e pre x (y ++ post) ∧ ∃ cs ∈ texts, k.Alike cs y := by
  unfold Expression.thenOneOf
  split
  · simp [matches_followedBy]
  · simp only [matches_cat, matches_choice hne]

end Comparison

end FacetSearch.Regex

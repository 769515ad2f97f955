import FacetSearch.Proofs.Outcome
import FacetSearch.Query.Search
/-!
# Fragments put together

Fragments form a monoid: texts and parameters are put one behind the other. Adding to a fragment is this
operation as long as what is added has as many parameters as placeholders (`append_eq`, `join_eq`,
`statement_eq`), and the operation keeps that agreement (`WellFormed.append`). So the laws of statements need
only be looked up piece by piece.
-/

namespace FacetSearch

namespace Fragment

instance : Append Fragment := ⟨fun f g => ⟨f.text ++ g.text, f.params ++ g.params⟩⟩

@[simp] theorem text_append (f g : Fragment) : (f ++ g).text = f.text ++ g.text := rfl

@[simp] theorem params_append (f g : Fragment) : (f ++ g).params = f.params ++ g.params := rfl

@[ext] theorem ext {f g : Fragment} (ht : f.text = g.text) (hp : f.params = g.params) : f = g := by
  cases f
  cases g
  simp_all

theorem append_assoc (f g h : Fragment) : f ++ g ++ h = f ++ (g ++ h) := by
  ext1
  · exact String.append_assoc ..
  · exact List.append_assoc ..

@[simp] theorem empty_append (f : Fragment) : empty ++ f = f := by
  ext1
  · exact String.empty_append ..
  · rfl

@[simp] theorem append_empty (f : Fragment) : f ++ empty = f := by
  ext1
  · exact String.append_empty ..
  · exact List.append_nil ..

/-- Text without placeholders. -/
def ofText (text : String) : Fragment := ⟨text, []⟩

/-! ## Placeholders -/

theorem WellFormed.append {f g : Fragment} (hf : f.WellFormed) (hg : g.WellFormed) : (f ++ g).WellFormed := by
  unfold WellFormed at hf hg ⊢
  rw [text_append, params_append, placeholders_append, List.length_append, hf, hg]

theorem wellFormed_mk {text : String} {params : List Param} (h : placeholders text = params.length) :
    WellFormed ⟨text, params⟩ := h

theorem wellFormed_ofText {text : String} (h : placeholders text = 0) : (ofText text).WellFormed := h

/-! ## What adding comes to -/

/-- Fragments with a separator in front of each. -/
def joinedAfter (separator : String) (gs : List Fragment) : Fragment :=
  gs.foldr (fun g rest => ofText separator ++ g ++ rest) empty

/-- Fragments with a separator between them. -/
def joined (separator : String) : List Fragment → Fragment
  | [] => empty
  | g :: gs => g ++ joinedAfter separator gs

theorem append_eq (f : Fragment) {text : String} {params : List Param} (h : WellFormed ⟨text, params⟩) :
    f.append text params = .ok (f ++ ⟨text, params⟩) := if_pos h

theorem append_text (f : Fragment) {text : String} (h : placeholders text = 0) :
    f.append text [] = .ok (f ++ ofText text) := append_eq f h

theorem extend_eq (f : Fragment) {g : Fragment} (h : g.WellFormed) : f.extend g = .ok (f ++ g) := append_eq f h

theorem extendAll_eq {separator : String} (hs : placeholders separator = 0) {gs : List Fragment}
    (h : ∀ g ∈ gs, g.WellFormed) (f : Fragment) :
    f.extendAll separator gs = (f ++ joinedAfter separator gs, none) := by
  induction gs generalizing f with
  | nil => simp [extendAll, joinedAfter]
  | cons g gs ih =>
    have hg := h g (by simp)
    simp only [extendAll, append_text f hs, extend_eq _ hg]
    rw [ih fun x hx => h x (by simp [hx])]
    simp [joinedAfter, append_assoc]

theorem join_eq {separator : String} (hs : placeholders separator = 0) {gs : List Fragment}
    (h : ∀ g ∈ gs, g.WellFormed) (f : Fragment) : f.join separator gs = .ok (f ++ joined separator gs) := by
  cases gs with
  | nil => simp [join, joinReached, joined]
  | cons g gs =>
    have hg := h g (by simp)
    rw [join, joinReached, extend_eq f hg]
    simp only
    rw [extendAll_eq hs (fun x hx => h x (by simp [hx]))]
    simp [joined, append_assoc]

theorem wellFormed_joinedAfter {separator : String} (hs : placeholders separator = 0) {gs : List Fragment}
    (h : ∀ g ∈ gs, g.WellFormed) : (joinedAfter separator gs).WellFormed := by
  induction gs with
  | nil => rfl
  | cons g gs ih =>
    exact ((wellFormed_ofText hs).append (h g (by simp))).append (ih fun x hx => h x (by simp [hx]))

theorem wellFormed_joined {separator : String} (hs : placeholders separator = 0) {gs : List Fragment}
    (h : ∀ g ∈ gs, g.WellFormed) : (joined separator gs).WellFormed := by
  cases gs with
  | nil => rfl
  | cons g gs => exact (h g (by simp)).append (wellFormed_joinedAfter hs fun x hx => h x (by simp [hx]))

/-! ## Clauses of statements -/

/-- The clause that restricts a statement to identifiers that are in all sets, if there are any. -/
def restriction (opening : String) (sets : List Fragment) (closing : String) : Fragment :=
  if sets = [] then empty else ofText opening ++ joined " INTERSECT " sets ++ ofText closing

/-- The clause that limits a statement. -/
def limitClause : Option Value → Fragment
  | none => empty
  | some n => ⟨" LIMIT ?", [⟨n, .integer⟩]⟩

theorem wellFormed_limitClause (limit : Option Value) : (limitClause limit).WellFormed := by
  cases limit with
  | none => exact wellFormed_empty
  | some n => exact wellFormed_mk rfl

theorem limited_eq (f : Fragment) (limit : Option Value) : f.limited limit = .ok (f ++ limitClause limit) := by
  cases limit with
  | none => rw [limitClause, append_empty]; rfl
  | some n => exact append_eq f (wellFormed_limitClause (some n))

theorem restricted_eq (f : Fragment) {opening closing : String} {sets : List Fragment}
    (ho : placeholders opening = 0) (hc : placeholders closing = 0) (h : ∀ g ∈ sets, g.WellFormed) :
    f.restricted opening sets closing = .ok (f ++ restriction opening sets closing) := by
  have hsep : placeholders " INTERSECT " = 0 := rfl
  cases sets with
  | nil => simp [restricted, restriction, pure, Except.pure]
  | cons g gs =>
    simp only [restricted, restriction, List.isEmpty_cons, Bool.false_eq_true, if_false, append_text f ho,
      intersection, join_eq hsep h, empty_append, reduceCtorEq, bind, Except.bind]
    rw [extend_eq _ (wellFormed_joined hsep h)]
    simp only [append_text _ hc, append_assoc]

theorem wellFormed_restriction {opening closing : String} {sets : List Fragment}
    (ho : placeholders opening = 0) (hc : placeholders closing = 0) (h : ∀ g ∈ sets, g.WellFormed) :
    (restriction opening sets closing).WellFormed := by
  unfold restriction
  split
  · rfl
  · exact ((wellFormed_ofText ho).append (wellFormed_joined rfl h)).append (wellFormed_ofText hc)

end Fragment

end FacetSearch

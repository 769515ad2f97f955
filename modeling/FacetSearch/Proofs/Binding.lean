import FacetSearch.Proofs.Placement
import FacetSearch.Query.Bound
/-!
# Names in place of placeholders

Binding puts a colon and a name where a placeholder stands. In a text that is read to its end a placeholder stands
between signs, so each of these names is read as a name, and nothing else is (`Bound.namesFrom_named`). Whether binding
succeeds is then up to the values alone (`bound_of_compile`).
-/

namespace FacetSearch

open Edge

namespace Bound

theorem inner_paramName (i : Nat) : ∀ c ∈ (paramName i).toList, Name.isInner c = true := by
  intro c hc
  rw [paramName, String.toList_append, List.mem_append] at hc
  rcases hc with hc | hc
  · have : ∀ c ∈ "sq_param_".toList, Name.isInner c = true := List.all_iff_forall_prop.1 (by decide)
    exact this c hc
  · rw [show toString i = i.repr from rfl, Nat.toList_repr] at hc
    have := Nat.isDigit_of_mem_toDigits (by decide) (by decide) hc
    simp [Name.isInner, Char.isAlphanum, this]

theorem isWord_of_inner {c : Char} (h : Name.isInner c = true) : Text.isWord c = true := by
  rw [Text.isWord, if_pos (Name.toNat_lt_of_isInner h)]
  exact h

theorem ne_colon_of_inner {c : Char} (h : Name.isInner c = true) : c ≠ ':' := by
  rintro rfl
  revert h
  decide

/-- No name starts in a word, nor right behind it. -/
theorem namesFrom_word (free : Bool) {w : List Char} (h : ∀ c ∈ w, Name.isInner c = true) (hne : w ≠ [])
    (rest : List Char) : namesFrom free (w ++ rest) = namesFrom false rest := by
  induction w generalizing free with
  | nil => exact absurd rfl hne
  | cons c cs ih =>
    have hc := h c (by simp)
    have hcolon : (c == ':') = false := beq_eq_false_iff_ne.2 (ne_colon_of_inner hc)
    have hfree : mayPrecedeName c = false := by simp [mayPrecedeName, isWord_of_inner hc]
    rw [List.cons_append, namesFrom, hcolon, hfree, Bool.and_false, Bool.false_and]
    simp only [Bool.false_eq_true, if_false]
    cases cs with
    | nil => rfl
    | cons d ds => exact ih _ (fun x hx => h x (by simp [hx])) (by simp)

/-- What stands behind a name ends it, and is no colon. -/
theorem nameAfterColon_named {w : List Char} (hw : ∀ c ∈ w, Name.isInner c = true) {cs : List Char} {e : Edge}
    (h : run .mark cs = some e) (i : Nat) : nameAfterColon (w ++ named i cs) = w := by
  have hword : ∀ c ∈ w, Text.isWord c = true := fun c hc => isWord_of_inner (hw c hc)
  rw [nameAfterColon, List.dropWhile_append_of_pos hword, List.takeWhile_append_of_pos hword]
  cases cs with
  | nil => simp [named]
  | cons c cs =>
    rw [run_cons] at h
    obtain ⟨b, hb, -⟩ := Option.bind_eq_some_iff.1 h
    -- behind a placeholder there is nothing but signs
    obtain ⟨hs, -⟩ : c ∈ signs ∧ b = .gap := by
      rcases next_eq_some hb with h | ⟨-, h, -⟩ | ⟨-, h, -⟩
      · exact h
      · exact absurd rfl h
      · cases h
    have hsigns : ∀ c ∈ signs, Text.isWord c = false ∧ c ≠ ':' ∧ c ≠ '?' := List.all_iff_forall_prop.1 (by decide)
    obtain ⟨hw, hcolon, hmark⟩ := hsigns c hs
    simp [named, hmark, hw, hcolon]

/-- The names that are read in a text are those of its placeholders, in their order. -/
theorem namesFrom_named {e d : Edge} {cs : List Char} (h : run e cs = some d) (i : Nat) :
    namesFrom (e == .gap) (named i cs) = (List.range' i (cs.count '?')).map fun j => (paramName j).toList := by
  induction cs generalizing e i with
  | nil => rfl
  | cons c cs ih =>
    rw [run_cons] at h
    obtain ⟨b, hb, h⟩ := Option.bind_eq_some_iff.1 h
    -- a sign, a character of a word, or a placeholder, which becomes a colon and a name
    rcases next_eq_some hb with ⟨hs, rfl⟩ | ⟨hi, -, rfl⟩ | ⟨rfl, rfl, rfl⟩
    · have hsigns : ∀ c ∈ signs, c ≠ '?' ∧ (c == ':') = false ∧ mayPrecedeName c = true :=
        List.all_iff_forall_prop.1 (by decide)
      obtain ⟨hmark, hcolon, hfree⟩ := hsigns c hs
      rw [named, if_neg hmark, namesFrom, hcolon, hfree, Bool.and_false, Bool.false_and, List.count_cons_of_ne hmark]
      exact ih h i
    · have hmark : c ≠ '?' := by
        rintro rfl
        revert hi
        decide
      rw [named, if_neg hmark, List.count_cons_of_ne hmark]
      exact (namesFrom_word _ (w := [c]) (by simpa using hi) (by simp) _).trans (ih h i)
    · have hname := inner_paramName i
      have hne : (paramName i).toList ≠ [] := by
        rw [paramName, String.toList_append]
        simp
      have hcolon : nameAfterColon ((paramName i).toList ++ named (i + 1) cs) = (paramName i).toList :=
        nameAfterColon_named hname h (i + 1)
      rw [named, if_pos rfl, List.cons_append, namesFrom, hcolon, namesFrom_word _ hname hne, List.count_cons_self,
        List.range'_succ, List.map_cons, ← ih h (i + 1)]
      have hempty : (paramName i).toList.isEmpty = false := by simpa using hne
      simp only [hempty, beq_self_eq_true, Bool.not_false, Bool.and_self, if_true]
      rfl

/-- A value fails to be bound because of itself, not because of its place. -/
def OnlyValues (e : Error) : Prop := e.NotBinding ∧ e ≠ .failure .argument

theorem bindParam_failsOnly (i : Nat) (p : Param) : FailsOnly OnlyValues (bindParam i p) := by
  refine .bind ?_ fun v _ => ?_
  · intro e h
    rcases Selection.coerce_eq_error h with ⟨f, rfl⟩ | ⟨-, rfl⟩
    · exact ⟨Error.notBinding_typeMismatch f, nofun⟩
    · exact ⟨Error.notBinding_value _, nofun⟩
  · split
    · exact .ok _
    · exact .error ⟨Error.notBinding_typeMismatch _, nofun⟩

theorem bindParams_failsOnly (i : Nat) (ps : List Param) : FailsOnly OnlyValues (bindParams i ps) := by
  induction ps generalizing i with
  | nil => exact .ok []
  | cons p ps ih => exact .bind (bindParam_failsOnly i p) fun _ _ => .bind (ih (i + 1)) fun _ _ => .ok _

theorem names_of_bindParams {i : Nat} {ps : List Param} {bs : List BoundParam} (h : bindParams i ps = .ok bs) :
    bs.map BoundParam.name = (List.range' i ps.length).map paramName := by
  induction ps generalizing i bs with
  | nil =>
    cases h
    rfl
  | cons p ps ih =>
    simp only [bindParams, bind_eq_ok] at h
    obtain ⟨b, hb, rest, hr, h⟩ := h
    obtain rfl := pure_eq_ok.1 h
    have hname : b.name = paramName i := by
      simp only [bindParam, bind_eq_ok] at hb
      obtain ⟨v, -, hb⟩ := hb
      split at hb
      · cases hb
        rfl
      · cases hb
    rw [List.map_cons, hname, ih hr, List.length_cons, List.range'_succ, List.map_cons]

/-- The names of the first parameters. -/
def paramNames (n : Nat) : List (List Char) := (List.range n).map fun i => (paramName i).toList

/-- A text that is read to its end is bound unless a value cannot be, and its names are those of its parameters. -/
theorem namesFrom_statement {f : Fragment} (hw : f.WellFormed) (ha : f.Accepted) :
    namesFrom true (named 0 f.text.toList) = paramNames f.params.length := by
  obtain ⟨d, hd⟩ := ha
  rw [paramNames, List.range_eq_range', ← hw]
  exact namesFrom_named hd 0

theorem ofFragment_failsOnly {f : Fragment} (hw : f.WellFormed) (ha : f.Accepted) :
    FailsOnly OnlyValues (ofFragment f) := by
  refine .ite (fun h => absurd hw h) fun _ => .bind (bindParams_failsOnly 0 _) fun bs hbs => ?_
  -- a parameter that has no name in the text would be an argument too many
  have hall : (bs.all fun p => (names (named 0 f.text.toList)).contains p.name.toList) = true := by
    rw [List.all_eq_true]
    intro p hp
    have hname : p.name ∈ (List.range' 0 f.params.length).map paramName := by
      rw [← names_of_bindParams hbs]
      exact List.mem_map_of_mem hp
    have hread : p.name.toList ∈ namesFrom true (named 0 f.text.toList) := by
      rw [namesFrom_statement hw ha, paramNames, List.range_eq_range', ← Function.comp_def, ← List.map_map]
      exact List.mem_map_of_mem hname
    obtain ⟨b, hb, hsame⟩ : ∃ b ∈ names (named 0 f.text.toList), (b == p.name.toList) = true :=
      exists_mem_firstsBy (fun a => beq_self_eq_true a) hread
    rw [List.contains_iff_mem, ← eq_of_beq hsame]
    exact hb
  exact .ite (fun _ => .ok _) fun h => absurd hall h

theorem ofFragment_eq_ok {f : Fragment} {b : Bound} (h : ofFragment f = .ok b) :
    b.text = String.ofList (named 0 f.text.toList) ∧ bindParams 0 f.params = .ok b.params := by
  simp only [ofFragment] at h
  split at h
  · obtain ⟨_, h, -⟩ := bind_eq_ok.1 h
    cases h
  · obtain ⟨bs, hbs, h⟩ := bind_eq_ok.1 h
    split at h
    · cases h
      exact ⟨rfl, hbs⟩
    · cases h

end Bound

/-- Nothing that is asked for fails because placeholders and parameters disagree. A statement has as many placeholders
as parameters. Binding it fails for no reason but a value, and puts a name for each parameter, in their order; these
are the names that are read in the bound text. -/
theorem bound_of_compile (catalog : Catalog) (table : Value) (q : Inquiry) :
    FailsOnly Error.NotBinding (q.compile catalog table) ∧ ∀ f, q.compile catalog table = .ok f →
      Fragment.placeholders f.text = f.params.length ∧ FailsOnly Bound.OnlyValues (Bound.ofFragment f) ∧
      Bound.namesFrom true (Bound.named 0 f.text.toList) = Bound.paramNames f.params.length ∧
      ∀ b, Bound.ofFragment f = .ok b → b.text.toList = Bound.named 0 f.text.toList ∧
        b.params.map (fun p => p.name.toList) = Bound.paramNames f.params.length := by
  refine ⟨q.compile_failsOnly catalog table, fun f h => ?_⟩
  have hs := Inquiry.statement_of_compile h
  refine ⟨hs.wellFormed, Bound.ofFragment_failsOnly hs.wellFormed hs.accepted,
    Bound.namesFrom_statement hs.wellFormed hs.accepted, fun b hb => ?_⟩
  obtain ⟨htext, hparams⟩ := Bound.ofFragment_eq_ok hb
  refine ⟨by rw [htext, String.toList_ofList], ?_⟩
  calc b.params.map (fun p => p.name.toList)
      = (b.params.map BoundParam.name).map String.toList := by rw [List.map_map]; rfl
    _ = ((List.range' 0 f.params.length).map Bound.paramName).map String.toList := by
      rw [Bound.names_of_bindParams hparams]
    _ = Bound.paramNames f.params.length := by rw [List.map_map, ← List.range_eq_range']; rfl

theorem bound_byName : ∃ f, Inquiry.byName.compile .people (.text " People ") = .ok f ∧
    Fragment.placeholders f.text = f.params.length ∧ FailsOnly Bound.OnlyValues (Bound.ofFragment f) ∧
    Bound.namesFrom true (Bound.named 0 f.text.toList) = Bound.paramNames f.params.length :=
  have h := (bound_of_compile .people (.text " People ") .byName).2 _ Inquiry.compile_byName
  ⟨_, Inquiry.compile_byName, h.1, h.2.1, h.2.2.1⟩

end FacetSearch

import FacetSearch.Proofs.Binding
import FacetSearch.Proofs.Literals
/-!
# Statements that end in a limit

A statement whose last clause is a limit is bound to one that ends in the name of its last parameter, and the value of
that parameter is the limit (`endsInLimit_of_ofFragment`). Every statement of a search, of an extraction or of a lookup
that is given a limit has such a clause.
-/

namespace FacetSearch

/-! ## Bound statements -/

namespace Bound

/-- The statement ends in a limit, which is the last parameter. -/
def EndsInLimit (b : Bound) (n : Int) : Prop :=
  ∃ before ps, b.text = before ++ " LIMIT :" ++ paramName ps.length ∧
    b.params = ps ++ [⟨paramName ps.length, .int n, .integer⟩]

/-- Placeholders go on being counted. -/
theorem named_append (i : Nat) (cs ds : List Char) :
    named i (cs ++ ds) = named i cs ++ named (i + cs.count '?') ds := by
  induction cs generalizing i with
  | nil => rfl
  | cons c cs ih =>
    by_cases hc : c = '?'
    · subst hc
      rw [List.cons_append, named, if_pos rfl, ih, named, if_pos rfl, List.count_cons_self, List.append_assoc,
        Nat.add_assoc, Nat.add_comm 1]
    · rw [List.cons_append, named, if_neg hc, ih, named, if_neg hc, List.count_cons_of_ne hc, List.cons_append]

theorem bindParams_append {i : Nat} {ps qs : List Param} {bs : List BoundParam}
    (h : bindParams i (ps ++ qs) = .ok bs) :
    ∃ as cs, bindParams i ps = .ok as ∧ bindParams (i + ps.length) qs = .ok cs ∧ bs = as ++ cs := by
  induction ps generalizing i bs with
  | nil => exact ⟨[], bs, rfl, h, rfl⟩
  | cons p ps ih =>
    simp only [List.cons_append, bindParams, bind_eq_ok] at h
    obtain ⟨b, hb, rest, hrest, h⟩ := h
    obtain rfl := pure_eq_ok.1 h
    obtain ⟨as, cs, has, hcs, rfl⟩ := ih hrest
    refine ⟨b :: as, cs, ?_, ?_, rfl⟩
    · rw [bindParams, hb, has]
      rfl
    · rwa [List.length_cons, Nat.add_comm ps.length, ← Nat.add_assoc]

/-- An integer is bound as it is. -/
theorem bindParam_integer {i : Nat} {n : Int} {b : BoundParam} (h : bindParam i ⟨.int n, .integer⟩ = .ok b) :
    b = ⟨paramName i, .int n, .integer⟩ := by
  obtain ⟨v, hv, h⟩ := bind_eq_ok.1 h
  have hliteral := ColumnType.coerce_eq_ok.1 hv
  obtain ⟨m, hm, rfl⟩ := Option.map_eq_some_iff.1 (show Option.map Value.int _ = some v from hliteral)
  obtain ⟨r, -, hm⟩ := Option.bind_eq_some_iff.1 hm
  obtain rfl : n = m := Option.some.inj (Option.filter_eq_some_iff.1 hm).1
  exact (Except.ok.inj h).symm

theorem wellFormed_of_ofFragment {f : Fragment} {b : Bound} (h : ofFragment f = .ok b) : f.WellFormed := by
  simp only [ofFragment] at h
  split at h
  · obtain ⟨_, hthrow, -⟩ := bind_eq_ok.1 h
    cases hthrow
  · rename_i hmarks
    exact not_not.1 hmarks

theorem ofList_named_limit (i : Nat) :
    String.ofList (named i (Fragment.limitClause (some .null)).text.toList) = " LIMIT :" ++ paramName i := by
  have hchars : (Fragment.limitClause (some .null)).text.toList = " LIMIT ".toList ++ ['?'] := by decide
  have hplain : named i " LIMIT ".toList = " LIMIT ".toList := rfl
  have hcount : i + " LIMIT ".toList.count '?' = i := rfl
  rw [hchars, named_append, hplain, hcount, ← String.toList_inj]
  simp [named]

/-- A fragment that ends in a limit is bound to a statement that does. -/
theorem endsInLimit_of_ofFragment {f : Fragment} {n : Int} {b : Bound}
    (h : ofFragment (f ++ Fragment.limitClause (some (.int n))) = .ok b) : b.EndsInLimit n := by
  have hwf := wellFormed_of_ofFragment h
  obtain ⟨htext, hparams⟩ := ofFragment_eq_ok h
  rw [Fragment.params_append] at hparams
  obtain ⟨ps, last, hps, hlast, hb⟩ := bindParams_append hparams
  obtain ⟨c, hc, hlast⟩ := bind_eq_ok.1 hlast
  obtain rfl := Except.ok.inj hlast
  obtain rfl := bindParam_integer hc
  -- all placeholders but the last belong to the other parameters
  have hlength : ps.length = f.params.length := by
    simpa using congrArg List.length (names_of_bindParams hps)
  have hmarks : f.text.toList.count '?' = f.params.length := by
    have hcount : Fragment.placeholders (f.text ++ " LIMIT ?") = f.params.length + 1 := by
      simpa [Fragment.WellFormed, Fragment.limitClause] using hwf
    rw [Fragment.placeholders_append] at hcount
    exact Nat.add_right_cancel hcount
  refine ⟨String.ofList (named 0 f.text.toList), ps, ?_, ?_⟩
  · rw [htext, Fragment.text_append, String.toList_append, named_append, String.ofList_append, hmarks, hlength,
      Nat.zero_add, String.append_assoc]
    exact congrArg _ (ofList_named_limit f.params.length)
  · rw [hb, hlength, Nat.zero_add]

end Bound

/-! ## Statements with a limit -/

/-- The last clause of the statement is its limit. -/
def Fragment.IsLimited (f : Fragment) (limit : Option Value) : Prop := ∃ g, f = g ++ limitClause limit

theorem Fragment.isLimited_of_limited {f g : Fragment} {limit : Option Value} (h : f.limited limit = .ok g) :
    g.IsLimited limit := by
  rw [limited_eq] at h
  exact ⟨f, (Except.ok.inj h).symm⟩

theorem Search.isLimited_of_compose {catalog : Catalog} {table : Value} {sets : List Fragment} {limit : Option Value}
    {f : Fragment} (h : compose catalog table sets limit = .ok f) : f.IsLimited limit := by
  obtain ⟨⟨name, key⟩, -, h⟩ := bind_eq_ok.1 h
  obtain ⟨_, -, h⟩ := bind_eq_ok.1 h
  obtain ⟨_, -, h⟩ := bind_eq_ok.1 h
  exact Fragment.isLimited_of_limited h

theorem Extraction.isLimited_of_statement {n : Names} {inner outer : List Fragment} {lower upper : Value}
    {limit : Option Value} {f : Fragment} (h : statement n inner outer lower upper limit = .ok f) :
    f.IsLimited limit := by
  simp only [statement, bind_eq_ok] at h
  obtain ⟨_, -, _, -, _, -, _, -, _, -, _, -, h⟩ := h
  exact Fragment.isLimited_of_limited h

theorem Lookup.isLimited_of_compile {catalog : Catalog} {table identifiers : Value} {limit : Option Value}
    {f : Fragment} (h : compile catalog table identifiers limit = .ok f) : f.IsLimited limit := by
  obtain ⟨⟨name, key⟩, -, h⟩ := bind_eq_ok.1 h
  obtain ⟨_, -, h⟩ := bind_eq_ok.1 h
  obtain ⟨_, -, h⟩ := bind_eq_ok.1 h
  obtain ⟨_, -, h⟩ := bind_eq_ok.1 h
  exact Fragment.isLimited_of_limited h

end FacetSearch

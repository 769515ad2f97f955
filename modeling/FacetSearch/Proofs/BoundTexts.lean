import FacetSearch.Proofs.Binding
import FacetSearch.Proofs.Domains
import Mathlib.Data.List.Perm.Subperm
import Mathlib.Algebra.BigOperators.Group.List.Basic
/-!
# Binding texts of any kind

A statement whose text is not known to be one of ours is bound only if every name is read somewhere in it. A text without
colons has no other names than those that are put into it, so this leaves no room: each placeholder makes one name at most,
and all of them are needed (`Bound.candidates_perm`). So each is read as the name that belongs to it, and not as a longer
one, and the text can be read back (`Bound.unnamed_named`). The values are literals in the domain of the type that they are
bound with (`bound_of_ofFragment`).
-/

namespace FacetSearch

/-- The values that a driver takes for a type. -/
def BindType.Domain : BindType → Value → Prop
  | uuid, .uuid _ | string, .text _ | dateTime, .timestamp _ => True
  | integer, .int n => -2 ^ 31 ≤ n ∧ n ≤ 2 ^ 31 - 1
  | bigInteger, .int n => -2 ^ 63 ≤ n ∧ n ≤ 2 ^ 63 - 1
  | float, .float d => d.isFinite = true
  | _, _ => False

/-- What is in the domain of a column type is taken for the type that it is bound with. -/
theorem ColumnType.bindDomain_of_domain {type : ColumnType} {t : BindType} {v : Value} (ht : type.bindType? = some t)
    (h : type.Domain v) : t.Domain v := by
  cases type <;> cases ht <;> cases v <;> simp only [ColumnType.Domain, BindType.Domain] at h ⊢ <;> first | exact h | omega

namespace Bound

/-! ## Texts with names in them -/

/-- Pieces of a text with names between them, which are counted from `i`. -/
def woven (i : Nat) : List (List Char) → List Char
  | [] => []
  | [piece] => piece
  | piece :: next :: pieces => piece ++ ':' :: (paramName i).toList ++ woven (i + 1) (next :: pieces)

theorem woven_modifyHead (i : Nat) (c : Char) {pieces : List (List Char)} (h : pieces ≠ []) :
    woven i (pieces.modifyHead (c :: ·)) = c :: woven i pieces := by
  match pieces with
  | [] => exact absurd rfl h
  | [piece] => rfl
  | piece :: next :: pieces => rfl

/-- Names stand where the placeholders are. -/
theorem named_eq_woven (i : Nat) (cs : List Char) : named i cs = woven i (cs.splitOn '?') := by
  induction cs generalizing i with
  | nil => rfl
  | cons c cs ih =>
    have hne : cs.splitOn '?' ≠ [] := List.splitOn_ne_nil _ _
    have hsplit : (c :: cs).splitOn '?' =
        if c = '?' then [] :: cs.splitOn '?' else (cs.splitOn '?').modifyHead (c :: ·) := by
      rw [List.splitOn, List.splitOnP_cons_eq_if_modifyHead]
      simp only [beq_iff_eq]
      rfl
    rw [hsplit, named]
    by_cases hc : c = '?'
    · obtain ⟨piece, pieces, hpieces⟩ := List.exists_cons_of_ne_nil hne
      rw [if_pos hc, if_pos hc, ih, hpieces, woven, List.nil_append]
    · rw [if_neg hc, if_neg hc, ih, woven_modifyHead i c hne]

/-- The text with every name, which is a colon with as many characters of a word behind it as there are, read back as a
placeholder; `inName` says that what is in front of the text belongs to a name. -/
def unnamed (inName : Bool) : List Char → List Char
  | [] => []
  | c :: cs =>
    if inName && Text.isWord c then unnamed true cs
    else if c == ':' && cs.head?.any Text.isWord then '?' :: unnamed true cs
    else c :: unnamed false cs

/-! ## Names that may be read -/

/-- The characters of a word that stand behind each placeholder. -/
def wordsBehind : List Char → List (List Char)
  | [] => []
  | c :: cs => if c = '?' then cs.takeWhile Text.isWord :: wordsBehind cs else wordsBehind cs

/-- The names that may be read at the placeholders, counted from `i`: each goes on with what stands behind it. -/
def candidates (i : Nat) : List Char → List (List Char)
  | [] => []
  | c :: cs =>
    if c = '?' then ((paramName i).toList ++ cs.takeWhile Text.isWord) :: candidates (i + 1) cs else candidates i cs

theorem length_candidates (i : Nat) (cs : List Char) : (candidates i cs).length = cs.count '?' := by
  induction cs generalizing i with
  | nil => rfl
  | cons c cs ih =>
    by_cases hc : c = '?'
    · rw [candidates, if_pos hc, List.length_cons, ih, hc, List.count_cons_self]
    · rw [candidates, if_neg hc, ih, List.count_cons_of_ne hc]

/-- How much longer than the names of the placeholders the candidates are. -/
theorem sum_length_candidates (i : Nat) (cs : List Char) :
    ((candidates i cs).map List.length).sum =
      ((List.range' i (cs.count '?')).map fun j => (paramName j).toList.length).sum +
        ((wordsBehind cs).map List.length).sum := by
  induction cs generalizing i with
  | nil => rfl
  | cons c cs ih =>
    by_cases hc : c = '?'
    · subst hc
      rw [candidates, if_pos rfl, wordsBehind, if_pos rfl, List.count_cons_self, List.range'_succ]
      simp only [List.map_cons, List.sum_cons, List.length_append, ih]
      omega
    · rw [candidates, if_neg hc, wordsBehind, if_neg hc, List.count_cons_of_ne hc, ih]

theorem isWord_colon : Text.isWord ':' = false := by decide

theorem isWord_mark : Text.isWord '?' = false := by decide

theorem takeWhile_named (i : Nat) (cs : List Char) :
    (named i cs).takeWhile Text.isWord = cs.takeWhile Text.isWord := by
  induction cs with
  | nil => rfl
  | cons c cs ih =>
    by_cases hc : c = '?'
    · subst hc
      rw [named, if_pos rfl, List.cons_append, List.takeWhile_cons_of_neg (by simp [isWord_colon]),
        List.takeWhile_cons_of_neg (by simp [isWord_mark])]
    · rw [named, if_neg hc]
      cases hw : Text.isWord c
      · rw [List.takeWhile_cons_of_neg (by simp [hw]), List.takeWhile_cons_of_neg (by simp [hw])]
      · rw [List.takeWhile_cons_of_pos hw, List.takeWhile_cons_of_pos hw, ih]

/-- If a name is read behind a colon, it is all that may be. -/
theorem nameAfterColon_cases (i j : Nat) (cs : List Char) :
    nameAfterColon ((paramName i).toList ++ named j cs) = [] ∨
      nameAfterColon ((paramName i).toList ++ named j cs) = (paramName i).toList ++ cs.takeWhile Text.isWord := by
  unfold nameAfterColon
  split
  · exact .inl rfl
  · rw [List.takeWhile_append_of_pos fun c hc => isWord_of_inner (inner_paramName i c hc), takeWhile_named]
    exact .inr rfl

/-- In a text without colons nothing else is read than the candidates, in their order. -/
theorem namesFrom_sublist (free : Bool) (i : Nat) {cs : List Char} (h : ':' ∉ cs) :
    (namesFrom free (named i cs)).Sublist (candidates i cs) := by
  induction cs generalizing free i with
  | nil => exact .slnil
  | cons c cs ih =>
    obtain ⟨hcolon, hcs⟩ := not_or.1 (mt List.mem_cons.2 h)
    by_cases hc : c = '?'
    · have hne : (paramName i).toList ≠ [] := by
        rw [paramName, String.toList_append]
        simp
      rw [named, if_pos hc, candidates, if_pos hc, List.cons_append, namesFrom,
        namesFrom_word _ (inner_paramName i) hne]
      rcases nameAfterColon_cases i (i + 1) cs with hname | hname <;> rw [hname]
      · simpa using (ih false (i + 1) hcs).cons _
      · split
        · exact (ih false (i + 1) hcs).cons_cons _
        · exact (ih false (i + 1) hcs).cons _
    · have hother : (c == ':') = false := beq_eq_false_iff_ne.2 (Ne.symm hcolon)
      rw [named, if_neg hc, candidates, if_neg hc, namesFrom, hother, Bool.and_false, Bool.false_and]
      exact ih _ i hcs

theorem paramName_injective : Function.Injective fun i => (paramName i).toList := by
  intro i j h
  have hname : "sq_param_" ++ toString i = "sq_param_" ++ toString j := String.toList_inj.1 h
  exact Nat.repr_injective ((String.append_right_inj _).1 hname)

theorem nodup_paramNames (n : Nat) : (paramNames n).Nodup := List.nodup_range.map paramName_injective

section

variable {cs : List Char} (hcolon : ':' ∉ cs) (hall : paramNames (cs.count '?') ⊆ namesFrom true (named 0 cs))

include hcolon hall

/-- Where all names are read, each placeholder is needed. -/
theorem namesFrom_eq_candidates : namesFrom true (named 0 cs) = candidates 0 cs := by
  have hsublist := namesFrom_sublist true 0 hcolon
  refine hsublist.eq_of_length_le ?_
  have hlength := ((nodup_paramNames _).subperm hall).length_le
  rwa [paramNames, List.length_map, List.length_range, ← length_candidates 0] at hlength

theorem candidates_perm : (paramNames (cs.count '?')).Perm (candidates 0 cs) := by
  have hsubset := hall
  rw [namesFrom_eq_candidates hcolon hall] at hsubset
  refine ((nodup_paramNames _).subperm hsubset).perm_of_length_le ?_
  rw [length_candidates, paramNames, List.length_map, List.length_range]

/-- No placeholder is followed by a word: the names would be too long together. -/
theorem wordsBehind_eq_nil : ∀ w ∈ wordsBehind cs, w = [] := by
  have hsum := ((candidates_perm hcolon hall).map List.length).sum_eq
  rw [sum_length_candidates, paramNames, List.range_eq_range', List.map_map] at hsum
  have hzero : ((wordsBehind cs).map List.length).sum = 0 := by
    simp only [Function.comp_def] at hsum
    omega
  intro w hw
  exact List.length_eq_zero_iff.1 (List.sum_eq_zero_iff.1 hzero _ (List.mem_map_of_mem hw))

end

theorem candidates_eq (i : Nat) {cs : List Char} (h : ∀ w ∈ wordsBehind cs, w = []) :
    candidates i cs = (List.range' i (cs.count '?')).map fun j => (paramName j).toList := by
  induction cs generalizing i with
  | nil => rfl
  | cons c cs ih =>
    by_cases hc : c = '?'
    · rw [wordsBehind, if_pos hc] at h
      obtain ⟨hword, hrest⟩ := List.forall_mem_cons.1 h
      rw [candidates, if_pos hc, hword, List.append_nil, ih (i + 1) hrest, hc, List.count_cons_self, List.range'_succ,
        List.map_cons]
    · rw [wordsBehind, if_neg hc] at h
      rw [candidates, if_neg hc, ih i h, List.count_cons_of_ne hc]

/-! ## Reading back -/

theorem unnamed_word {w : List Char} (h : ∀ c ∈ w, Text.isWord c = true) (rest : List Char) :
    unnamed true (w ++ rest) = unnamed true rest := by
  induction w with
  | nil => rfl
  | cons c w ih =>
    obtain ⟨hc, hw⟩ := List.forall_mem_cons.1 h
    rw [List.cons_append, unnamed, Bool.true_and, if_pos hc, ih hw]

/-- Where no word goes on, it does not matter whether a name is in front. -/
theorem unnamed_true {cs : List Char} (h : cs.takeWhile Text.isWord = []) : unnamed true cs = unnamed false cs := by
  cases cs with
  | nil => rfl
  | cons c cs =>
    cases hc : Text.isWord c
    · rw [unnamed, unnamed, hc]
      rfl
    · rw [List.takeWhile_cons_of_pos hc] at h
      cases h

/-- A text without colons, in which no word stands behind a placeholder, is read back. -/
theorem unnamed_named (i : Nat) {cs : List Char} (hcolon : ':' ∉ cs) (h : ∀ w ∈ wordsBehind cs, w = []) :
    unnamed false (named i cs) = cs := by
  induction cs generalizing i with
  | nil => rfl
  | cons c cs ih =>
    obtain ⟨hc, hcs⟩ := not_or.1 (mt List.mem_cons.2 hcolon)
    by_cases hmark : c = '?'
    · rw [wordsBehind, if_pos hmark] at h
      obtain ⟨hword, hrest⟩ := List.forall_mem_cons.1 h
      have hhead : (((paramName i).toList ++ named (i + 1) cs).head?.any Text.isWord) = true := by
        rw [paramName, String.toList_append]
        rfl
      have hname : ∀ c ∈ (paramName i).toList, Text.isWord c = true := fun c hc => isWord_of_inner (inner_paramName i c hc)
      rw [named, if_pos hmark, List.cons_append, unnamed, Bool.false_and, if_neg Bool.false_ne_true, hhead,
        beq_self_eq_true, Bool.and_self, if_pos rfl, unnamed_word hname, unnamed_true ((takeWhile_named _ _).trans hword), ih (i + 1) hcs hrest, hmark]
    · rw [wordsBehind, if_neg hmark] at h
      have hother : (c == ':') = false := beq_eq_false_iff_ne.2 (Ne.symm hc)
      rw [named, if_neg hmark, unnamed, hother, Bool.false_and, Bool.false_and, if_neg Bool.false_ne_true,
        if_neg Bool.false_ne_true, ih i hcs h]

/-! ## Values -/

/-- What is bound for a parameter: its literal, in the domain of the type that it is bound with. -/
structure Binds (p : Param) (b : BoundParam) : Prop where
  literal : p.type.coerce p.value none = .ok b.value
  type : p.type.bindType? = some b.type
  domain : b.type.Domain b.value

theorem binds_of_bindParam {i : Nat} {p : Param} {b : BoundParam} (h : bindParam i p = .ok b) : Binds p b := by
  simp only [bindParam, bind_eq_ok] at h
  obtain ⟨v, hv, h⟩ := h
  split at h
  · rename_i t ht
    cases h
    exact ⟨hv, ht, ColumnType.bindDomain_of_domain ht (ColumnType.domain_of_literal? (ColumnType.coerce_eq_ok.1 hv))⟩
  · cases h

theorem binds_of_bindParams {i : Nat} {ps : List Param} {bs : List BoundParam} (h : bindParams i ps = .ok bs) :
    List.Forall₂ Binds ps bs := by
  induction ps generalizing i bs with
  | nil =>
    cases h
    exact .nil
  | cons p ps ih =>
    simp only [bindParams, bind_eq_ok] at h
    obtain ⟨b, hb, rest, hrest, h⟩ := h
    obtain rfl := pure_eq_ok.1 h
    exact .cons (binds_of_bindParam hb) (ih hrest)

/-- All names are read in a text that is bound. -/
theorem names_of_ofFragment {f : Fragment} {b : Bound} (h : ofFragment f = .ok b) :
    Fragment.placeholders f.text = f.params.length ∧ ∀ p ∈ b.params, p.name.toList ∈ namesFrom true (named 0 f.text.toList) := by
  simp only [ofFragment] at h
  split at h
  · obtain ⟨_, h, -⟩ := bind_eq_ok.1 h
    cases h
  · rename_i hmarks
    obtain ⟨bs, hbs, h⟩ := bind_eq_ok.1 h
    split at h
    · rename_i hall
      cases h
      refine ⟨not_not.1 hmarks, fun p hp => ?_⟩
      have hname : p.name.toList ∈ names (named 0 f.text.toList) := List.contains_iff_mem.1 (List.all_eq_true.1 hall p hp)
      exact mem_of_mem_firstsBy hname
    · cases h

theorem ofFragment_of_misfit {f : Fragment} (h : Fragment.placeholders f.text ≠ f.params.length) :
    ofFragment f = .error (.binding (.statement (Fragment.placeholders f.text) f.params.length)) := by
  simp only [ofFragment, ne_eq, h, not_false_eq_true, if_true]
  rfl

/-- A text with as many placeholders as parameters may fail to be bound, but not for their number. -/
theorem ofFragment_notBinding {f : Fragment} (h : f.WellFormed) : FailsOnly Error.NotBinding (ofFragment f) :=
  .ite (fun hn => absurd h hn) fun _ => .bind (fun e he => (bindParams_failsOnly 0 _ e he).1) fun _ _ =>
    .ite (fun _ => .ok _) fun _ => .error (Error.notBinding_failure _)

end Bound

/-- Binding a text of any kind fails because placeholders and parameters disagree if and only if their numbers differ. A text
without colons that is bound is the given one with the i-th name in place of the i-th placeholder; the names are read in it in
their order and nothing else is, and reading them back as placeholders gives the text that it was made from. The i-th name
stands for the literal of the i-th parameter, which is in the domain of the type that it is bound with. -/
theorem bound_of_ofFragment (f : Fragment) :
    ((∃ e, Bound.ofFragment f = .error e ∧ ¬e.NotBinding) ↔ Fragment.placeholders f.text ≠ f.params.length) ∧
    ∀ b, Bound.ofFragment f = .ok b → ':' ∉ f.text.toList →
      b.params.map BoundParam.name = (List.range f.params.length).map Bound.paramName ∧
      List.Forall₂ Bound.Binds f.params b.params ∧
      b.text.toList = Bound.woven 0 (f.text.toList.splitOn '?') ∧
      Bound.namesFrom true b.text.toList = Bound.paramNames f.params.length ∧
      Bound.unnamed false b.text.toList = f.text.toList := by
  constructor
  · constructor
    · rintro ⟨e, he, hbinding⟩ hmarks
      exact hbinding (Bound.ofFragment_notBinding hmarks e he)
    · intro h
      exact ⟨_, Bound.ofFragment_of_misfit h, fun hn => hn rfl⟩
  · intro b hb hcolon
    obtain ⟨htext, hparams⟩ := Bound.ofFragment_eq_ok hb
    obtain ⟨hmarks, hread⟩ := Bound.names_of_ofFragment hb
    have hnames := Bound.names_of_bindParams hparams
    rw [← List.range_eq_range'] at hnames
    -- all names are needed, so that each placeholder has to be read as its own
    have hall : Bound.paramNames (f.text.toList.count '?') ⊆ Bound.namesFrom true (Bound.named 0 f.text.toList) := by
      intro n hn
      have hcount : f.text.toList.count '?' = f.params.length := hmarks
      rw [Bound.paramNames, hcount, ← Function.comp_def, ← List.map_map, ← hnames, List.map_map] at hn
      obtain ⟨p, hp, rfl⟩ := List.mem_map.1 hn
      exact hread p hp
    have hwords := Bound.wordsBehind_eq_nil hcolon hall
    rw [htext, String.toList_ofList]
    refine ⟨hnames, Bound.binds_of_bindParams hparams, Bound.named_eq_woven 0 _, ?_, Bound.unnamed_named 0 hcolon hwords⟩
    rw [Bound.namesFrom_eq_candidates hcolon hall, Bound.candidates_eq 0 hwords, Bound.paramNames, ← hmarks,
      List.range_eq_range']
    rfl

/-- A text with two placeholders, one of them for an integer that is given as a text. -/
def Fragment.twoMarks : Fragment := ⟨"size = ? AND name IN (?)", [⟨.text " 7", .integer⟩, ⟨.text "O'Hara", .string⟩]⟩

theorem bound_twoMarks : ∃ b, Bound.ofFragment .twoMarks = .ok b ∧ ':' ∉ Fragment.twoMarks.text.toList ∧
    b.params.map BoundParam.name = [Bound.paramName 0, Bound.paramName 1] ∧
    Bound.unnamed false b.text.toList = Fragment.twoMarks.text.toList := by
  have hbound : ∃ b, Bound.ofFragment .twoMarks = .ok b := ⟨_, rfl⟩
  obtain ⟨b, hb⟩ := hbound
  have hcolon : ':' ∉ Fragment.twoMarks.text.toList := by decide
  obtain ⟨hnames, -, -, -, hback⟩ := (bound_of_ofFragment .twoMarks).2 b hb hcolon
  exact ⟨b, hb, hcolon, hnames, hback⟩

end FacetSearch

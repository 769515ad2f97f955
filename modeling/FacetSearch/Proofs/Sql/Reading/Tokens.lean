import FacetSearch.Proofs.Sql.Syntax
import FacetSearch.Proofs.Statements
/-!
# The tokens of conditions

Which tokens the fragment of a condition has, values in the places of placeholders, for each of its constructors
(`Condition.tokens_matching` and those after it). Texts are cut where no word runs on, so no text is scanned twice.
-/

namespace FacetSearch

open Sql

/-! ## Tokens of fragments -/

theorem Sql.fill_nil (ts : List Token) : fill ts [] = ts := by
  induction ts with
  | nil => rfl
  | cons t ts ih => cases t <;> simp [fill, ih]

namespace Fragment

theorem tokens_ofText (s : String) : (ofText s).tokens = Sql.tokens s := fill_nil _

theorem tokens_mk (s : String) (ps : List Param) :
    (Fragment.mk s ps).tokens = fill (Sql.tokens s) (ps.map Param.value) := rfl

/-- A fragment in front of a text that does not begin in a word. -/
theorem tokens_append_mk {f : Fragment} (hf : f.WellFormed) {s : String} (h : startsWord s = false) (ps : List Param) :
    (f ++ ⟨s, ps⟩).tokens = f.tokens ++ fill (Sql.tokens s) (ps.map Param.value) := by
  have hsplits : Splits f.text (Fragment.mk s ps).text := .inr h
  exact tokens_append hf hsplits

theorem tokens_append_ofText {f : Fragment} (hf : f.WellFormed) {s : String} (h : startsWord s = false) :
    (f ++ ofText s).tokens = f.tokens ++ Sql.tokens s := by
  rw [ofText, tokens_append_mk hf h, List.map_nil, fill_nil]

/-- A fragment behind a text that does not end in a word. -/
theorem tokens_ofText_append {s : String} (hs : (ofText s).WellFormed) (h : endsWord s = false) (f : Fragment) :
    (ofText s ++ f).tokens = Sql.tokens s ++ f.tokens := by
  have hsplits : Splits (ofText s).text f.text := .inl h
  rw [tokens_append hs hsplits, tokens_ofText]

theorem tokens_joined {separator : String} (hp : placeholders separator = 0) (hs : startsWord separator = false)
    (he : endsWord separator = false) {gs : List Fragment} (h : ∀ g ∈ gs, g.WellFormed) :
    (joined separator gs).tokens = List.intercalate (Sql.tokens separator) (gs.map tokens) := by
  have hne : separator ≠ "" := by
    rintro rfl
    cases he
  cases gs with
  | nil => rfl
  | cons g gs =>
    -- the first fragment has no separator in front of it, so the induction is on what comes after it
    induction gs generalizing g with
    | nil => simp [joined, joinedAfter]
    | cons g' gs ih =>
      have hg := h g (by simp)
      have hrest := ih g' fun x hx => h x (by simp [hx])
      have hcut : joined separator (g :: g' :: gs) = g ++ (ofText separator ++ joined separator (g' :: gs)) := by
        simp [joined, joinedAfter, append_assoc]
      have hsplits : Splits g.text (ofText separator ++ joined separator (g' :: gs)).text := by
        refine .inr ?_
        rw [text_append, text_ofText, startsWord_append hne, hs]
      rw [hcut, tokens_append hg hsplits, tokens_ofText_append (wellFormed_ofText hp) he, hrest]
      simp

theorem tokens_list {mark : String} (h : placeholders mark = 1) (values : List Param) :
    (list mark values).tokens =
      List.intercalate [.sign .comma] (values.map fun p => fill (Sql.tokens mark) [p.value]) := by
  rw [list, tokens_joined rfl rfl rfl, List.map_map]
  · rfl
  · intro g hg
    obtain ⟨v, _, rfl⟩ := List.mem_map.1 hg
    exact h

end Fragment

/-! ## References -/

/-- The column that is referred to. -/
def Sql.Term.reference (s : String) : Term :=
  match s.toList.dropWhile (· != '.') with
  | [] => .column s
  | _ :: c => .ofTable (String.ofList (s.toList.takeWhile (· != '.'))) (String.ofList c)

/-- The tokens of a reference. -/
def Sql.Term.tokens : Term → List Token
  | .column c => [.name c]
  | .ofTable t c => [.name t, .sign .dot, .name c]
  | _ => []

theorem IsName.no_dot {s : String} (h : IsName s) : ∀ c ∈ s.toList, (c != '.') = true := by
  intro c hc
  have := h.inner c hc
  rw [bne_iff_ne]
  rintro rfl
  revert this
  decide

theorem IsName.reference_eq {s : String} (h : IsName s) : Term.reference s = .column s := by
  have hdrop : (s.toList ++ []).dropWhile (· != '.') = [].dropWhile (· != '.') :=
    List.dropWhile_append_of_pos h.no_dot
  rw [List.append_nil, List.dropWhile_nil] at hdrop
  rw [Term.reference, hdrop]

theorem IsName.reference_ofTable {t : String} (h : IsName t) (c : String) :
    Term.reference (t ++ "." ++ c) = .ofTable t c := by
  have hlist : (t ++ "." ++ c).toList = t.toList ++ '.' :: c.toList := by simp
  rw [Term.reference, hlist, List.dropWhile_append_of_pos h.no_dot, List.takeWhile_append_of_pos h.no_dot]
  simp

theorem IsReference.tokens_eq {s : String} (h : IsReference s) : Sql.tokens s = (Term.reference s).tokens := by
  cases h with
  | column h => rw [h.reference_eq, tokens_name h]; rfl
  | ofTable ht hc =>
    rw [ht.reference_ofTable, tokens_append (.inl (endsWord_append _ rfl)), tokens_append (.inr rfl), tokens_name ht,
      tokens_name hc]
    rfl

/-- A reference with text around it. -/
theorem IsReference.tokens_around {s before after : String} (h : IsReference s) (hb : endsWord before = false)
    (ha : startsWord after = false) :
    Sql.tokens (before ++ s ++ after) = Sql.tokens before ++ (Term.reference s).tokens ++ Sql.tokens after := by
  rw [tokens_append (.inr ha), tokens_append (.inl hb), h.tokens_eq]

/-! ## Tokens of conditions -/

namespace Condition

open Fragment

section

variable {column : String} (h : IsReference column)

include h

theorem tokens_matching (p : Param) : (matching column p).fragment.tokens =
    (Term.reference column).tokens ++ [.sign .tilde, .sign .star, .value p.value] := by
  have hs : startsWord " ~* ?" = false := rfl
  rw [fragment_matching, tokens_append_mk (wellFormed_ofText (placeholders_eq_zero h.no_placeholder)) hs,
    tokens_ofText, h.tokens_eq]
  rfl

theorem tokens_within (low high : Param) : (within column low high).fragment.tokens =
    (Term.reference column).tokens ++ [.keyword .between, .value low.value, .keyword .and, .value high.value] := by
  have hs : startsWord " BETWEEN ? AND ?" = false := rfl
  rw [fragment_within, tokens_append_mk (wellFormed_ofText (placeholders_eq_zero h.no_placeholder)) hs,
    tokens_ofText, h.tokens_eq]
  rfl

theorem tokens_foldedEqual (p : Param) : (foldedEqual column p).fragment.tokens =
    [.keyword .upper, .sign .left] ++ (Term.reference column).tokens ++
      [.sign .right, .sign .equal, .keyword .upper, .sign .left, .value p.value, .sign .right] := by
  rw [fragment_foldedEqual, tokens_ofText_append (wellFormed_around rfl rfl h) (endsWord_append _ rfl),
    h.tokens_around rfl rfl, tokens_list rfl, List.append_assoc]
  rfl

theorem tokens_among (values : List Param) : (among column values).fragment.tokens =
    (Term.reference column).tokens ++ [.keyword .in, .sign .left] ++
      List.intercalate [.sign .comma] (values.map fun p => [.value p.value]) ++ [.sign .right] := by
  have hin : (ofText (column ++ " IN (")).WellFormed := by
    simpa using wellFormed_around (show placeholders "" = 0 from rfl) (show placeholders " IN (" = 0 from rfl) h
  rw [fragment_among, tokens_append_ofText (hin.append (wellFormed_list rfl _)) rfl,
    tokens_ofText_append hin (endsWord_append _ rfl), tokens_append (.inr rfl), h.tokens_eq, tokens_list rfl]
  rfl

theorem tokens_foldedAmong (values : List Param) : (foldedAmong column values).fragment.tokens =
    [.keyword .upper, .sign .left] ++ (Term.reference column).tokens ++
      [.sign .right, .keyword .in, .sign .left] ++
      List.intercalate [.sign .comma] (values.map fun p =>
        [.keyword .upper, .sign .left, .value p.value, .sign .right]) ++ [.sign .right] := by
  have hin := wellFormed_around (show placeholders "UPPER(" = 0 from rfl) (show placeholders ") IN (" = 0 from rfl) h
  rw [fragment_foldedAmong, tokens_append_ofText (hin.append (wellFormed_list rfl _)) rfl,
    tokens_ofText_append hin (endsWord_append _ rfl), h.tokens_around rfl rfl, tokens_list rfl]
  rfl

end

theorem tokens_anyOf {cs : List Condition} (h : ∀ c ∈ cs, c.Proper) : (anyOf cs).fragment.tokens =
    .sign .left :: (List.intercalate [.keyword .or] (cs.map fun c => c.fragment.tokens) ++ [.sign .right]) := by
  have hall : ∀ f ∈ cs.map fragment, f.WellFormed := by
    intro f hf
    obtain ⟨c, hc, rfl⟩ := List.mem_map.1 hf
    exact (h c hc).wellFormed
  have hopen : (ofText "(").WellFormed := wellFormed_ofText rfl
  rw [fragment_anyOf, tokens_append_ofText (hopen.append (wellFormed_joined rfl hall)) rfl,
    tokens_ofText_append hopen rfl, tokens_joined rfl rfl rfl hall, List.map_map]
  rfl

theorem tokens_both {a b : Condition} (ha : a.Proper) : (both a b).fragment.tokens =
    a.fragment.tokens ++ .keyword .and :: b.fragment.tokens := by
  have hand : (ofText " AND ").WellFormed := wellFormed_ofText rfl
  have hsplits : Splits a.fragment.text (ofText " AND " ++ b.fragment).text := by
    refine .inr ?_
    rw [text_append, text_ofText, startsWord_append (by decide)]
    rfl
  rw [fragment_both, append_assoc, Fragment.tokens_append ha.wellFormed hsplits, tokens_ofText_append hand rfl]
  rfl

end Condition

end FacetSearch

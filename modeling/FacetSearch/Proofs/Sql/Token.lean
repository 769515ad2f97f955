import FacetSearch.Proofs.Fragments
import FacetSearch.Proofs.Names
/-!
# Tokens of statements

What a database reads of a statement: words, signs and the values that stand in for its placeholders, from left to
right. Keywords are those words that are one in capitals; names are never reserved. `Fragment.tokens` reads a
fragment, and reads two fragments one after the other (`tokens_append`) unless a word would run on from one into the
other.
-/

namespace FacetSearch

namespace Sql

/-- A word with a meaning of its own. -/
inductive Keyword where
  | select
  | from
  | where
  | in
  | intersect
  | or
  | and
  | between
  | upper
  | limit
  | inner
  | join
  | on
  | as
  | array
  | order
  | by
  deriving DecidableEq, Repr

/-- The word for a keyword. -/
def Keyword.text : Keyword → String
  | .select => "SELECT"
  | .from => "FROM"
  | .where => "WHERE"
  | .in => "IN"
  | .intersect => "INTERSECT"
  | .or => "OR"
  | .and => "AND"
  | .between => "BETWEEN"
  | .upper => "UPPER"
  | .limit => "LIMIT"
  | .inner => "INNER"
  | .join => "JOIN"
  | .on => "ON"
  | .as => "AS"
  | .array => "ARRAY"
  | .order => "ORDER"
  | .by => "BY"

/-- All keywords. -/
def Keyword.all : List Keyword :=
  [.select, .from, .where, .in, .intersect, .or, .and, .between, .upper, .limit, .inner, .join, .on, .as, .array,
    .order, .by]

/-- A character by itself. -/
inductive Sign where
  | left
  | right
  | comma
  | dot
  | star
  | tilde
  | equal
  | less
  | greater
  | plus
  | other (c : Char)
  deriving DecidableEq, Repr

/-- The sign that a character is. -/
def Sign.ofChar (c : Char) : Sign :=
  if c = '(' then .left
  else if c = ')' then .right
  else if c = ',' then .comma
  else if c = '.' then .dot
  else if c = '*' then .star
  else if c = '~' then .tilde
  else if c = '=' then .equal
  else if c = '<' then .less
  else if c = '>' then .greater
  else if c = '+' then .plus
  else .other c

/-- A piece of a statement. -/
inductive Token where
  | keyword (k : Keyword)
  | name (s : String)
  | number (n : Nat)
  | sign (s : Sign)
  | mark
  | value (v : Value)

/-- The token that a word is. -/
def wordToken (w : List Char) : Token :=
  match Keyword.all.find? fun k => k.text.toList == w with
  | some k => .keyword k
  | none => if w.all Char.isDigit then .number (Nat.ofDigitChars 10 w 0) else .name (String.ofList w)

/-- The word that has been read, if there is one. -/
def flush (w : List Char) : List Token := if w = [] then [] else [wordToken w]

/-- The token that a character between words is. -/
def charTokens (c : Char) : List Token :=
  if c = ' ' then [] else if c = '?' then [.mark] else [.sign (.ofChar c)]

/-- The tokens of characters behind a part of a word. -/
def scan (w : List Char) : List Char → List Token
  | [] => flush w
  | c :: cs => if Name.isInner c then scan (w ++ [c]) cs else flush w ++ charTokens c ++ scan [] cs

/-- The tokens of a text. -/
def tokens (s : String) : List Token := scan [] s.toList

/-- Values in place of placeholders, from left to right. -/
def fill : List Token → List Value → List Token
  | .mark :: ts, v :: vs => .value v :: fill ts vs
  | t :: ts, vs => t :: fill ts vs
  | [], _ => []

/-! ## Where texts may be cut -/

theorem scan_append_of_head {ds : List Char} (h : ∀ d ∈ ds.head?, Name.isInner d = false) (w cs : List Char) :
    scan w (cs ++ ds) = scan w cs ++ scan [] ds := by
  induction cs generalizing w with
  | nil =>
    cases ds with
    | nil => simp [scan, flush]
    | cons d ds =>
      have hd := h d rfl
      simp [scan, flush, hd]
  | cons c cs ih =>
    rw [List.cons_append, scan, scan]
    split
    · exact ih _
    · rw [ih, List.append_assoc _ (scan [] cs)]

theorem scan_append_of_getLast {cs : List Char} (h : ∀ c ∈ cs.getLast?, Name.isInner c = false) (hne : cs ≠ [])
    (w ds : List Char) : scan w (cs ++ ds) = scan w cs ++ scan [] ds := by
  obtain ⟨cs, c, rfl⟩ := List.eq_nil_or_concat cs |>.resolve_left hne
  have hc : Name.isInner c = false := h c (by simp)
  have hhead (ds : List Char) : ∀ d ∈ (c :: ds).head?, Name.isInner d = false := by simpa using hc
  rw [List.concat_eq_append, List.append_assoc, List.singleton_append, scan_append_of_head (hhead ds), scan_append_of_head (hhead []),
    List.append_assoc]
  simp [scan, hc, flush]

/-- The text begins in a word. -/
def startsWord (s : String) : Bool := s.toList.head?.any Name.isInner

/-- The text ends in a word, or it is empty and what is in front of it may. -/
def endsWord (s : String) : Bool := s.toList.isEmpty || s.toList.getLast?.any Name.isInner

/-- No word runs on from one text into the other. -/
def Splits (s t : String) : Prop := endsWord s = false ∨ startsWord t = false

theorem startsWord_append {s : String} (h : s ≠ "") (t : String) : startsWord (s ++ t) = startsWord s := by
  cases hs : s.toList with
  | nil => exact absurd (String.toList_inj.1 hs) h
  | cons c cs => simp [startsWord, hs]

theorem endsWord_append (s : String) {t : String} (h : endsWord t = false) : endsWord (s ++ t) = false := by
  simp only [endsWord, Bool.or_eq_false_iff, String.toList_append] at h ⊢
  cases ht : t.toList with
  | nil => simp [ht] at h
  | cons c cs =>
    rw [ht] at h
    refine ⟨by simp, ?_⟩
    rw [List.getLast?_append_of_ne_nil _ (by simp)]
    exact h.2

theorem tokens_append {s t : String} (h : Splits s t) : tokens (s ++ t) = tokens s ++ tokens t := by
  rw [tokens, String.toList_append]
  rcases h with h | h
  · simp only [endsWord, Bool.or_eq_false_iff, List.isEmpty_eq_false_iff] at h
    refine scan_append_of_getLast (fun c hc => ?_) h.1 [] _
    simpa [Option.mem_def.1 hc] using h.2
  · refine scan_append_of_head (fun c hc => ?_) [] _
    simpa [startsWord, Option.mem_def.1 hc] using h

/-! ## Names -/

theorem scan_inner {w cs : List Char} (h : ∀ c ∈ cs, Name.isInner c = true) : scan w cs = flush (w ++ cs) := by
  induction cs generalizing w with
  | nil => rw [scan, List.append_nil]
  | cons c cs ih =>
    rw [scan, if_pos (h c (by simp)), ih fun d hd => h d (by simp [hd]), List.append_assoc]
    rfl

/-- A name is no keyword, as it has no capitals, and no number. -/
theorem tokens_name {s : String} (h : IsName s) : tokens s = [.name s] := by
  -- keywords have capitals and names have none
  have hkeyword : (Keyword.all.find? fun k => k.text.toList == s.toList) = none := by
    rw [List.find?_eq_none]
    intro k hk heq
    have hcapital : ∀ k ∈ Keyword.all, k.text.toList.any (fun c => c.toLower ≠ c) = true := by decide
    obtain ⟨c, hc, hlower⟩ := List.any_iff_exists_prop.1 (hcapital k hk)
    exact hlower (h.lower c (eq_of_beq heq ▸ hc))
  have hnumber : s.toList.all Char.isDigit = false := by
    have hi := h.initial
    cases hs : s.toList with
    | nil => exact absurd hs h.toList_ne_nil
    | cons c cs =>
      rw [hs] at hi
      simp only [Name.isName, Bool.and_eq_true] at hi
      have hdigit : c.isDigit = false :=
        Name.of_ascii (P := fun c => Name.isInitial c = true → c.isDigit = false) (by decide)
          (Name.toNat_lt_of_isInner (Name.isInner_of_isInitial hi.1)) hi.1
      rw [List.all_cons, hdigit, Bool.false_and]
  rw [tokens, scan_inner h.inner, List.nil_append, flush, if_neg h.toList_ne_nil, wordToken, hkeyword]
  simp [hnumber]

/-! ## Values in place of placeholders -/

/-- The token is a placeholder. -/
def Token.isMark : Token → Bool
  | .mark => true
  | _ => false

/-- There are as many placeholders among the tokens as in the text. -/
theorem countP_scan (w cs : List Char) : (scan w cs).countP Token.isMark = cs.count '?' := by
  have hflush (w : List Char) : (flush w).countP Token.isMark = 0 := by
    unfold flush wordToken
    split
    · rfl
    · split
      · rfl
      · split <;> rfl
  induction cs generalizing w with
  | nil => exact hflush w
  | cons c cs ih =>
    rw [scan]
    split
    · rename_i hc
      have hmark : c ≠ '?' := by
        rintro rfl
        revert hc
        decide
      rw [ih, List.count_cons_of_ne hmark]
    · rw [List.countP_append, List.countP_append, hflush, ih, charTokens]
      by_cases hmark : c = '?'
      · subst hmark
        simp [Token.isMark, Nat.add_comm]
      · rw [List.count_cons_of_ne hmark]
        split
        · simp
        · simp [Token.isMark]

theorem fill_cons {t : Token} (h : t.isMark = false) (ts : List Token) (vs : List Value) :
    fill (t :: ts) vs = t :: fill ts vs := by
  cases t with
  | mark => cases h
  | _ => rw [fill]; simp

theorem fill_append {ts : List Token} {vs : List Value} (h : ts.countP Token.isMark = vs.length) (us : List Token)
    (ws : List Value) : fill (ts ++ us) (vs ++ ws) = fill ts vs ++ fill us ws := by
  induction ts generalizing vs with
  | nil =>
    have : vs = [] := List.length_eq_zero_iff.1 h.symm
    simp [this, fill]
  | cons t ts ih =>
    by_cases ht : t.isMark = true
    · obtain rfl : t = .mark := by
        cases t <;> first | rfl | cases ht
      rw [List.countP_cons_of_pos ht] at h
      cases vs with
      | nil => cases h
      | cons v vs => simp only [List.cons_append, fill, ih (Nat.succ.inj h)]
    · rw [List.countP_cons_of_neg ht] at h
      have ht : t.isMark = false := by simpa using ht
      rw [List.cons_append, fill_cons ht, fill_cons ht, ih h, List.cons_append]

end Sql

/-- The tokens of a fragment, with its parameters in their places. -/
def Fragment.tokens (f : Fragment) : List Sql.Token := Sql.fill (Sql.tokens f.text) (f.params.map Param.value)

namespace Fragment

theorem tokens_append {f g : Fragment} (hf : f.WellFormed) (h : Sql.Splits f.text g.text) :
    (f ++ g).tokens = f.tokens ++ g.tokens := by
  rw [tokens, text_append, Sql.tokens_append h, params_append, List.map_append, Sql.fill_append]
  · rfl
  · rw [List.length_map, ← hf]
    exact Sql.countP_scan [] _

end Fragment

end FacetSearch

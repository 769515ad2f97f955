import FacetSearch.Proofs.Sql.Reading.Tokens
/-!
# Conditions are read as what they are meant to be

Each condition has a place in the syntax of tests (`Test.ofCondition`), and its tokens are read as just that
(`Test.reads_of_proper`). Each reader is followed over the tokens of what it reads, with anything behind them that it
leaves alone.
-/

namespace FacetSearch.Sql

/-! ## Reading terms -/

/-- What is behind a term does not belong to it. -/
def Apart (rest : List Token) : Prop := ∀ x r, rest = .sign x :: r → x ≠ .dot ∧ x ≠ .plus ∧ x ≠ .left

theorem apart_keyword (k : Keyword) (r : List Token) : Apart (.keyword k :: r) := by
  rintro x r' ⟨⟩

theorem apart_sign {x : Sign} (h : x ≠ .dot ∧ x ≠ .plus ∧ x ≠ .left) (r : List Token) : Apart (.sign x :: r) := by
  rintro y r' ⟨⟩
  exact h

namespace Term

theorem readSimple_column (c : String) {rest : List Token} (h : Apart rest) :
    readSimple (.name c :: rest) = some (.column c, rest) := by
  cases rest with
  | nil => rfl
  | cons t rest =>
    cases t with
    | sign x =>
      have := (h x rest rfl).1
      cases x <;> first | rfl | contradiction
    | _ => rfl

theorem readFactor_name {c : String} {rest : List Token} (h : ∀ r, rest ≠ .sign .left :: r) :
    readFactor (.name c :: rest) = readSimple (.name c :: rest) := by
  unfold readFactor
  split
  · rename_i heq
    cases heq
  · rename_i heq
    cases heq
    exact absurd rfl (h _)
  · rfl

theorem readFactor_column (c : String) {rest : List Token} (hr : Apart rest) :
    readFactor (.name c :: rest) = some (.column c, rest) := by
  rw [readFactor_name fun r h => (hr _ r h).2.2 rfl, readSimple_column c hr]

theorem readFactor_ofTable (t c : String) (rest : List Token) :
    readFactor (.name t :: .sign .dot :: .name c :: rest) = some (.ofTable t c, rest) :=
  readFactor_name fun r h => by cases h

theorem read_of_readFactor {ts rest : List Token} {e : Term} (h : readFactor ts = some (e, rest)) (hr : Apart rest) :
    read ts = some (e, rest) := by
  simp only [read, h, Option.bind_eq_bind, Option.bind_some]
  split
  · exact absurd rfl (hr _ _ rfl).2.1
  · rfl

theorem read_column (c : String) {rest : List Token} (hr : Apart rest) :
    read (.name c :: rest) = some (.column c, rest) :=
  read_of_readFactor (readFactor_column c hr) hr

theorem read_ofTable (t c : String) {rest : List Token} (hr : Apart rest) :
    read (.name t :: .sign .dot :: .name c :: rest) = some (.ofTable t c, rest) :=
  read_of_readFactor (readFactor_ofTable t c rest) hr

theorem readSimple_reference {s : String} (h : IsReference s) {rest : List Token} (hr : Apart rest) :
    readSimple ((reference s).tokens ++ rest) = some (reference s, rest) := by
  cases h with
  | column h =>
    rw [h.reference_eq]
    exact readSimple_column _ hr
  | ofTable ht hc =>
    rw [ht.reference_ofTable]
    rfl

theorem read_reference {s : String} (h : IsReference s) {rest : List Token} (hr : Apart rest) :
    read ((reference s).tokens ++ rest) = some (reference s, rest) := by
  cases h with
  | column h =>
    rw [h.reference_eq]
    exact read_column _ hr
  | ofTable ht hc =>
    rw [ht.reference_ofTable]
    exact read_ofTable _ _ hr

theorem read_value (v : Value) {rest : List Token} (hr : Apart rest) :
    read (.value v :: rest) = some (.value v, rest) :=
  read_of_readFactor rfl hr

theorem read_upperValue (v : Value) {rest : List Token} (hr : Apart rest) :
    read (.keyword .upper :: .sign .left :: .value v :: .sign .right :: rest) = some (.upper (.value v), rest) :=
  read_of_readFactor rfl hr

theorem read_upperReference {s : String} (h : IsReference s) {rest : List Token} (hr : Apart rest) :
    read (.keyword .upper :: .sign .left :: ((reference s).tokens ++ .sign .right :: rest)) =
      some (.upper (reference s), rest) := by
  refine read_of_readFactor ?_ hr
  rw [readFactor, readArgument, readSimple_reference h (apart_sign (by decide) _)]
  rfl

/-- A list of terms is read from their tokens with commas between them. -/
theorem readList_map {α : Type} (spell : α → List Token) (term : α → Term)
    (h : ∀ a rest, Apart rest → read (spell a ++ rest) = some (term a, rest)) {as : List α} (hne : as ≠ [])
    {n : Nat} (hn : as.length ≤ n) (rest : List Token) :
    readList n (List.intercalate [.sign .comma] (as.map spell) ++ .sign .right :: rest) =
      some (as.map term, .sign .right :: rest) := by
  induction as generalizing n with
  | nil => exact absurd rfl hne
  | cons a as ih =>
    obtain ⟨n, rfl⟩ : ∃ m, n = m + 1 := ⟨n - 1, by simp only [List.length_cons] at hn; omega⟩
    cases as with
    | nil =>
      have hread := h a (.sign .right :: rest) (apart_sign (by decide) rest)
      simp only [List.map_cons, List.map_nil, List.intercalate_singleton, readList, hread, Option.bind_eq_bind,
        Option.bind_some]
    | cons b as =>
      have hread := h a (.sign .comma :: (List.intercalate [.sign .comma] ((b :: as).map spell) ++ .sign .right :: rest))
        (apart_sign (by decide) _)
      have hrest := ih (by simp) (n := n) (by simpa using hn)
      simp only [List.map_cons, List.intercalate_cons_cons, List.nil_append, List.append_assoc, List.cons_append,
        readList, Option.bind_eq_bind] at hread hrest ⊢
      rw [hread]
      simp only [Option.bind_some, hrest]

end Term

/-! ## Reading conditions -/

mutual

/-- The test that a condition is. -/
def Test.ofCondition : Condition → Test
  | .matching column p => .isMatch (.reference column) (.value p.value)
  | .among column values => .among (.reference column) (values.map fun p => .value p.value)
  | .foldedAmong column values => .among (.upper (.reference column)) (values.map fun p => .upper (.value p.value))
  | .foldedEqual column p => .equal (.upper (.reference column)) (.upper (.value p.value))
  | .within column low high => .between (.reference column) (.value low.value) (.value high.value)
  | .anyOf alternatives => Test.ofAlternatives alternatives
  | .both first second => .and (Test.ofCondition first) (Test.ofCondition second)

/-- The test that alternatives are. -/
def Test.ofAlternatives : List Condition → Test
  | [] => .always
  | [c] => Test.ofCondition c
  | c :: cs => .or (Test.ofCondition c) (Test.ofAlternatives cs)

end

namespace Test

/-- What is behind tests does not belong to them. -/
structure Ends (rest : List Token) : Prop where
  apart : Apart rest
  and : ∀ r, rest ≠ .keyword .and :: r
  or : ∀ r, rest ≠ .keyword .or :: r

theorem readBoth_of_readOne {n : Nat} {ts rest : List Token} {t : Test} (h : readOne n ts = some (t, rest))
    (hr : ∀ r, rest ≠ .keyword .and :: r) : readBoth (n + 1) ts = some (t, rest) := by
  simp only [readBoth, h, Option.bind_eq_bind, Option.bind_some]

theorem read_of_readBoth {n : Nat} {ts rest : List Token} {t : Test} (h : readBoth n ts = some (t, rest))
    (hr : ∀ r, rest ≠ .keyword .or :: r) : read (n + 1) ts = some (t, rest) := by
  simp only [read, h, Option.bind_eq_bind, Option.bind_some]

theorem readOne_reference {s : String} (h : IsReference s) (n : Nat) {rest : List Token} (hr : Apart rest) :
    readOne (n + 1) ((Term.reference s).tokens ++ rest) = readOf n (Term.reference s) rest := by
  have hread := Term.read_reference h hr
  cases h with
  | column h =>
    rw [h.reference_eq] at hread ⊢
    simp only [Term.tokens, List.cons_append, List.nil_append] at hread ⊢
    simp only [readOne, hread, Option.bind_eq_bind, Option.bind_some]
  | ofTable ht hc =>
    rw [ht.reference_ofTable] at hread ⊢
    simp only [Term.tokens, List.cons_append, List.nil_append] at hread ⊢
    simp only [readOne, hread, Option.bind_eq_bind, Option.bind_some]

theorem readOne_upper {s : String} (h : IsReference s) (n : Nat) {rest : List Token} (hr : Apart rest) :
    readOne (n + 1) (.keyword .upper :: .sign .left :: ((Term.reference s).tokens ++ .sign .right :: rest)) =
      readOf n (.upper (Term.reference s)) rest := by
  simp only [readOne, Term.read_upperReference h hr, Option.bind_eq_bind, Option.bind_some]

/-- The condition is read as its test, if there is fuel for each of its tokens. -/
def ReadsOne (c : Condition) : Prop := ∀ n rest, 3 * c.fragment.tokens.length ≤ n + 1 → Apart rest →
  readOne n (c.fragment.tokens ++ rest) = some (ofCondition c, rest)

/-- The condition is read as its test where tests with `AND` between them are. -/
def ReadsBoth (c : Condition) : Prop := ∀ n rest, 3 * c.fragment.tokens.length ≤ n → Apart rest →
  (∀ r, rest ≠ .keyword .and :: r) → readBoth n (c.fragment.tokens ++ rest) = some (ofCondition c, rest)

section

variable {s : String} (h : IsReference s)

include h

theorem readsOne_matching (p : Param) : ReadsOne (.matching s p) := by
  intro n rest hn hr
  rw [Condition.tokens_matching h] at hn ⊢
  simp only [List.length_append, List.length_cons, List.length_nil] at hn
  obtain ⟨n, rfl⟩ : ∃ m, n = m + 2 := ⟨n - 2, by omega⟩
  simp only [List.append_assoc, List.cons_append, List.nil_append]
  rw [readOne_reference h _ (apart_sign (by decide) _)]
  simp only [readOf, Term.read_value p.value hr, Option.bind_eq_bind, Option.bind_some, ofCondition]

theorem readsOne_within (low high : Param) : ReadsOne (.within s low high) := by
  intro n rest hn hr
  rw [Condition.tokens_within h] at hn ⊢
  simp only [List.length_append, List.length_cons, List.length_nil] at hn
  obtain ⟨n, rfl⟩ : ∃ m, n = m + 2 := ⟨n - 2, by omega⟩
  simp only [List.append_assoc, List.cons_append, List.nil_append]
  rw [readOne_reference h _ (apart_keyword _ _)]
  simp only [readOf, Term.read_value low.value (apart_keyword _ _), Term.read_value high.value hr,
    Option.bind_eq_bind, Option.bind_some, ofCondition]

theorem readsOne_foldedEqual (p : Param) : ReadsOne (.foldedEqual s p) := by
  intro n rest hn hr
  rw [Condition.tokens_foldedEqual h] at hn ⊢
  simp only [List.length_append, List.length_cons, List.length_nil] at hn
  obtain ⟨n, rfl⟩ : ∃ m, n = m + 2 := ⟨n - 2, by omega⟩
  simp only [List.append_assoc, List.cons_append, List.nil_append]
  rw [readOne_upper h _ (apart_sign (by decide) _)]
  simp only [readOf, Term.read_upperValue p.value hr, Option.bind_eq_bind, Option.bind_some, ofCondition]

end

theorem length_le_intercalate {α : Type} (spell : α → List Token) (h : ∀ a, spell a ≠ []) (sep : List Token)
    (as : List α) : as.length ≤ (List.intercalate sep (as.map spell)).length := by
  induction as with
  | nil => simp
  | cons a as ih =>
    have ha := List.length_pos_iff.2 (h a)
    cases as with
    | nil => simpa [Nat.succ_le_iff] using ha
    | cons b as =>
      simp only [List.map_cons, List.intercalate_cons_cons, List.length_append, List.length_cons] at ih ⊢
      omega

/-- A list of terms between parentheses is read to its end. -/
theorem readOf_list (e : Term) (spell : Param → List Token) (term : Param → Term)
    (h : ∀ p rest, Apart rest → Term.read (spell p ++ rest) = some (term p, rest))
    (hne : ∀ p, spell p ≠ [] ∧ (spell p).head? ≠ some (.keyword .select)) {values : List Param} (hv : values ≠ [])
    {n : Nat} (hn : values.length ≤ n) (rest : List Token) :
    readOf (n + 1) e (.keyword .in :: .sign .left ::
        (List.intercalate [.sign .comma] (values.map spell) ++ .sign .right :: rest)) =
      some (.among e (values.map term), rest) := by
  have hlist := Term.readList_map spell term h hv hn rest
  have hselect (r : List Token) :
      List.intercalate [.sign .comma] (values.map spell) ++ .sign .right :: rest ≠ .keyword .select :: r := by
    cases values with
    | nil => exact absurd rfl hv
    | cons p ps =>
      -- the first token of a list of terms begins no query
      obtain ⟨t, ts, hts⟩ := List.exists_cons_of_ne_nil (hne p).1
      have ht := (hne p).2
      intro heq
      cases ps <;> simp_all
  unfold readOf
  split <;> simp_all

theorem readsOne_among {s : String} (h : IsReference s) {values : List Param} (hv : values ≠ []) :
    ReadsOne (.among s values) := by
  intro n rest hn hr
  have hlen := length_le_intercalate (fun p : Param => [.value p.value]) (by simp) [.sign .comma] values
  rw [Condition.tokens_among h] at hn ⊢
  simp only [List.length_append, List.length_cons, List.length_nil] at hn
  obtain ⟨n, rfl⟩ : ∃ m, n = m + 2 := ⟨n - 2, by omega⟩
  simp only [List.append_assoc, List.cons_append, List.nil_append]
  rw [readOne_reference h _ (apart_keyword _ _)]
  exact readOf_list _ (fun p => [.value p.value]) (fun p => .value p.value) (fun p _ => Term.read_value p.value)
    (fun p => ⟨by simp, by simp⟩) hv (by omega) rest

theorem readsOne_foldedAmong {s : String} (h : IsReference s) {values : List Param} (hv : values ≠ []) :
    ReadsOne (.foldedAmong s values) := by
  intro n rest hn hr
  have hlen := length_le_intercalate (fun p : Param => [.keyword .upper, .sign .left, .value p.value, .sign .right])
    (by simp) [.sign .comma] values
  rw [Condition.tokens_foldedAmong h] at hn ⊢
  simp only [List.length_append, List.length_cons, List.length_nil] at hn
  obtain ⟨n, rfl⟩ : ∃ m, n = m + 2 := ⟨n - 2, by omega⟩
  simp only [List.append_assoc, List.cons_append, List.nil_append]
  rw [readOne_upper h _ (apart_keyword _ _)]
  exact readOf_list _ (fun p => [.keyword .upper, .sign .left, .value p.value, .sign .right])
    (fun p => .upper (.value p.value)) (fun p _ => Term.read_upperValue p.value) (fun p => ⟨by simp, by simp⟩) hv
    (by omega) rest

/-- Alternatives are read one after the other. -/
theorem read_alternatives {cs : List Condition} (hne : cs ≠ []) (h : ∀ c ∈ cs, ReadsBoth c) {n : Nat}
    (hn : 3 * (List.intercalate [.keyword .or] (cs.map fun c => c.fragment.tokens)).length + 1 ≤ n)
    (rest : List Token) :
    read n (List.intercalate [.keyword .or] (cs.map fun c => c.fragment.tokens) ++ .sign .right :: rest) =
      some (ofAlternatives cs, .sign .right :: rest) := by
  induction cs generalizing n with
  | nil => exact absurd rfl hne
  | cons c cs ih =>
    obtain ⟨n, rfl⟩ : ∃ m, n = m + 1 := ⟨n - 1, by omega⟩
    have hc := h c (by simp)
    cases cs with
    | nil =>
      simp only [List.map_cons, List.map_nil, List.intercalate_singleton] at hn ⊢
      exact read_of_readBoth (hc n _ (by omega) (apart_sign (by decide) rest) (by simp)) (by simp)
    | cons c' cs =>
      simp only [List.map_cons, List.intercalate_cons_cons, List.nil_append, List.append_assoc, List.cons_append,
        List.length_append, List.length_cons] at hn ih ⊢
      have hread := hc n (.keyword .or ::
        (List.intercalate [.keyword .or] (c'.fragment.tokens :: cs.map fun c => c.fragment.tokens) ++
          .sign .right :: rest)) (by omega) (apart_keyword _ _) (by simp)
      have hrest := ih (by simp) (fun x hx => h x (by simp [hx])) (n := n) (by omega)
      simp only [read, hread, Option.bind_eq_bind, Option.bind_some, hrest, ofAlternatives]

theorem readsBoth_of_readsOne {c : Condition} (h : ReadsOne c) (hne : c.fragment.tokens ≠ []) : ReadsBoth c := by
  intro n rest hn hr hand
  have := List.length_pos_iff.2 hne
  obtain ⟨n, rfl⟩ : ∃ m, n = m + 1 := ⟨n - 1, by omega⟩
  exact readBoth_of_readOne (h n rest hn hr) hand

theorem reads_of_readsOne {c : Condition} (h : ReadsOne c) (hne : c.fragment.tokens ≠ []) :
    (c.IsPredicate → ReadsOne c) ∧ ReadsBoth c :=
  ⟨fun _ => h, readsBoth_of_readsOne h hne⟩

theorem readsOne_anyOf {cs : List Condition} (hne : cs ≠ []) (h : ∀ c ∈ cs, c.Proper) (hr : ∀ c ∈ cs, ReadsBoth c) :
    ReadsOne (.anyOf cs) := by
  intro n rest hn _
  rw [Condition.tokens_anyOf h] at hn ⊢
  simp only [List.length_append, List.length_cons, List.length_nil] at hn
  obtain ⟨n, rfl⟩ : ∃ m, n = m + 1 := ⟨n - 1, by omega⟩
  have hread := read_alternatives hne hr (n := n) (by omega) rest
  simp only [List.append_assoc, List.cons_append, List.nil_append]
  simp only [readOne, hread, Option.bind_eq_bind, Option.bind_some, ofCondition]

/-- Conditions are read as what they are. -/
theorem reads_of_proper {c : Condition} (h : c.Proper) : (c.IsPredicate → ReadsOne c) ∧ ReadsBoth c := by
  -- a conjunction is no single test, so the two readers are followed together
  induction h with
  | @matching column p h => exact reads_of_readsOne (readsOne_matching h p) (by simp [Condition.tokens_matching h])
  | @among column values h hv => exact reads_of_readsOne (readsOne_among h hv) (by simp [Condition.tokens_among h])
  | @foldedAmong column values h hv =>
    exact reads_of_readsOne (readsOne_foldedAmong h hv) (by simp [Condition.tokens_foldedAmong h])
  | @foldedEqual column p h =>
    exact reads_of_readsOne (readsOne_foldedEqual h p) (by simp [Condition.tokens_foldedEqual h])
  | @within column low high h =>
    exact reads_of_readsOne (readsOne_within h low high) (by simp [Condition.tokens_within h])
  | @anyOf cs hne hcs ih =>
    exact reads_of_readsOne (readsOne_anyOf hne hcs fun c hc => (ih c hc).2) (by simp [Condition.tokens_anyOf hcs])
  | @both a b ha h₁ h₂ ih₁ ih₂ =>
    refine ⟨fun h => absurd h id, fun n rest hn hr hand => ?_⟩
    rw [Condition.tokens_both h₁] at hn ⊢
    simp only [List.length_append, List.length_cons] at hn
    obtain ⟨n, rfl⟩ : ∃ m, n = m + 1 := ⟨n - 1, by omega⟩
    have hfirst := ih₁.1 ha n (.keyword .and :: (b.fragment.tokens ++ rest)) (by omega) (apart_keyword _ _)
    have hsecond := ih₂.2 n rest (by omega) hr hand
    simp only [List.append_assoc, List.cons_append]
    simp only [readBoth, hfirst, hsecond, Option.bind_eq_bind, Option.bind_some, ofCondition]

end Test

end FacetSearch.Sql

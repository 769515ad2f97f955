import FacetSearch.Proofs.Regex.Reader
import FacetSearch.Sql.Pattern
/-!
# Expressions in groups

An expression is read in the same way wherever it stands between parentheses, since what is open around it is not
touched before it is closed (`Reader.run_within`). So an expression in a group is one atom (`Reader.run_grouped`), and
groups with bars between them are read as what one of them is (`read_joined`), whatever parentheses, brackets, bars or
escapes they hold.
-/

namespace FacetSearch.Regex

namespace Expression

/-- What stands inside the bracket expressions, from left to right. -/
def insides : Expression → List (List Char)
  | .brackets inside => [inside]
  | .cat a b | .either a b => insides a ++ insides b
  | .star a | .plus a | .opt a => insides a
  | .nothing | .char _ | .any | .start | .finish => []

/-- One of some expressions, each in a group of its own. -/
def groups : List Expression → Expression
  | [] => .nothing
  | e :: es => es.foldl (fun a b => .either a (.cat .nothing b)) (.cat .nothing e)

/-- One of some expressions; a single one needs no group. -/
def joined : List Expression → Expression
  | [e] => e
  | es => groups es

theorem insides_groups (es : List Expression) : (groups es).insides = es.flatMap insides := by
  have further (e : Expression) (es : List Expression) :
      (es.foldl (fun a b => .either a (.cat .nothing b)) e).insides = e.insides ++ es.flatMap insides := by
    induction es generalizing e with
    | nil => simp
    | cons b es ih => simp [ih, insides]
  cases es with
  | nil => rfl
  | cons e es => simp [groups, further, insides]

theorem insides_joined (es : List Expression) : (joined es).insides = es.flatMap insides := by
  unfold joined
  split
  · simp
  · exact insides_groups es

end Expression

namespace Comparison

variable {k : Comparison} {pre mid post text : List Char}

theorem matches_groups {es : List Expression} (hne : es ≠ []) :
    k.Matches (.groups es) pre mid post ↔ ∃ e ∈ es, k.Matches e pre mid post := by
  have further (e : Expression) (es : List Expression) :
      k.Matches (es.foldl (fun a b => .either a (.cat .nothing b)) e) pre mid post ↔
        k.Matches e pre mid post ∨ ∃ b ∈ es, k.Matches b pre mid post := by
    induction es generalizing e with
    | nil => simp
    | cons b es ih => simp [ih, matches_either, or_assoc]
  cases es with
  | nil => exact absurd rfl hne
  | cons e es => simp [Expression.groups, further]

theorem matches_joined {es : List Expression} (hne : es ≠ []) :
    k.Matches (.joined es) pre mid post ↔ ∃ e ∈ es, k.Matches e pre mid post := by
  unfold Expression.joined
  split
  · simp
  · exact matches_groups hne

/-- What is joined is found where one of the expressions is. -/
theorem found_joined {es : List Expression} (hne : es ≠ []) : k.Found (.joined es) text ↔ ∃ e ∈ es, k.Found e text := by
  constructor
  · rintro ⟨pre, mid, post, htext, h⟩
    obtain ⟨e, he, h⟩ := (matches_joined hne).1 h
    exact ⟨e, he, pre, mid, post, htext, h⟩
  · rintro ⟨e, he, pre, mid, post, htext, h⟩
    exact ⟨pre, mid, post, htext, (matches_joined hne).2 ⟨e, he, h⟩⟩

end Comparison

/-! ## Reading between parentheses -/

namespace Reader

/-- The reader with more parentheses open around it. -/
def within (r : Reader) (fs : List Frame) : Reader := ⟨r.mode, r.frame, r.outer ++ fs⟩

theorem plain_within {r r' : Reader} {c : Char} (h : r.plain c = some r') (fs : List Frame) :
    (r.within fs).plain c = some (r'.within fs) := by
  unfold plain at h ⊢
  split at h
  case h_10 =>
    -- a closing parenthesis is refused if nothing is open, so that none of those around is ever closed
    split at h
    · cases h
    · rename_i f gs houter
      cases h
      simp [within, houter]
  case h_6 | h_7 | h_8 =>
    obtain ⟨f, hf, rfl⟩ := Option.map_eq_some_iff.1 h
    simp [within, hf]
  case h_12 => cases h
  case h_13 =>
    cases h
    simp_all [within]
  all_goals
    cases h
    rfl

theorem step_within {r r' : Reader} {c : Char} (h : r.step c = some r') (fs : List Frame) :
    (r.within fs).step c = some (r'.within fs) := by
  obtain ⟨mode, f, gs⟩ := r
  cases mode with
  | plain => exact plain_within h fs
  | escape =>
    unfold step at h ⊢
    simp only [within] at h ⊢
    split at h
    · cases h
    · rename_i hc
      cases h
      simp [hc]
  | opened =>
    unfold step at h ⊢
    simp only [within] at h ⊢
    split at h
    · rename_i hc
      cases h
      simp [hc]
    · rename_i hc
      rw [if_neg hc]
      exact plain_within h fs
  | option =>
    unfold step at h ⊢
    simp only [within] at h ⊢
    split at h
    · rename_i hc
      cases h
      simp [hc]
    · cases h
  | brackets place inside =>
    unfold step at h ⊢
    simp only [within] at h ⊢
    split at h
    · cases h
      rfl
    · cases h
      rfl

theorem run_within {r r' : Reader} {cs : List Char} (h : r.run cs = some r') (fs : List Frame) :
    (r.within fs).run cs = some (r'.within fs) := by
  induction cs generalizing r with
  | nil =>
    cases h
    rfl
  | cons c cs ih =>
    rw [run] at h
    split at h
    · cases h
    · rename_i r'' hc
      rw [run_cons (step_within hc fs)]
      exact ih h

/-- What is read as an expression leaves nothing open. -/
theorem exists_run_of_read {text : List Char} {e : Expression} (h : Expression.read text = some e) :
    ∃ f : Frame, run ⟨.plain, .fresh, []⟩ text = some ⟨.plain, f, []⟩ ∧ f.whole = e := by
  unfold Expression.read at h
  obtain ⟨r, hr, hfinish⟩ := Option.bind_eq_some_iff.1 h
  unfold finish at hfinish
  split at hfinish
  · cases hfinish
    exact ⟨_, hr, rfl⟩
  · cases hfinish

/-- An expression in a group is read as one atom. -/
theorem run_grouped {text : List Char} {e : Expression} (h : Expression.read text = some e) (f : Frame) (fs : List Frame)
    (rest : List Char) : run ⟨.plain, f, fs⟩ (Pattern.grouped text ++ rest) = run ⟨.plain, f.atom e, fs⟩ rest := by
  obtain ⟨g, hg, rfl⟩ := exists_run_of_read h
  have hgroup : Pattern.grouped text ++ rest = '(' :: '?' :: ':' :: (text ++ ')' :: rest) := by
    simp [Pattern.grouped]
  have hinside : run ⟨.plain, .fresh, f :: fs⟩ text = some ⟨.plain, g, f :: fs⟩ := run_within hg (f :: fs)
  rw [hgroup, run_cons rfl, run_cons rfl, run_cons rfl, run_append hinside, run_cons rfl]

end Reader

/-! ## Reading what is joined -/

section

variable {texts : List (List Char)} {es : List Expression}

theorem run_bars_grouped {text : List Char} {e : Expression} (h : Expression.read text = some e)
    (hes : List.Forall₂ (fun t e => Expression.read t = some e) texts es) (f : Frame) :
    Reader.run ⟨.plain, f, []⟩ (Pattern.bars ((text :: texts).map Pattern.grouped)) =
      some ⟨.plain, es.foldl (fun f e => f.bar.atom e) (f.atom e), []⟩ := by
  induction hes generalizing text e f with
  | nil =>
    have hone : Pattern.bars ([text].map Pattern.grouped) = Pattern.grouped text ++ [] := by
      simp [Pattern.bars, List.intercalate]
    rw [hone, Reader.run_grouped h]
    rfl
  | @cons next e' texts es hnext _ ih =>
    have hmore : Pattern.bars ((text :: next :: texts).map Pattern.grouped) =
        Pattern.grouped text ++ '|' :: Pattern.bars ((next :: texts).map Pattern.grouped) := by
      simp [Pattern.bars, List.intercalate]
    rw [hmore, Reader.run_grouped h, Reader.run_cons rfl]
    exact ih hnext (f.atom e).bar

theorem whole_atoms (f : Frame) (es : List Expression) :
    (es.foldl (fun f e => f.bar.atom e) f).whole = es.foldl (fun a b => .either a (.cat .nothing b)) f.whole := by
  induction es generalizing f with
  | nil => rfl
  | cons e es ih =>
    rw [List.foldl_cons, ih, List.foldl_cons]
    rfl

/-- Expressions that are joined are read as one of them: a single one as it is, several as groups. -/
theorem read_joined (hne : es ≠ []) (hes : List.Forall₂ (fun t e => Expression.read t = some e) texts es) :
    Expression.read (Pattern.ofExpressions texts) = some (.joined es) := by
  cases hes with
  | nil => exact absurd rfl hne
  | @cons text e texts es h hes =>
    cases hes with
    | nil => exact h
    | @cons next e' texts es hnext hes =>
      have hjoined : Pattern.ofExpressions (text :: next :: texts) =
          Pattern.bars ((text :: next :: texts).map Pattern.grouped) := rfl
      rw [hjoined, Expression.read, run_bars_grouped h (.cons hnext hes), Option.bind_some]
      simp only [Reader.finish, whole_atoms]
      rfl

end

end FacetSearch.Regex

import FacetSearch.Proofs.Regex.Reader
import FacetSearch.Sql.Pattern
import Mathlib.Data.List.DropRight
/-!
# What patterns for groups match

The pattern for a group of literals is written as a text and read as a regular expression. It reads as
`Pattern.expression`, whatever characters the literals have, and is found in those texts that agree with one of them
in the way of the match mode (`found_forGroup`).
-/

namespace FacetSearch

open Regex

namespace Pattern

/-! ## Reading -/

theorem isAlphanum_of_metacharacter {c : Char} (h : c ∈ metacharacters) : c.isAlphanum = false := by
  have all : metacharacters.all (fun c => !c.isAlphanum) = true := by decide
  simpa using List.all_eq_true.1 all c h

/-- What is no metacharacter is read for itself. -/
theorem plain_char {r : Reader} {c : Char} (h : c ∉ metacharacters) :
    r.plain c = some ⟨.plain, r.frame.atom (.char c), r.outer⟩ := by
  unfold Reader.plain
  split <;> first | rfl | exact absurd (by decide) h

section

variable (f : Frame) (fs : List Frame)

/-- An escaped character is read as that character. -/
theorem run_escapeChar (c : Char) (rest : List Char) :
    Reader.run ⟨.plain, f, fs⟩ (escapeChar c ++ rest) = Reader.run ⟨.plain, f.atom (.char c), fs⟩ rest := by
  unfold escapeChar
  split
  · rename_i h
    have hc := isAlphanum_of_metacharacter (List.contains_iff_mem.1 h)
    have hstep : Reader.step ⟨.escape, f, fs⟩ c = some ⟨.plain, f.atom (.char c), fs⟩ := by
      simp [Reader.step, hc]
    exact (Reader.run_cons rfl).trans (Reader.run_cons hstep)
  · rename_i h
    exact Reader.run_cons (plain_char fun hc => h (List.contains_iff_mem.2 hc))

theorem run_escapeChars (cs rest : List Char) :
    Reader.run ⟨.plain, f, fs⟩ (escapeChars cs ++ rest) = Reader.run ⟨.plain, f.chars cs, fs⟩ rest := by
  induction cs generalizing f with
  | nil => rfl
  | cons c cs ih =>
    have hcons : escapeChars (c :: cs) ++ rest = escapeChar c ++ (escapeChars cs ++ rest) := by
      simp [escapeChars]
    rw [hcons, run_escapeChar, ih]
    rfl

theorem bars_singleton (cs : List Char) : bars ([cs].map escapeChars) = escapeChars cs := by
  simp [bars, List.intercalate]

theorem bars_cons (cs cs' : List Char) (texts : List (List Char)) :
    bars ((cs :: cs' :: texts).map escapeChars) = escapeChars cs ++ '|' :: bars ((cs' :: texts).map escapeChars) := by
  simp [bars, List.intercalate]

theorem run_bars (cs : List Char) (texts : List (List Char)) (rest : List Char) :
    Reader.run ⟨.plain, f, fs⟩ (bars ((cs :: texts).map escapeChars) ++ rest) =
      Reader.run ⟨.plain, texts.foldl (fun f cs => f.bar.chars cs) (f.chars cs), fs⟩ rest := by
  induction texts generalizing f cs with
  | nil =>
    rw [bars_singleton, run_escapeChars]
    rfl
  | cons cs' texts ih =>
    rw [bars_cons, List.append_assoc, run_escapeChars, List.cons_append, Reader.run_cons rfl, ih]
    rfl

end

theorem whole_branches (f : Frame) (texts : List (List Char)) :
    (texts.foldl (fun f cs => f.bar.chars cs) f).whole =
      texts.foldl (fun e cs => .either e (.followedBy .nothing cs)) f.whole := by
  induction texts generalizing f with
  | nil => rfl
  | cons cs texts ih =>
    have hbar : (f.bar.chars cs).whole = .either f.whole (.followedBy .nothing cs) := by
      rw [Frame.whole, Frame.before_chars, Frame.settled_chars]
      rfl
    rw [List.foldl_cons, ih, hbar, List.foldl_cons]

theorem whole_chars (cs : List Char) : (Frame.fresh.chars cs).whole = .followedBy .nothing cs := by
  rw [Frame.whole, Frame.before_chars, Frame.settled_chars]
  rfl

theorem escapeChar_eq_cons (c : Char) : ∃ d ds, escapeChar c = d :: ds ∧ d ≠ '?' := by
  unfold escapeChar
  split
  · exact ⟨'\\', [c], rfl, by decide⟩
  · rename_i h
    refine ⟨c, [], rfl, ?_⟩
    rintro rfl
    exact h (by decide)

/-- Branches do not begin like an option. -/
theorem bars_eq_cons (cs cs' : List Char) (texts : List (List Char)) : ∃ c rest,
    bars ((cs :: cs' :: texts).map escapeChars) = c :: rest ∧ c ≠ '?' := by
  rw [bars_cons]
  cases cs with
  | nil => exact ⟨'|', _, rfl, by decide⟩
  | cons c cs =>
    obtain ⟨d, ds, hd, hne⟩ := escapeChar_eq_cons c
    rw [escapeChars, List.flatMap_cons, hd]
    exact ⟨d, _, rfl, hne⟩

/-- An alternation is read as one of its texts, behind what is there. -/
theorem run_alternation {texts : List (List Char)} (hne : texts ≠ []) (f : Frame) (fs : List Frame) :
    ∃ g : Frame, g.before = f.before ∧ g.settled = f.settled.thenOneOf texts ∧
      ∀ rest, Reader.run ⟨.plain, f, fs⟩ (alternation (texts.map escapeChars) ++ rest) =
        Reader.run ⟨.plain, g, fs⟩ rest := by
  match texts with
  | [] => exact absurd rfl hne
  | [cs] => exact ⟨f.chars cs, f.before_chars cs, f.settled_chars cs, run_escapeChars f fs cs⟩
  | cs :: cs' :: texts =>
    refine ⟨f.atom (.choice (cs :: cs' :: texts)), rfl, rfl, fun rest => ?_⟩
    have hgroup : alternation ((cs :: cs' :: texts).map escapeChars) ++ rest =
        '(' :: (bars ((cs :: cs' :: texts).map escapeChars) ++ ')' :: rest) := by
      simp [alternation]
    have hopened : Reader.run ⟨.opened, .fresh, f :: fs⟩ (bars ((cs :: cs' :: texts).map escapeChars) ++ ')' :: rest) =
        Reader.run ⟨.plain, .fresh, f :: fs⟩ (bars ((cs :: cs' :: texts).map escapeChars) ++ ')' :: rest) := by
      obtain ⟨c, tail, hc, hne⟩ := bars_eq_cons cs cs' texts
      rw [hc]
      exact Reader.run_opened hne
    have hwhole : ((cs' :: texts).foldl (fun f cs => f.bar.chars cs) (Frame.fresh.chars cs)).whole =
        .choice (cs :: cs' :: texts) := by
      rw [whole_branches, whole_chars]
      rfl
    rw [hgroup, Reader.run_cons rfl, hopened, run_bars, ← hwhole]
    exact Reader.run_cons rfl

/-- The expression for a group of texts. -/
def expression (texts : List (List Char)) : MatchMode → Expression
  | .whole => .cat (.thenOneOf (.cat .nothing .start) texts) .finish
  | .subtree =>
    .cat (.cat (.thenOneOf (.cat .nothing .start) texts) (.opt (.cat (.cat .nothing (.char '/')) (.star .any)))) .finish
  | .word =>
    .cat (.thenOneOf (.cat .nothing (.either (.cat .nothing .start) (.cat .nothing (.char '/')))) texts)
      (.either (.cat .nothing (.char '/')) (.cat .nothing .finish))

/-- What stands in front of an alternation leaves a frame, and what stands behind it goes on from the next one. -/
theorem read_between {texts : List (List Char)} (hne : texts ≠ []) (opening closing : List Char) (o : Expression)
    {f : Frame} {e : Expression} (ho : Reader.run ⟨.plain, .fresh, []⟩ opening = some ⟨.plain, f, []⟩)
    (hf : f.before = none ∧ f.settled = o)
    (hc : ∀ g : Frame, g.before = none → g.settled = o.thenOneOf texts →
      (Reader.run ⟨.plain, g, []⟩ closing).bind Reader.finish = some e) :
    Expression.read (opening ++ alternation (texts.map escapeChars) ++ closing) = some e := by
  obtain ⟨g, hbefore, hsettled, hrun⟩ := run_alternation hne f []
  rw [Expression.read, List.append_assoc, Reader.run_append ho, hrun]
  exact hc g (hbefore.trans hf.1) (hf.2 ▸ hsettled)

theorem read_ofBranches (mode : MatchMode) {texts : List (List Char)} (hne : texts ≠ []) :
    Expression.read (ofBranches mode (texts.map escapeChars)) = some (expression texts mode) := by
  cases mode with
  | whole =>
    refine read_between hne ['^'] ['$'] (.cat .nothing .start) rfl ⟨rfl, rfl⟩ fun g hbefore hsettled => ?_
    have hread : (Reader.run ⟨.plain, g, []⟩ ['$']).bind Reader.finish = some (g.fixed .finish).whole := rfl
    have hwhole : (g.fixed .finish).whole = .cat g.settled .finish := Frame.whole_of_before hbefore
    rw [hread, hwhole, hsettled]
    rfl
  | subtree =>
    refine read_between hne ['^'] "(/.*)?$".toList (.cat .nothing .start) rfl ⟨rfl, rfl⟩ fun g hbefore hsettled => ?_
    let below : Frame := ⟨g.before, .cat g.settled (.opt (.cat (.cat .nothing (.char '/')) (.star .any))), none⟩
    have hread : (Reader.run ⟨.plain, g, []⟩ "(/.*)?$".toList).bind Reader.finish =
        some (below.fixed .finish).whole := rfl
    have hwhole : (below.fixed .finish).whole =
        .cat (.cat g.settled (.opt (.cat (.cat .nothing (.char '/')) (.star .any)))) .finish :=
      Frame.whole_of_before hbefore
    rw [hread, hwhole, hsettled]
    rfl
  | word =>
    refine read_between hne "(^|/)".toList "(/|$)".toList
      (.cat .nothing (.either (.cat .nothing .start) (.cat .nothing (.char '/')))) rfl ⟨rfl, rfl⟩
      fun g hbefore hsettled => ?_
    let last : Expression := .either (.cat .nothing (.char '/')) (.cat .nothing .finish)
    have hread : (Reader.run ⟨.plain, g, []⟩ "(/|$)".toList).bind Reader.finish = some (g.atom last).whole := rfl
    have hwhole : (g.atom last).whole = .cat g.settled last := Frame.whole_of_before hbefore
    rw [hread, hwhole, hsettled]
    rfl

/-! ## Matching -/

/-- A text agrees with a literal in the way of a match mode. -/
def Agrees (k : Comparison) : MatchMode → List Char → List Char → Prop
  | .whole, literal, text => k.Alike literal text
  | .subtree, literal, text => k.Alike (literal.rdropWhile (· == '/')) text ∨
    ∃ x y, text = x ++ '/' :: y ∧ k.Alike (literal.rdropWhile (· == '/')) x
  | .word, literal, text => ∃ before x after, text = before ++ x ++ after ∧ k.Alike literal x ∧
    (before = [] ∨ before.getLast? = some '/') ∧ (after = [] ∨ after.head? = some '/')

section

variable {k : Comparison} {texts : List (List Char)} {text pre mid post : List Char}

/-- One of some texts, behind the start of a text. -/
theorem matches_opening (hne : texts ≠ []) : k.Matches (.thenOneOf (.cat .nothing .start) texts) pre mid post ↔
    pre = [] ∧ ∃ cs ∈ texts, k.Alike cs mid := by
  rw [Comparison.matches_thenOneOf hne]
  simp only [Comparison.matches_nothing_cat, Comparison.matches_start]
  constructor
  · rintro ⟨_, y, rfl, ⟨rfl, rfl⟩, h⟩
    exact ⟨rfl, h⟩
  · rintro ⟨rfl, h⟩
    exact ⟨[], mid, rfl, ⟨rfl, rfl⟩, h⟩

theorem matches_cat_finish {e : Expression} :
    k.Matches (.cat e .finish) pre mid post ↔ post = [] ∧ k.Matches e pre mid [] := by
  rw [Comparison.matches_cat]
  constructor
  · rintro ⟨x, _, rfl, h, rfl, rfl⟩
    exact ⟨rfl, by simpa using h⟩
  · rintro ⟨rfl, h⟩
    exact ⟨mid, [], by simp, h, rfl, rfl⟩

theorem found_whole (hne : texts ≠ []) : k.Found (expression texts .whole) text ↔ ∃ cs ∈ texts, k.Alike cs text := by
  constructor
  · rintro ⟨pre, mid, post, rfl, h⟩
    obtain ⟨rfl, hmid⟩ := matches_cat_finish.1 h
    obtain ⟨rfl, hcs⟩ := (matches_opening hne).1 hmid
    simpa using hcs
  · intro h
    exact ⟨[], text, [], by simp, matches_cat_finish.2 ⟨rfl, (matches_opening hne).2 ⟨rfl, h⟩⟩⟩

variable (slash : ∀ c, k.same '/' c → c = '/')

include slash

theorem matches_slash : k.Matches (.cat .nothing (.char '/')) pre mid post ↔ mid = ['/'] := by
  rw [Comparison.matches_nothing_cat, Comparison.matches_char]
  constructor
  · rintro ⟨d, rfl, h⟩
    rw [slash d h]
  · rintro rfl
    exact ⟨'/', rfl, k.equivalence.refl '/'⟩

/-- A slash and anything behind it, or nothing. -/
theorem matches_below : k.Matches (.opt (.cat (.cat .nothing (.char '/')) (.star .any))) pre mid post ↔
    mid = [] ∨ ∃ y, mid = '/' :: y := by
  rw [Comparison.Matches, Comparison.matches_cat]
  simp only [matches_slash slash, Comparison.matches_star_any, and_true]
  refine or_congr_right ⟨?_, ?_⟩
  · rintro ⟨_, y, rfl, rfl⟩
    exact ⟨y, rfl⟩
  · rintro ⟨y, rfl⟩
    exact ⟨['/'], y, rfl, rfl⟩

theorem found_subtree (hne : texts ≠ []) : k.Found (expression texts .subtree) text ↔
    ∃ cs ∈ texts, k.Alike cs text ∨ ∃ x y, text = x ++ '/' :: y ∧ k.Alike cs x := by
  constructor
  · rintro ⟨pre, mid, post, rfl, h⟩
    obtain ⟨rfl, x, y, rfl, hx, hy⟩ := matches_cat_finish.1 h
    obtain ⟨rfl, cs, hcs, hcsx⟩ := (matches_opening hne).1 hx
    refine ⟨cs, hcs, ?_⟩
    rcases (matches_below slash).1 hy with rfl | ⟨y, rfl⟩
    · exact .inl (by simpa using hcsx)
    · exact .inr ⟨x, y, by simp, hcsx⟩
  · rintro ⟨cs, hcs, h | ⟨x, y, rfl, h⟩⟩
    · refine ⟨[], text, [], by simp, matches_cat_finish.2 ⟨rfl, text, [], by simp, ?_, ?_⟩⟩
      · exact (matches_opening hne).2 ⟨rfl, cs, hcs, h⟩
      · exact (matches_below slash).2 (.inl rfl)
    · refine ⟨[], x ++ '/' :: y, [], by simp, matches_cat_finish.2 ⟨rfl, x, '/' :: y, rfl, ?_, ?_⟩⟩
      · exact (matches_opening hne).2 ⟨rfl, cs, hcs, h⟩
      · exact (matches_below slash).2 (.inr ⟨y, rfl⟩)

/-- What is matched in front of a word: the start of the text, or a slash. -/
theorem matches_before_word : k.Matches (.cat .nothing (.either (.cat .nothing .start) (.cat .nothing (.char '/'))))
    pre mid post ↔ pre = [] ∧ mid = [] ∨ mid = ['/'] := by
  rw [Comparison.matches_nothing_cat, Comparison.matches_either, Comparison.matches_nothing_cat,
    Comparison.matches_start, matches_slash slash]

/-- What is matched behind a word: a slash, or the end of the text. -/
theorem matches_after_word : k.Matches (.either (.cat .nothing (.char '/')) (.cat .nothing .finish)) pre mid post ↔
    mid = ['/'] ∨ mid = [] ∧ post = [] := by
  rw [Comparison.matches_either, Comparison.matches_nothing_cat (e := .finish), Comparison.matches_finish,
    matches_slash slash]

theorem found_word (hne : texts ≠ []) : k.Found (expression texts .word) text ↔
    ∃ cs ∈ texts, ∃ before x after, text = before ++ x ++ after ∧ k.Alike cs x ∧
      (before = [] ∨ before.getLast? = some '/') ∧ (after = [] ∨ after.head? = some '/') := by
  constructor
  · rintro ⟨pre, _, post, rfl, w, z, rfl, hw, hz⟩
    obtain ⟨o, x, rfl, ho, cs, hcs, hx⟩ := (Comparison.matches_thenOneOf hne).1 hw
    refine ⟨cs, hcs, pre ++ o, x, z ++ post, by simp, hx, ?_, ?_⟩
    · rcases (matches_before_word slash).1 ho with ⟨rfl, rfl⟩ | rfl
      · exact .inl rfl
      · exact .inr (by simp)
    · rcases (matches_after_word slash).1 hz with rfl | ⟨rfl, rfl⟩
      · exact .inr rfl
      · exact .inl rfl
  · rintro ⟨cs, hcs, before, x, after, rfl, hx, hb, ha⟩
    -- the slashes on both sides belong to the match
    obtain ⟨pre, o, rfl, ho⟩ : ∃ pre o, before = pre ++ o ∧ (pre = [] ∧ o = [] ∨ o = ['/']) := by
      rcases hb with rfl | hb
      · exact ⟨[], [], rfl, .inl ⟨rfl, rfl⟩⟩
      · obtain ⟨pre, rfl⟩ := List.getLast?_eq_some_iff.1 hb
        exact ⟨pre, ['/'], rfl, .inr rfl⟩
    obtain ⟨z, post, rfl, hz⟩ : ∃ z post, after = z ++ post ∧ (z = ['/'] ∨ z = [] ∧ post = []) := by
      rcases ha with rfl | ha
      · exact ⟨[], [], rfl, .inr ⟨rfl, rfl⟩⟩
      · obtain ⟨post, rfl⟩ := List.head?_eq_some_iff.1 ha
        exact ⟨['/'], post, rfl, .inl rfl⟩
    refine ⟨pre, o ++ x ++ z, post, by simp, o ++ x, z, rfl, ?_, (matches_after_word slash).2 hz⟩
    exact (Comparison.matches_thenOneOf hne).2 ⟨o, x, rfl, (matches_before_word slash).2 ho, cs, hcs, hx⟩

end

/-- The text that is escaped for a literal: in the subtree of a literal it has no slashes at its end. -/
def unescaped (mode : MatchMode) (literal : List Char) : List Char :=
  match mode with
  | .subtree => literal.rdropWhile (· == '/')
  | .whole | .word => literal

theorem branch_eq (mode : MatchMode) (literal : List Char) : branch mode literal = escapeChars (unescaped mode literal) := by
  cases mode <;> rfl

/-- The pattern for a group is found in just those texts that agree with one of its literals, whatever characters the
literals have. Characters may count as the same, as those of both cases do, but no other one as a slash. -/
theorem found_forGroup (mode : MatchMode) {literals : List String} (hne : literals ≠ []) :
    ∃ e, Expression.read (forGroup mode literals).toList = some e ∧
      ∀ k : Comparison, (∀ c, k.same '/' c → c = '/') → ∀ text : String,
        k.Found e text.toList ↔ ∃ literal ∈ literals, Agrees k mode literal.toList text.toList := by
  have hbranches : (literals.map String.toList).map (branch mode) =
      (literals.map fun l => unescaped mode l.toList).map escapeChars := by
    simp [branch_eq]
  have hne' : (literals.map fun l => unescaped mode l.toList) ≠ [] := by simpa using hne
  refine ⟨expression (literals.map fun l => unescaped mode l.toList) mode, ?_, fun k slash text => ?_⟩
  · rw [forGroup, String.toList_ofList, ofLiterals, hbranches, read_ofBranches mode hne']
  · cases mode with
    | whole => exact (found_whole hne').trans (by simp [Agrees, unescaped])
    | subtree => exact (found_subtree slash hne').trans (by simp [Agrees, unescaped])
    | word => exact (found_word slash hne').trans (by simp [Agrees, unescaped])

/-! ### The subtree of a literal -/

/-- Letters of both cases count as the same. -/
def caseless : Comparison where
  same c d := c.toLower = d.toLower
  equivalence := ⟨fun _ => rfl, Eq.symm, Eq.trans⟩
  isInside inside c := c ∈ inside

instance (a b : List Char) : Decidable (caseless.Alike a b) :=
  inferInstanceAs (Decidable (List.Forall₂ (fun c d => c.toLower = d.toLower) a b))

theorem eq_slash_of_toLower {c : Char} (h : '/'.toLower = c.toLower) : c = '/' := by
  change '/' = c.toLower at h
  unfold Char.toLower at h
  split at h
  · rename_i hc
    have hval : '/'.val.toNat = (c.val + ('a'.val - 'A'.val)).toNat := congrArg (fun c : Char => c.val.toNat) h
    have hlow : 'A'.val.toNat ≤ c.val.toNat := hc.1
    have hhigh : c.val.toNat ≤ 'Z'.val.toNat := hc.2
    simp at hval hlow hhigh
    omega
  · exact h.symm

theorem found_birds : ∃ e, Expression.read (forGroup .subtree ["Birds (all)/", "a.b"]).toList = some e ∧
    caseless.Found e "BIRDS (ALL)/owls".toList ∧ ¬ caseless.Found e "axb".toList := by
  obtain ⟨e, he, h⟩ := found_forGroup .subtree (show ["Birds (all)/", "a.b"] ≠ [] by simp)
  refine ⟨e, he, ?_, ?_⟩
  · rw [h caseless (fun _ => eq_slash_of_toLower)]
    exact ⟨_, List.mem_cons_self, .inr ⟨"BIRDS (ALL)".toList, "owls".toList, rfl, by decide⟩⟩
  · rw [h caseless (fun _ => eq_slash_of_toLower)]
    rintro ⟨literal, hl, ha | ⟨x, y, hxy, -⟩⟩
    · rcases List.mem_pair.1 hl with rfl | rfl
      · exact absurd ha (by decide)
      · exact absurd ha (by decide)
    · have hslash : '/' ∈ "axb".toList := hxy ▸ by simp
      exact absurd hslash (by decide)

end Pattern

end FacetSearch

import FacetSearch.Proofs.Digits
/-!
# Integers as numerals

The digits of an integer, read as a binary64 number, stand for the number that is nearest to the integer
(`Numeral.double?_toString`).
-/

namespace FacetSearch

namespace Text

theorem digit?_of_isDigit {c : Char} (h : c.isDigit = true) : digit? c = some (c.toNat - 48) := by
  have hascii := toNat_of_isDigit h
  rw [digit?, if_pos (by omega), if_pos h]

theorem isDigit_of_isDigit {c : Char} (h : c.isDigit = true) : isDigit c = true := by
  rw [isDigit, digit?_of_isDigit h]
  rfl

end Text

namespace Numeral

variable {cs : List Char} (h : ∀ c ∈ cs, c.isDigit = true)

include h

theorem digits?_of_isDigit : digits? cs = some (cs.map fun c => c.toNat - 48) := by
  unfold digits?
  induction cs with
  | nil => rfl
  | cons c cs ih =>
    obtain ⟨hc, hcs⟩ := List.forall_mem_cons.1 h
    rw [List.mapM_cons, Text.digit?_of_isDigit hc, ih hcs]
    rfl

theorem splitSign_of_isDigit : splitSign cs = (false, cs) := by
  unfold splitSign
  split
  · exact absurd (h '+' List.mem_cons_self) (by decide)
  · exact absurd (h '-' List.mem_cons_self) (by decide)
  · rfl

theorem isWordOf_of_isDigit (hne : cs ≠ []) {word : String} (hword : ∀ c ∈ word.toList, c.isDigit = false) :
    isWordOf cs word = false := by
  obtain ⟨c, cs, rfl⟩ := List.exists_cons_of_ne_nil hne
  have hc := h c List.mem_cons_self
  have hascii := (Text.toNat_of_isDigit hc).2
  have hlower : c.toLower = c :=
    Name.of_ascii (P := fun c => c.isDigit = true → c.toLower = c) (by decide) (by omega) hc
  rw [isWordOf, beq_eq_false_iff_ne, List.map_cons, hlower]
  intro hw
  have hdigit := hword c (hw ▸ List.mem_cons_self)
  rw [hc] at hdigit
  cases hdigit

theorem dropUnderscores_of_isDigit (afterDigit : Bool) : dropUnderscores afterDigit cs = some cs := by
  induction cs generalizing afterDigit with
  | nil => rfl
  | cons c cs ih =>
    obtain ⟨hc, hcs⟩ := List.forall_mem_cons.1 h
    have hne : c ≠ '_' := by
      rintro rfl
      cases hc
    rw [dropUnderscores, if_neg hne, ih hcs]
    · rfl
    · rintro d ds rfl
      exact absurd rfl hne

/-- Digits without point and exponent are read as the number nearest to what they stand for. -/
theorem magnitude?_of_isDigit (negative : Bool) (hne : cs ≠ []) :
    magnitude? negative cs = some (Double.ofDecimal negative (value cs) 0) := by
  have hdigits : ∀ c ∈ cs, Text.isDigit c = true := fun c hc => Text.isDigit_of_isDigit (h c hc)
  have htake : cs.takeWhile Text.isDigit = cs := List.takeWhile_eq_self_iff.2 hdigits
  have hdrop : cs.dropWhile Text.isDigit = [] := List.dropWhile_eq_nil_iff.2 hdigits
  have hlength : 0 < (cs.map fun c => c.toNat - 48).length := by
    rw [List.length_map]
    exact List.length_pos_of_ne_nil hne
  simp only [magnitude?, htake, hdrop, List.append_nil, digits?_of_isDigit h, exponent?, Option.bind_eq_bind,
    Option.bind_some, guard, hlength, if_true, List.length_nil]
  rfl

end Numeral

namespace Double

/-- An integer in decimal notation is that integer. -/
theorem ofDecimal_of_ofUnits? {negative : Bool} {m : Nat} {d : Double} (h : ofUnits? negative (m * one) 1 = some d) :
    ofDecimal negative m 0 = d := by
  unfold ofDecimal
  by_cases hm : m = 0
  · subst hm
    have hround : roundUnits 0 1 = 0 := by
      simp [roundUnits, (step_pos 0).ne']
    simp only [Nat.zero_mul, ofUnits?, hround, dif_pos tooLarge_pos] at h
    exact Option.some.inj h
  · rw [if_neg hm, if_neg (by decide), if_neg (by omega), if_pos (by decide)]
    have hpow : m * Nat.pow 10 (0 : Int).toNat = m := Nat.mul_one m
    rw [hpow, ofUnits, h, Option.getD_some]

end Double

namespace Numeral

/-- Digits with or without a minus are read as the number nearest to what they stand for. -/
theorem double?_signed {cs : List Char} (h : ∀ c ∈ cs, c.isDigit = true) (hne : cs ≠ []) (negative : Bool) :
    double? ((if negative then ['-'] else []) ++ cs) = some (Double.ofDecimal negative (value cs) 0) := by
  have hgraphic : ∀ c ∈ (if negative then ['-'] else []) ++ cs, Text.isNumberBlank c = false := by
    intro c hc
    have hc : Text.IsGraphic c := by
      rcases List.mem_append.1 hc with hc | hc
      · split at hc
        · obtain rfl := List.mem_singleton.1 hc
          decide
        · cases hc
      · exact Text.isGraphic_of_isDigit (h c hc)
    rw [Text.isNumberBlank, hc.isBlank_eq, Bool.false_and]
  have htrim := Text.trim_of_ends (fun c hc => hgraphic c (List.mem_of_mem_head? hc))
    fun c hc => hgraphic c (List.mem_of_getLast? hc)
  have hunderscores : dropUnderscores false ((if negative then ['-'] else []) ++ cs) =
      some ((if negative then ['-'] else []) ++ cs) := by
    cases negative with
    | false => exact dropUnderscores_of_isDigit h false
    | true =>
      rw [if_pos rfl, List.singleton_append, dropUnderscores, if_neg (by decide), dropUnderscores_of_isDigit h]
      · rfl
      · nofun
  have hsplit : splitSign ((if negative then ['-'] else []) ++ cs) = (negative, cs) := by
    cases negative with
    | false => exact splitSign_of_isDigit h
    | true => rfl
  have hword (word : String) (hw : ∀ c ∈ word.toList, c.isDigit = false) : isWordOf cs word = false :=
    isWordOf_of_isDigit h hne hw
  simp only [double?, htrim, hunderscores, Option.bind_eq_bind, Option.bind_some, hsplit, hword "inf" (by simp),
    hword "infinity" (by simp), hword "nan" (by simp), Bool.or_self, Bool.false_eq_true, if_false,
    magnitude?_of_isDigit h negative hne]

/-- An integer is written as its digits, behind a minus if it is negative. -/
theorem toList_toString (n : Int) :
    (toString n).toList = (if decide (n < 0) then ['-'] else []) ++ Nat.toDigits 10 n.natAbs := by
  rw [show toString n = n.repr from rfl, Int.repr_eq_if]
  by_cases hn : 0 ≤ n
  · rw [if_pos hn, decide_eq_false (by omega), Nat.toList_repr, show n.toNat = n.natAbs by omega]
    rfl
  · rw [if_neg hn, decide_eq_true (by omega), String.toList_append, Nat.toList_repr, show (-n).toNat = n.natAbs by omega]
    rfl

/-- The digits of an integer stand for the number nearest to it. -/
theorem double?_toString {n : Int} {d : Double} (h : Double.ofInt? n = some d) :
    double? (toString n).toList = some d := by
  rw [toList_toString, double?_signed isDigit_toDigits (Nat.toDigits_ne_nil), value_toDigits,
    Double.ofDecimal_of_ofUnits? h]

end Numeral

end FacetSearch

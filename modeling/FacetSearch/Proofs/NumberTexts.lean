import FacetSearch.Number.ExactDecimal
import FacetSearch.Proofs.Composites
import FacetSearch.Proofs.ShortestDecimals
import Mathlib.Data.List.TakeWhile
/-!
# Texts of binary64 numbers

A layout of digits is read as the number that the digits stand for, wherever its point is and whether it has an exponent
(`Double.readAs_layout`). So the text of a magnitude says what its shortest decimal is, and finite numbers with one text
are the same (`Double.text_injective`). No text of a finite number spells an integer, as it has a point or an exponent.
-/

namespace FacetSearch

open Numeral (value)

/-! ## Reading -/

namespace Numeral

theorem value_append (cs ds : List Char) : value (cs ++ ds) = value cs * 10 ^ ds.length + value ds := by
  rw [value_eq, value_eq, value_eq, Nat.ofDigitChars_append, Nat.ofDigitChars_eq_ofDigitChars_zero, Nat.mul_comm]

theorem value_replicate_zero (n : Nat) : value (List.replicate n '0') = 0 := by
  rw [value_eq, Nat.ofDigitChars_replicate_zero, Nat.mul_zero]

variable {whole fraction tail : List Char} {e : Int}

theorem takeWhile_isDigit (hwhole : ∀ c ∈ whole, c.isDigit = true) (htail : ∀ c ∈ tail.head?, Text.isDigit c = false) :
    (whole ++ tail).takeWhile Text.isDigit = whole ∧ (whole ++ tail).dropWhile Text.isDigit = tail := by
  have hdigits : ∀ c ∈ whole, Text.isDigit c = true := fun c hc => Text.isDigit_of_isDigit (hwhole c hc)
  rw [List.takeWhile_append_of_pos hdigits, List.dropWhile_append_of_pos hdigits, Text.takeWhile_of_head htail,
    Text.dropWhile_of_head htail, List.append_nil]
  exact ⟨rfl, rfl⟩

/-- An exponent is read as it is written. -/
theorem exponent?_exponentText (e : Int) : exponent? ('e' :: Double.exponentText e) = some e := by
  have hdigits : ∀ ds : List Char, ds = Nat.toDigits 10 e.natAbs ∨ ds = '0' :: Nat.toDigits 10 e.natAbs →
      (∀ c ∈ ds, c.isDigit = true) ∧ ds ≠ [] ∧ value ds = e.natAbs := by
    rintro ds (rfl | rfl)
    · exact ⟨isDigit_toDigits, Nat.toDigits_ne_nil, value_toDigits _⟩
    · refine ⟨List.forall_mem_cons.2 ⟨by decide, isDigit_toDigits⟩, List.cons_ne_nil _ _, ?_⟩
      rw [← List.singleton_append, value_append, value_toDigits, show value ['0'] = 0 from rfl, Nat.zero_mul, Nat.zero_add]
  unfold Double.exponentText
  dsimp only
  generalize hds : (if (Nat.toDigits 10 e.natAbs).length < 2 then '0' :: Nat.toDigits 10 e.natAbs
    else Nat.toDigits 10 e.natAbs) = ds
  obtain ⟨hall, hne, hvalue⟩ := hdigits ds (by rw [← hds]; split <;> simp)
  have hlength : 0 < (ds.map fun c => c.toNat - 48).length := by
    rw [List.length_map]
    exact List.length_pos_of_ne_nil hne
  have hof : ofDigits (ds.map fun c => c.toNat - 48) = e.natAbs := hvalue
  by_cases he : e < 0
  · rw [if_pos he]
    simp only [exponent?, splitSign, digits?_of_isDigit hall, hof, true_or, guard, if_true, hlength, Option.bind_eq_bind,
      Option.bind_some, Option.pure_def]
    exact congrArg some (by omega)
  · rw [if_neg he]
    simp only [exponent?, splitSign, digits?_of_isDigit hall, hof, true_or, guard, if_true, hlength, Option.bind_eq_bind,
      Option.bind_some, Option.pure_def, Bool.false_eq_true, if_false]
    exact congrArg some (by omega)

end Numeral

namespace ExactDecimal

variable {whole fraction tail : List Char} {e : Int} (negative : Bool)

/-- Digits with a point between them are read as a coefficient whose digits behind the point count for the exponent. -/
theorem magnitude?_point (hwhole : ∀ c ∈ whole, c.isDigit = true) (hfraction : ∀ c ∈ fraction, c.isDigit = true)
    (hne : whole ++ fraction ≠ []) (htail : ∀ c ∈ tail.head?, Text.isDigit c = false)
    (he : Numeral.exponent? tail = some e) :
    magnitude? negative (whole ++ '.' :: (fraction ++ tail)) =
      some (finite negative (value (whole ++ fraction)) (e - fraction.length)) := by
  have hpoint : ∀ c ∈ ('.' :: (fraction ++ tail)).head?, Text.isDigit c = false := fun c hc => by
    obtain rfl := Option.mem_some.1 hc
    decide
  obtain ⟨htake, hdrop⟩ := Numeral.takeWhile_isDigit hwhole hpoint
  obtain ⟨htake', hdrop'⟩ := Numeral.takeWhile_isDigit hfraction htail
  have hlength : 0 < ((whole ++ fraction).map fun c => c.toNat - 48).length := by
    rw [List.length_map]
    exact List.length_pos_of_ne_nil hne
  simp only [magnitude?, htake, hdrop, htake', hdrop', Numeral.digits?_of_isDigit (List.forall_mem_append.2 ⟨hwhole, hfraction⟩),
    he, hlength, guard, if_true, Option.bind_eq_bind, Option.bind_some, Option.pure_def]
  rfl

/-- The letter in front of an exponent ends the digits. -/
theorem isDigit_exponent (ds : List Char) : ∀ c ∈ ('e' :: ds).head?, Text.isDigit c = false := fun c hc => by
  obtain rfl := Option.mem_some.1 hc
  decide

/-- Digits without a point are read as a coefficient. -/
theorem magnitude?_whole (hwhole : ∀ c ∈ whole, c.isDigit = true) (hne : whole ≠ []) {ds : List Char}
    (he : Numeral.exponent? ('e' :: ds) = some e) :
    magnitude? negative (whole ++ 'e' :: ds) = some (finite negative (value whole) e) := by
  obtain ⟨htake, hdrop⟩ := Numeral.takeWhile_isDigit hwhole (isDigit_exponent ds)
  have hlength : 0 < (whole.map fun c => c.toNat - 48).length := by
    rw [List.length_map]
    exact List.length_pos_of_ne_nil hne
  simp only [magnitude?, htake, hdrop]
  split
  · rename_i heq
    exact absurd (List.cons.inj heq).1 (by decide)
  · simp only [List.append_nil, Numeral.digits?_of_isDigit hwhole, he, hlength, guard, if_true, Option.bind_eq_bind,
      Option.bind_some, Option.pure_def, List.length_nil, Nat.cast_zero, Int.sub_zero]
    rfl

end ExactDecimal

/-! ## Layouts -/

namespace Double

/-- A text is read as a magnitude that stands for a number. -/
def ReadAs (cs : List Char) (x : ℚ) : Prop :=
  ∃ c e, ExactDecimal.magnitude? false cs = some (.finite false c e) ∧ (c : ℚ) * 10 ^ e = x

theorem isDigit_zeros (n : Nat) : ∀ c ∈ List.replicate n '0', c.isDigit = true := fun c hc => by
  rw [List.eq_of_mem_replicate hc]
  decide

/-- Digits with a point and nothing behind them. -/
theorem readAs_point {whole fraction : List Char} (hwhole : ∀ c ∈ whole, c.isDigit = true)
    (hfraction : ∀ c ∈ fraction, c.isDigit = true) (hne : whole ++ fraction ≠ []) :
    ReadAs (whole ++ '.' :: fraction) (value (whole ++ fraction) * 10 ^ (-(fraction.length : Int))) := by
  have hend : ∀ c ∈ ([] : List Char).head?, Text.isDigit c = false := fun _ hc => nomatch hc
  have h := ExactDecimal.magnitude?_point false hwhole hfraction hne hend rfl
  rw [List.append_nil] at h
  exact ⟨_, _, h, by rw [Int.zero_sub]⟩

section

variable {ds : List Char} (hds : ∀ c ∈ ds, c.isDigit = true)
include hds

/-- Digits behind zeros and a point. -/
theorem readAs_behindZeros (n : Nat) :
    ReadAs ('0' :: '.' :: List.replicate n '0' ++ ds) (value ds * 10 ^ (-(n : Int) - ds.length)) := by
  have h := readAs_point (isDigit_zeros 1) (List.forall_mem_append.2 ⟨isDigit_zeros n, hds⟩) (by simp)
  rw [Numeral.value_append, Numeral.value_append, Numeral.value_replicate_zero, Numeral.value_replicate_zero,
    Nat.zero_mul, Nat.zero_mul, Nat.zero_add, Nat.zero_add, List.length_append, List.length_replicate, Nat.cast_add,
    Int.neg_add] at h
  exact h

/-- Digits in front of zeros and a point. -/
theorem readAs_filled {n : Nat} (hlength : ds.length ≤ n) :
    ReadAs (ds ++ List.replicate (n - ds.length) '0' ++ ['.', '0']) (value ds * 10 ^ ((n : Int) - ds.length)) := by
  have h := readAs_point (List.forall_mem_append.2 ⟨hds, isDigit_zeros (n - ds.length)⟩) (isDigit_zeros 1) (by simp)
  have hvalue : (value (ds ++ List.replicate (n - ds.length) '0' ++ List.replicate 1 '0') : ℚ) * 10 ^ (-((1 : Nat) : Int)) =
      value ds * 10 ^ ((n : Int) - ds.length) := by
    rw [Numeral.value_append, Numeral.value_append, Numeral.value_replicate_zero, Numeral.value_replicate_zero,
      List.length_replicate, List.length_replicate, ← Nat.cast_sub hlength, zpow_natCast, zpow_neg, zpow_natCast]
    push_cast
    field_simp
    ring
  exact hvalue ▸ h

/-- Digits with a point among them. -/
theorem readAs_split {n : Nat} (hlength : n ≤ ds.length) (hne : ds ≠ []) :
    ReadAs (ds.take n ++ '.' :: ds.drop n) (value ds * 10 ^ ((n : Int) - ds.length)) := by
  have hsplit := List.take_append_drop n ds
  have hall := List.forall_mem_append.1 (hsplit.symm ▸ hds)
  have h := readAs_point hall.1 hall.2 (hsplit.symm ▸ hne)
  rw [hsplit, List.length_drop, Nat.cast_sub hlength, Int.neg_sub] at h
  exact h

/-- Digits with an exponent, and with a point behind the first if there are more. -/
theorem readAs_scientific (n : Int) (hne : ds ≠ []) :
    ReadAs (ds.take 1 ++ (if (ds.drop 1).isEmpty then [] else '.' :: ds.drop 1) ++ 'e' :: exponentText n)
      (value ds * 10 ^ (n + 1 - ds.length)) := by
  have hsplit := List.take_append_drop 1 ds
  have hexponent := Numeral.exponent?_exponentText n
  have hpos := List.length_pos_of_ne_nil hne
  by_cases hrest : ds.drop 1 = []
  · have htake : ds.take 1 = ds := by rw [← hsplit, hrest, List.append_nil, List.take_take, Nat.min_self]
    have h := ExactDecimal.magnitude?_whole false hds hne hexponent
    rw [hrest, List.isEmpty_nil, if_pos rfl, List.append_nil, htake]
    refine ⟨_, _, h, ?_⟩
    have hlength := congrArg List.length hrest
    rw [List.length_drop, List.length_nil] at hlength
    congr 2
    omega
  · have hall := List.forall_mem_append.1 (hsplit.symm ▸ hds)
    have h := ExactDecimal.magnitude?_point false hall.1 hall.2 (hsplit.symm ▸ hne) (ExactDecimal.isDigit_exponent _) hexponent
    rw [List.isEmpty_eq_false_iff.2 hrest, if_neg Bool.false_ne_true]
    refine ⟨_, _, by simpa only [List.append_assoc, List.cons_append] using h, ?_⟩
    rw [hsplit, List.length_drop]
    congr 2
    omega

/-- Wherever the point is, a layout of digits is read as what the digits stand for. -/
theorem readAs_layout (hne : ds ≠ []) (point : Int) : ReadAs (layout ds point) (value ds * 10 ^ (point - ds.length)) := by
  unfold layout
  split
  · split
    · rename_i hpoint
      have h := readAs_behindZeros hds (-point).toNat
      rwa [show -(((-point).toNat : Nat) : Int) = point by omega] at h
    · rename_i hpoint
      obtain ⟨n, rfl⟩ := Int.eq_ofNat_of_zero_le (Int.le_of_lt (not_le.1 hpoint))
      dsimp only [Int.toNat_natCast]
      split
      · rename_i hlength
        exact readAs_filled hds hlength
      · rename_i hlength
        exact readAs_split hds (Nat.le_of_not_le hlength) hne
  · have h := readAs_scientific hds (point - 1) hne
    rwa [Int.sub_add_cancel] at h

end

/-- A layout has a point or an exponent. -/
theorem exists_mem_layout (ds : List Char) (point : Int) : ∃ c ∈ layout ds point, c = '.' ∨ c = 'e' := by
  unfold layout
  split
  · refine ⟨'.', ?_, .inl rfl⟩
    split
    · simp
    · dsimp only
      split <;> simp
  · exact ⟨'e', by simp, .inr rfl⟩

/-! ## Magnitudes -/

/-- The zeros that are dropped count for the exponent. -/
theorem exists_dropZeros (cs : List Char) (e : Int) :
    ∃ front n, cs = front ++ List.replicate n '0' ∧ dropZeros cs e = (front, e + n) := by
  obtain ⟨n, hn⟩ : ∃ n, n = (cs.reverse.takeWhile (· == '0')).length := ⟨_, rfl⟩
  have hzeros : cs.reverse.takeWhile (· == '0') = List.replicate n '0' := by
    rw [hn]
    exact List.eq_replicate_of_mem fun c hc => beq_iff_eq.1 (List.all_eq_true.1 List.all_takeWhile c hc)
  have hcs : cs = (cs.reverse.dropWhile (· == '0')).reverse ++ List.replicate n '0' := by
    rw [← List.reverse_replicate, ← hzeros, ← List.reverse_append, List.takeWhile_append_dropWhile, List.reverse_reverse]
  refine ⟨_, n, hcs, ?_⟩
  rw [dropZeros, ← hn]
  generalize (cs.reverse.dropWhile (· == '0')).reverse = front at hcs ⊢
  rw [hcs, List.length_append, List.length_replicate, Nat.add_sub_cancel, List.take_left]

theorem quarters_shortest_pos {m : Nat} (hm : 0 < m) : 0 < (shortest m).quarters := by
  have hholds := holds_shortest hm
  have hlow : 0 < (rounding m).low := by
    have := le_rounding_low m
    have := step_le hm.ne'
    omega
  have hcast : (0 : ℚ) < (rounding m).low := Nat.cast_pos.2 hlow
  exact lt_of_lt_of_le hcast (hholds.low.elim le_of_lt fun h => h.2.le)

/-- The text of a magnitude is a layout of digits that stand for its shortest decimal. -/
theorem exists_layout {m : Nat} (hm : 0 < m) : ∃ ds point, magnitudeText m = layout ds point ∧
    (∀ c ∈ ds, c.isDigit = true) ∧ ds ≠ [] ∧
    (value ds : ℚ) * 10 ^ (point - ds.length) * (4 * one) = (shortest m).quarters := by
  obtain ⟨front, n, hdigits, hdrop⟩ := exists_dropZeros (Nat.toDigits 10 (shortest m).digits) (shortest m).exponent
  have hvalue : (shortest m).digits = value front * 10 ^ n := by
    rw [← Numeral.value_toDigits (shortest m).digits, hdigits, Numeral.value_append, Numeral.value_replicate_zero,
      List.length_replicate, Nat.add_zero]
  have hquarters : (value front : ℚ) * 10 ^ ((shortest m).exponent + n) * (4 * one) = (shortest m).quarters := by
    rw [Decimal.quarters, hvalue, zpow_add₀ (by norm_num), zpow_natCast, Nat.cast_mul, Nat.cast_pow, Nat.cast_ofNat]
    ring
  refine ⟨front, (shortest m).exponent + n + front.length, ?_, ?_, ?_, ?_⟩
  · rw [magnitudeText, if_neg hm.ne']
    dsimp only
    rw [hdrop]
  · exact fun c hc => Numeral.isDigit_toDigits c (hdigits ▸ List.mem_append_left _ hc)
  · rintro rfl
    have hpos := quarters_shortest_pos hm
    rw [← hquarters, show value [] = 0 from rfl, Nat.cast_zero, zero_mul, zero_mul] at hpos
    exact lt_irrefl _ hpos
  · rwa [Int.add_sub_cancel]

/-- What the text of a magnitude is read as. -/
theorem magnitude?_magnitudeText (m : Nat) :
    ∃ c e, ExactDecimal.magnitude? false (magnitudeText m) = some (.finite false c e) ∧
      (c : ℚ) * 10 ^ e * (4 * one) = if m = 0 then 0 else (shortest m).quarters := by
  split
  · rename_i hm
    subst hm
    exact ⟨0, -1, rfl, by rw [Nat.cast_zero, zero_mul, zero_mul]⟩
  · rename_i hm
    obtain ⟨ds, point, htext, hds, hne, hvalue⟩ := exists_layout (Nat.pos_of_ne_zero hm)
    obtain ⟨c, e, hread, hce⟩ := readAs_layout hds hne point
    exact ⟨c, e, htext ▸ hread, by rw [hce, hvalue]⟩

/-- Magnitudes have different texts. -/
theorem magnitudeText_injective {m n : Nat} (hm : HasSignificand m) (hn : HasSignificand n)
    (h : magnitudeText m = magnitudeText n) : m = n := by
  obtain ⟨c, e, hread, hvalue⟩ := magnitude?_magnitudeText m
  obtain ⟨c', e', hread', hvalue'⟩ := magnitude?_magnitudeText n
  rw [h, hread'] at hread
  obtain ⟨-, rfl, rfl⟩ := ExactDecimal.finite.inj (Option.some.inj hread)
  rw [hvalue'] at hvalue
  rcases Nat.eq_zero_or_pos m with rfl | hm0 <;> rcases Nat.eq_zero_or_pos n with rfl | hn0
  · rfl
  · rw [if_pos rfl, if_neg hn0.ne'] at hvalue
    exact absurd hvalue (quarters_shortest_pos hn0).ne'
  · rw [if_pos rfl, if_neg hm0.ne'] at hvalue
    exact absurd hvalue.symm (quarters_shortest_pos hm0).ne'
  · rw [if_neg hm0.ne', if_neg hn0.ne'] at hvalue
    exact (holds_shortest hm0).unique hm hn (hvalue ▸ holds_shortest hn0)

/-- Finite numbers have different texts. -/
theorem text_injective {d e : Double} (hd : d.isFinite = true) (he : e.isFinite = true) (h : d.text = e.text) : d = e := by
  have hminus : ∀ m n : Nat, magnitudeText m ≠ '-' :: magnitudeText n := by
    intro m n heq
    obtain ⟨c, e, hread, -⟩ := magnitude?_magnitudeText m
    rw [heq] at hread
    cases hread
  cases d with
  | finite s m hm =>
    cases e with
    | finite t n hn =>
      have hchars := String.ofList_injective h
      cases s <;> cases t
      · obtain rfl := magnitudeText_injective hm.2 hn.2 hchars
        rfl
      · exact absurd hchars (hminus m n)
      · exact absurd hchars.symm (hminus n m)
      · obtain rfl := magnitudeText_injective hm.2 hn.2 (List.cons.inj hchars).2
        rfl
    | _ => cases he
  | _ => cases hd

/-- The text of a finite number does not spell an integer. -/
theorem plainInt?_text {d : Double} (hd : d.isFinite = true) :
    Numeral.plainInt? (Text.stripChars d.text.toList) = none := by
  cases d with
  | finite s m hm =>
    obtain ⟨c, hc, hpoint⟩ : ∃ c ∈ magnitudeText m, c = '.' ∨ c = 'e' := by
      rcases Nat.eq_zero_or_pos m with rfl | hm0
      · exact ⟨'.', by decide, .inl rfl⟩
      · obtain ⟨ds, point, htext, -⟩ := exists_layout hm0
        rw [htext]
        exact exists_mem_layout ds point
    have hmem : c ∈ (Double.finite s m hm).text.toList := by
      rw [text, String.toList_ofList]
      exact List.mem_append_right _ hc
    rcases hpoint with rfl | rfl
    · exact Numeral.plainInt?_stripChars_eq_none hmem (by decide) (by decide)
    · exact Numeral.plainInt?_stripChars_eq_none hmem (by decide) (by decide)
  | _ => cases hd

end Double

end FacetSearch

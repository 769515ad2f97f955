import FacetSearch.Number.Numeral
import FacetSearch.Proofs.Names
import FacetSearch.Time.Date
/-!
# Digits

The digits that a number is written with stand for it (`Numeral.value_toDigits`), also behind zeros that fill them up to a
width (`Date.value_padded`). Digits, like all visible ASCII characters, are no white space, so a text that has
such characters at either end is left as it is when white space is dropped.
-/

namespace FacetSearch

/-! ## Visible characters -/

namespace Text

/-- An ASCII character that is seen. -/
def IsGraphic (c : Char) : Prop := 33 ≤ c.toNat ∧ c.toNat ≤ 126

instance (c : Char) : Decidable (IsGraphic c) := inferInstanceAs (Decidable (_ ∧ _))

theorem IsGraphic.isBlank_eq {c : Char} (h : IsGraphic c) : isBlank c = false :=
  Name.of_ascii (P := fun c => IsGraphic c → isBlank c = false) (by decide) (Nat.lt_of_le_of_lt h.2 (by decide)) h

theorem toNat_of_isDigit {c : Char} (h : c.isDigit = true) : 48 ≤ c.toNat ∧ c.toNat ≤ 57 := by
  simp only [Char.isDigit, Bool.and_eq_true, decide_eq_true_eq] at h
  exact ⟨UInt32.le_iff_toNat_le.1 h.1, UInt32.le_iff_toNat_le.1 h.2⟩

theorem isGraphic_of_isDigit {c : Char} (h : c.isDigit = true) : IsGraphic c := by
  obtain ⟨hlow, hhigh⟩ := toNat_of_isDigit h
  exact ⟨by omega, by omega⟩

theorem dropWhile_of_head {p : Char → Bool} {cs : List Char} (h : ∀ c ∈ cs.head?, p c = false) : cs.dropWhile p = cs := by
  cases cs with
  | nil => rfl
  | cons c cs => rw [List.dropWhile_cons_of_neg (by simp [h c rfl])]

theorem takeWhile_of_head {p : Char → Bool} {cs : List Char} (h : ∀ c ∈ cs.head?, p c = false) : cs.takeWhile p = [] := by
  cases cs with
  | nil => rfl
  | cons c cs => rw [List.takeWhile_cons_of_neg (by simp [h c rfl])]

/-- Nothing is trimmed off a text that neither begins nor ends with what is trimmed. -/
theorem trim_of_ends {p : Char → Bool} {cs : List Char} (hhead : ∀ c ∈ cs.head?, p c = false)
    (hlast : ∀ c ∈ cs.getLast?, p c = false) : trim p cs = cs := by
  rw [trim, dropWhile_of_head hhead, dropEndWhile, dropWhile_of_head (by rwa [List.head?_reverse]), List.reverse_reverse]

theorem stripChars_of_graphic {cs : List Char} (h : ∀ c ∈ cs, IsGraphic c) : stripChars cs = cs :=
  trim_of_ends (fun c hc => (h c (List.mem_of_mem_head? hc)).isBlank_eq)
    fun c hc => (h c (List.mem_of_getLast? hc)).isBlank_eq

/-- White space inside a text is kept. -/
theorem stripChars_between {front back : List Char} (middle : List Char) (hfront : ∀ c ∈ front, IsGraphic c)
    (hback : ∀ c ∈ back, IsGraphic c) (hf : front ≠ []) (hb : back ≠ []) :
    stripChars (front ++ middle ++ back) = front ++ middle ++ back := by
  refine trim_of_ends (fun c hc => ?_) fun c hc => ?_
  · rw [List.append_assoc, List.head?_append_of_ne_nil _ hf] at hc
    exact (hfront c (List.mem_of_mem_head? hc)).isBlank_eq
  · rw [List.getLast?_append_of_ne_nil _ hb] at hc
    exact (hback c (List.mem_of_getLast? hc)).isBlank_eq

end Text

/-! ## Numbers as digits -/

namespace Numeral

/-- What ASCII digits stand for. -/
def value (cs : List Char) : Nat := ofDigits (cs.map fun c => c.toNat - 48)

theorem value_eq (cs : List Char) : value cs = Nat.ofDigitChars 10 cs 0 := by
  rw [value, ofDigits, List.foldl_map, Nat.ofDigitChars_eq_foldl]
  simp only [Nat.mul_comm]
  rfl

theorem value_toDigits (n : Nat) : value (Nat.toDigits 10 n) = n := by
  rw [value_eq, Nat.ofDigitChars_ten_toDigits]

theorem isDigit_toDigits {n : Nat} : ∀ c ∈ Nat.toDigits 10 n, c.isDigit = true :=
  fun _ => Nat.isDigit_of_mem_toDigits (by decide) (by decide)

end Numeral

namespace Date

open Numeral

variable {width n : Nat}

theorem isDigit_padded : ∀ c ∈ padded width n, c.isDigit = true := by
  intro c hc
  rcases List.mem_append.1 hc with hc | hc
  · obtain rfl := List.eq_of_mem_replicate hc
    rfl
  · exact isDigit_toDigits c hc

theorem length_padded (hw : 0 < width) (h : n < 10 ^ width) : (padded width n).length = width := by
  have hlength := (Nat.length_toDigits_le_iff (by decide) hw).2 h
  simp only [padded, List.length_append, List.length_replicate]
  omega

theorem padded_ne_nil : padded width n ≠ [] := by
  simp [padded, Nat.toDigits_ne_nil]

theorem value_padded : value (padded width n) = n := by
  rw [value_eq, padded, Nat.ofDigitChars_append, Nat.ofDigitChars_replicate_zero, Nat.mul_zero,
    Nat.ofDigitChars_ten_toDigits]

theorem isGraphic_padded : ∀ c ∈ padded width n, Text.IsGraphic c :=
  fun c hc => Text.isGraphic_of_isDigit (isDigit_padded c hc)

end Date

end FacetSearch

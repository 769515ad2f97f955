import FacetSearch.Proofs.Domains
import FacetSearch.Proofs.ExactValues
import FacetSearch.Proofs.Numerals
/-!
# Integers of columns

A text spells an integer if it is digits of any script with at most a sign in front (`Numeral.Spells`), and just such texts
are read as integers (`Numeral.plainInt?_eq_some_iff`). A column of integers takes the integers of its domain, whether they
come as such, as texts that spell them or as numbers without fraction, and refuses every other text and number
(`ColumnType.readsAs_integers`).
-/

namespace FacetSearch

namespace Numeral

/-- Digits of any script, at least one, that stand for the number in decimal notation. -/
def IsNatural (cs : List Char) (n : Nat) : Prop :=
  cs ≠ [] ∧ ∃ ds, List.Forall₂ (fun c d => Text.digit? c = some d) cs ds ∧ n = Nat.ofDigits 10 ds.reverse

/-- Digits with at most a sign in front of them, and the integer that they stand for. -/
inductive Spells : List Char → Int → Prop
  | digits {cs : List Char} {n : Nat} (h : IsNatural cs n) : Spells cs n
  | plus {cs : List Char} {n : Nat} (h : IsNatural cs n) : Spells ('+' :: cs) n
  | minus {cs : List Char} {n : Nat} (h : IsNatural cs n) : Spells ('-' :: cs) (-n)

variable {cs : List Char}

/-! ## Digits -/

theorem ofDigits_eq (ds : List Nat) : ofDigits ds = Nat.ofDigits 10 ds.reverse := by
  rw [Nat.ofDigits_eq_foldr, List.foldr_reverse, ofDigits]
  simp only [Nat.cast_id, Nat.mul_comm, Nat.add_comm]

theorem digits?_eq_some_iff {ds : List Nat} :
    digits? cs = some ds ↔ List.Forall₂ (fun c d => Text.digit? c = some d) cs ds := mapM_eq_some

theorem isNatural_iff {n : Nat} : IsNatural cs n ↔ cs ≠ [] ∧ ∃ ds, digits? cs = some ds ∧ n = ofDigits ds := by
  simp only [IsNatural, digits?_eq_some_iff, ofDigits_eq]

theorem IsNatural.isDigit {n : Nat} (h : IsNatural cs n) : ∀ c ∈ cs, Text.isDigit c = true := by
  intro c hc
  obtain ⟨-, ds, hds, -⟩ := h
  obtain ⟨d, -, hd⟩ := exists_of_mem_left hds hc
  exact Option.isSome_iff_exists.2 ⟨d, hd⟩

/-! ## Signs -/

/-- There is no sign in a text that spells a natural number. -/
theorem IsNatural.splitSign {n : Nat} (h : IsNatural cs n) : splitSign cs = (false, cs) := by
  unfold Numeral.splitSign
  split
  · exact absurd (h.isDigit '+' List.mem_cons_self) (by decide)
  · exact absurd (h.isDigit '-' List.mem_cons_self) (by decide)
  · rfl

theorem spells_iff {n : Int} :
    Spells cs n ↔ ∃ m : Nat, IsNatural (splitSign cs).2 m ∧ n = if (splitSign cs).1 then -(m : Int) else m := by
  constructor
  · intro h
    cases h with
    | digits h =>
      rw [h.splitSign]
      exact ⟨_, h, rfl⟩
    | plus h => exact ⟨_, h, rfl⟩
    | minus h => exact ⟨_, h, rfl⟩
  · rintro ⟨m, hm, rfl⟩
    unfold splitSign at hm ⊢
    split at hm
    · exact .plus hm
    · exact .minus hm
    · exact .digits hm

/-- There is nothing but digits and signs in a text that spells an integer. -/
theorem Spells.characters {n : Int} (h : Spells cs n) : ∀ c ∈ cs, Text.isDigit c = true ∨ c = '+' ∨ c = '-' := by
  cases h with
  | digits h => exact fun c hc => .inl (h.isDigit c hc)
  | plus h => exact List.forall_mem_cons.2 ⟨.inr (.inl rfl), fun c hc => .inl (h.isDigit c hc)⟩
  | minus h => exact List.forall_mem_cons.2 ⟨.inr (.inr rfl), fun c hc => .inl (h.isDigit c hc)⟩

/-- A text is read as the integer that it spells, unless it has too many digits. -/
theorem plainInt?_eq_some_iff {n : Int} :
    plainInt? cs = some n ↔ Spells cs n ∧ (splitSign cs).2.length ≤ maxDigits := by
  rw [spells_iff]
  simp only [isNatural_iff, plainInt?]
  generalize splitSign cs = signed
  obtain ⟨negative, cs⟩ := signed
  simp only [Option.bind_eq_bind, Option.bind_eq_some_iff, Option.guard_eq_some', Option.pure_def, Option.some.injEq]
  have hlength {ds : List Nat} (h : digits? cs = some ds) : cs.length = ds.length :=
    (digits?_eq_some_iff.1 h).length_eq
  constructor
  · rintro ⟨ds, hds, -, ⟨hpos, hmax⟩, rfl⟩
    rw [← hlength hds] at hpos hmax
    exact ⟨⟨ofDigits ds, ⟨List.ne_nil_of_length_pos hpos, ds, hds, rfl⟩, rfl⟩, hmax⟩
  · rintro ⟨⟨m, ⟨hne, ds, hds, rfl⟩, rfl⟩, hmax⟩
    have hpos := List.length_pos_of_ne_nil hne
    rw [hlength hds] at hpos hmax
    exact ⟨ds, hds, (), ⟨hpos, hmax⟩, rfl⟩

theorem length_splitSign_le (cs : List Char) : (splitSign cs).2.length ≤ cs.length := by
  unfold splitSign
  split
  · exact Nat.le_succ _
  · exact Nat.le_succ _
  · exact Nat.le_refl _

/-- An integer is spelled by the text that it is written as. -/
theorem spells_toString (n : Int) : Spells (toString n).toList n := by
  have hdigits : IsNatural (Nat.toDigits 10 n.natAbs) n.natAbs :=
    isNatural_iff.2 ⟨Nat.toDigits_ne_nil, _, digits?_of_isDigit isDigit_toDigits, (value_toDigits _).symm⟩
  rw [toList_toString]
  by_cases hn : n < 0
  · have h := Spells.minus hdigits
    rw [show -(n.natAbs : Int) = n by omega] at h
    rw [if_pos (decide_eq_true hn), List.singleton_append]
    exact h
  · have h := Spells.digits hdigits
    rwa [if_neg (by simp [hn]), List.nil_append, show n = n.natAbs by omega]

theorem isWritable_of_lt {n : Int} {k : Nat} (hk : k ≤ maxDigits) (h : n.natAbs < 10 ^ k) : isWritable n = true := by
  have hpow {m : Nat} (hm : k ≤ m) : 10 ^ k ≤ Nat.pow 10 m := Nat.pow_le_pow_right (by decide) hm
  rw [isWritable, decide_eq_true_eq]
  exact Nat.lt_of_lt_of_le h (hpow hk)

theorem length_toString_le {n : Int} {k : Nat} (hk : 0 < k) (h : n.natAbs < 10 ^ k) :
    (toString n).toList.length ≤ k + 1 := by
  have hdigits := (Nat.length_toDigits_le_iff (by decide) hk).2 h
  rw [toList_toString, List.length_append]
  split
  · rw [List.length_singleton]
    omega
  · rw [List.length_nil]
    omega

end Numeral

/-- The exact value of a number is an integer if it is that many units. -/
theorem Double.rational?_eq_intCast_iff {d : Double} {n : Int} :
    d.rational? = some (n : ℚ) ↔ d.units? = some (n * one) := by
  have hone : (one : ℚ) ≠ 0 := cast_one_pos.ne'
  rw [rational?, Option.map_eq_some_iff]
  constructor
  · rintro ⟨u, hu, h⟩
    have hun : (u : ℚ) = ((n * one : Int) : ℚ) := by
      rw [div_eq_iff hone] at h
      rw [h, Int.cast_mul, Int.cast_natCast]
    rw [hu, Int.cast_injective hun]
  · intro h
    refine ⟨_, h, ?_⟩
    rw [Int.cast_mul, Int.cast_natCast, mul_div_cancel_right₀ _ hone]

namespace ColumnType

variable {type : ColumnType} {v : Value} {P : Int → Prop} {column : Option Value}

/-- The value is taken as an integer that satisfies `P` and is in the domain of the type, and refused as no literal of the
type where there is none. -/
structure ReadsAs (type : ColumnType) (v : Value) (P : Int → Prop) (column : Option Value) : Prop where
  taken : ∀ r, type.coerce v column = .ok r ↔ ∃ n, P n ∧ type.Domain (.int n) ∧ r = .int n
  refused : (∀ n, P n → ¬type.Domain (.int n)) →
    type.coerce v column = .error (.typeMismatch (.literal v type (column.filter Value.isTruthy)))

theorem coerce_eq_mismatch (ht : type ≠ array) (hw : v.isWritable = true) (h : type.literal? v = none) :
    type.coerce v column = .error (.typeMismatch (.literal v type (column.filter Value.isTruthy))) := by
  rw [coerce, h]
  simp only [ht, false_and, if_false, mismatch, hw, if_true]

/-- A type that holds integers takes the integer that a value stands for. -/
theorem readsAs_of_intOf? (ht : type.isInteger = true) (hw : v.isWritable = true) (h : ∀ n, intOf? v = some n ↔ P n) :
    type.ReadsAs v P column := by
  have hliteral (r : Value) : type.literal? v = some r ↔ ∃ n, P n ∧ type.Domain (.int n) ∧ r = .int n := by
    rw [literal?_eq_some_int_iff ht]
    simp only [h]
  refine ⟨fun r => coerce_eq_ok.trans (hliteral r), fun hnone => coerce_eq_mismatch ?_ hw ?_⟩
  · rintro rfl
    cases ht
  · refine Option.eq_none_iff_forall_ne_some.2 fun r hr => ?_
    obtain ⟨n, hn, hdomain, -⟩ := (hliteral r).1 hr
    exact hnone n hn hdomain

/-- Where two values are read as the same integer, one result is that of both, or both are refused. -/
theorem ReadsAs.agree {w : Value} {n : Int} (hv : type.ReadsAs v (· = n) column) (hw : type.ReadsAs w (· = n) column) :
    (∃ r, type.coerce v column = .ok r ∧ type.coerce w column = .ok r) ∨
      ∃ f g, type.coerce v column = .error (.typeMismatch f) ∧ type.coerce w column = .error (.typeMismatch g) := by
  by_cases hn : type.Domain (.int n)
  · exact .inl ⟨.int n, (hv.taken _).2 ⟨n, rfl, hn, rfl⟩, (hw.taken _).2 ⟨n, rfl, hn, rfl⟩⟩
  · exact .inr ⟨_, _, hv.refused fun m hm => hm ▸ hn, hw.refused fun m hm => hm ▸ hn⟩

/-- A text of no more characters than an integer may have digits is read as the integer that it spells. -/
theorem readsAs_text (ht : type.isInteger = true) {s : String} (hs : s.length ≤ Numeral.maxDigits) :
    type.ReadsAs (.text s) (Numeral.Spells (Text.stripChars s.toList)) column := by
  refine readsAs_of_intOf? ht rfl fun n => ?_
  -- neither white space nor a sign that is dropped makes the digits more
  have hlength : (Numeral.splitSign (Text.stripChars s.toList)).2.length ≤ Numeral.maxDigits := by
    obtain ⟨front, back, hstrip, -⟩ := Text.exists_strip s.toList
    have hsum := congrArg List.length hstrip
    rw [List.length_append, List.length_append, String.length_toList] at hsum
    have hsign := Numeral.length_splitSign_le (Text.stripChars s.toList)
    omega
  exact Numeral.plainInt?_eq_some_iff.trans (and_iff_left hlength)

/-- An integer that can be written is read as itself. -/
theorem readsAs_int (ht : type.isInteger = true) {n : Int} (hn : Numeral.isWritable n = true) :
    type.ReadsAs (.int n) (· = n) column :=
  readsAs_of_intOf? ht hn fun _ => Option.some_inj.trans eq_comm

/-- What an integer is written as is read as that integer. -/
theorem readsAs_plain (ht : type.isInteger = true) {n : Int} (hn : (toString n).length ≤ Numeral.maxDigits) :
    type.ReadsAs (.text (Value.int n).plain) (· = n) column := by
  have hspells := Numeral.spells_toString n
  have hstrip : Text.stripChars (toString n).toList = (toString n).toList := by
    refine Text.stripChars_of_graphic fun c hc => ?_
    rw [Numeral.toList_toString, List.mem_append] at hc
    rcases hc with hc | hc
    · split at hc
      · obtain rfl := List.mem_singleton.1 hc
        decide
      · cases hc
    · exact Text.isGraphic_of_isDigit (Numeral.isDigit_toDigits c hc)
  refine readsAs_of_intOf? ht rfl fun m => ?_
  have hread : intOf? (.text (Value.int n).plain) = some n := by
    show Numeral.plainInt? (Text.stripChars (toString n).toList) = some n
    rw [hstrip]
    refine Numeral.plainInt?_eq_some_iff.2 ⟨hspells, ?_⟩
    have hsign := Numeral.length_splitSign_le (toString n).toList
    rw [String.length_toList] at hsign
    omega
  rw [hread]
  exact Option.some_inj.trans eq_comm

/-- A binary64 number is read as the integer that it is. -/
theorem readsAs_float (ht : type.isInteger = true) (d : Double) :
    type.ReadsAs (.float d) (fun n => d.rational? = some (n : ℚ)) column :=
  readsAs_of_intOf? ht rfl fun _ => Double.int?_eq_some_iff.trans Double.rational?_eq_intCast_iff.symm

/-- A type that holds integers takes a text as the integer that it spells between white space, an integer as itself and as
the text that it is written as, and a binary64 number as the integer that it is; each of them if it is in the domain of the
type. Everything else is refused. -/
theorem readsAs_integers (ht : type.isInteger = true) (column : Option Value) :
    (∀ s : String, s.length ≤ 4300 → type.ReadsAs (.text s) (Numeral.Spells (Text.stripChars s.toList)) column) ∧
    (∀ n : Int, n.natAbs < 10 ^ 4299 →
      (∃ r, type.coerce (.int n) column = .ok r ∧ type.coerce (.text (Value.int n).plain) column = .ok r) ∨
        ∃ f g, type.coerce (.int n) column = .error (.typeMismatch f) ∧
          type.coerce (.text (Value.int n).plain) column = .error (.typeMismatch g)) ∧
    ∀ d : Double, type.ReadsAs (.float d) (fun n => d.rational? = some (n : ℚ)) column := by
  refine ⟨fun s hs => readsAs_text ht hs, fun n hn => ?_, readsAs_float ht⟩
  have hwritable : Numeral.isWritable n = true := Numeral.isWritable_of_lt (k := 4299) (by decide) hn
  have hlength : (toString n).length ≤ Numeral.maxDigits := by
    rw [← String.length_toList]
    exact Numeral.length_toString_le (by decide) hn
  exact (readsAs_int ht hwritable).agree (readsAs_plain ht hlength)

/-- Digits of two scripts between blanks, an integer that is too small, and a number that is not finite. -/
theorem readsAs_fortyTwo : oid.isInteger = true ∧
    (" +٤２ ".length ≤ 4300 ∧ oid.coerce (.text " +٤２ ") none = .ok (.int 42)) ∧
    ((-1 : Int).natAbs < 10 ^ 4299 ∧ ∃ f g, oid.coerce (.int (-1)) none = .error (.typeMismatch f) ∧
      oid.coerce (.text (Value.int (-1)).plain) none = .error (.typeMismatch g)) ∧
    oid.coerce (.float (.infinite false)) none = .error (.typeMismatch (.literal (.float (.infinite false)) oid none)) := by
  have hsmall (k : Nat) (hk : k ≠ 0) : (-1 : Int).natAbs < 10 ^ k := Nat.one_lt_pow hk (by decide)
  have hoid : oid.isInteger = true := rfl
  obtain ⟨htext, hint, hfloat⟩ := readsAs_integers hoid none
  have hstrip : Text.stripChars " +٤２ ".toList = ['+', '٤', '２'] := by decide
  have hspells : Numeral.Spells ['+', '٤', '２'] 42 :=
    .plus (n := 42) ⟨nofun, [4, 2], .cons (by decide) (.cons (by decide) .nil), by decide⟩
  have hdomain : oid.Domain (.int 42) := by
    show (0 : Int) ≤ 42 ∧ (42 : Int) ≤ 2 ^ 32 - 1
    decide
  refine ⟨rfl, ⟨by decide, ?_⟩, ⟨hsmall 4299 (by decide), ?_⟩, (hfloat _).refused nofun⟩
  · exact ((htext _ (by decide)).taken _).2 ⟨42, hstrip ▸ hspells, hdomain, rfl⟩
  · refine (hint (-1) (hsmall 4299 (by decide))).resolve_left ?_
    rintro ⟨r, hr, -⟩
    cases hr

end ColumnType

end FacetSearch

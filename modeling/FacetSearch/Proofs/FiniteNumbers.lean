import FacetSearch.Criteria.Build
import FacetSearch.Proofs.Members
/-!
# Finite numbers in filters

A value is a finite number if a finite binary64 number is near it. Finite numbers can be added and compared, and their
sum, which need not be finite, can be written (`exists_sum`); it is a literal of a column of binary64 numbers exactly if
it is finite.
-/

namespace FacetSearch

/-! ## Keyed lists -/

namespace Keyed

variable {α β : Type} [DecidableEq α]

theorem mem_of_mem_put {es : List (α × β)} {key : α} {b : β} {p : α × β} (h : p ∈ put es key b) :
    p ∈ es ∨ p = (key, b) := by
  induction es with
  | nil => exact .inr (List.mem_singleton.1 h)
  | cons e es ih =>
    obtain ⟨k, c⟩ := e
    by_cases hk : k = key
    · subst hk
      rw [put, if_pos rfl] at h
      rcases List.mem_cons.1 h with rfl | h
      · exact .inr rfl
      · exact .inl (List.mem_cons_of_mem _ h)
    · rw [put, if_neg hk] at h
      rcases List.mem_cons.1 h with rfl | h
      · exact .inl List.mem_cons_self
      · exact (ih h).imp_left (List.mem_cons_of_mem _)

/-- A keyed list has nothing but the pairs that were put into it. -/
theorem mem_of_mem_ofList {pairs : List (α × β)} {p : α × β} (h : p ∈ ofList pairs) : p ∈ pairs := by
  induction pairs using List.reverseRecOn with
  | nil => cases h
  | append_singleton pairs q ih =>
    rw [ofList_concat] at h
    rcases mem_of_mem_put h with h | rfl
    · exact List.mem_append_left _ (ih h)
    · exact List.mem_append_right _ (List.mem_singleton.2 rfl)

theorem mem_of_get? {es : List (α × β)} {key : α} {b : β} (h : get? es key = some b) : (key, b) ∈ es := by
  induction es with
  | nil => cases h
  | cons e es ih =>
    obtain ⟨k, c⟩ := e
    rw [get?] at h
    split at h
    · rename_i hk
      obtain rfl := Option.some.inj h
      exact hk ▸ List.mem_cons_self
    · exact List.mem_cons_of_mem _ (ih h)

end Keyed

/-! ## Integers that are near to a binary64 number -/

namespace Double

theorem step_le {num : Nat} (h : num ≠ 0) : step num ≤ num :=
  Nat.le_trans (Nat.pow_le_pow_right (by decide) (Nat.sub_le num.log2 52)) (Nat.log2_self_le h)

/-- Rounding leaves at least half of a number. -/
theorem le_two_mul_roundUnits (num : Nat) : num ≤ 2 * roundUnits num 1 := by
  have hround : num / step num * step num ≤ roundUnits num 1 := by
    unfold roundUnits
    simp only [Nat.div_one, Nat.one_mul]
    split
    · exact Nat.le_refl _
    · exact Nat.mul_le_mul_right _ (Nat.le_succ _)
  rcases Nat.eq_zero_or_pos num with rfl | hnum
  · exact Nat.zero_le _
  · have hquotient : step num ≤ num / step num * step num :=
      Nat.le_mul_of_pos_left _ (Nat.div_pos (step_le (by omega)) (step_pos num))
    have hmod := Nat.div_add_mod' num (step num)
    have hlt := Nat.mod_lt num (step_pos num)
    omega

theorem one_pos : 0 < one := Nat.pow_pos (by decide)

theorem lt_of_ofUnits? {negative : Bool} {num den : Nat} {d : Double} (h : ofUnits? negative num den = some d) :
    roundUnits num den < tooLarge := by
  unfold ofUnits? at h
  split at h
  · assumption
  · cases h

theorem isFinite_of_ofUnits? {negative : Bool} {num den : Nat} {d : Double} (h : ofUnits? negative num den = some d) :
    d.isFinite = true := by
  unfold ofUnits? at h
  split at h
  · obtain rfl := Option.some.inj h
    rfl
  · cases h

theorem any_ofUnits? (negative : Bool) (num den : Nat) :
    (ofUnits? negative num den).any isFinite = decide (roundUnits num den < tooLarge) := by
  unfold ofUnits?
  split
  · rename_i h
    exact (decide_eq_true h).symm
  · rename_i h
    exact (decide_eq_false h).symm

/-- The sign of an integer does not matter to what is near to it. -/
theorem any_ofInt?_congr {k l : Int} (h : k.natAbs = l.natAbs) : (ofInt? k).any isFinite = (ofInt? l).any isFinite := by
  rw [ofInt?, ofInt?, any_ofUnits?, any_ofUnits?, h]

/-- An integer that is near to a finite number is not beyond all magnitudes. -/
theorem natAbs_le_of_ofInt? {n : Int} {d : Double} (h : ofInt? n = some d) : n.natAbs ≤ 2 * tooLarge := by
  have hround := lt_of_ofUnits? h
  have hhalf := le_two_mul_roundUnits (n.natAbs * one)
  have hone := Nat.le_mul_of_pos_right n.natAbs one_pos
  omega

end Double

/-- Powers of two are below greater powers of ten, even four times. -/
theorem four_mul_lt_pow {b k m : Nat} (hb : b = Nat.pow 2 k) (h : k < m) : 4 * b < Nat.pow 10 m := by
  have hbase : b ≤ Nat.pow 10 k := hb ▸ Nat.pow_le_pow_left (by decide) k
  have hpos : 0 < Nat.pow 10 k := Nat.pow_pos (by decide)
  have hstep : Nat.pow 10 (k + 1) ≤ Nat.pow 10 m := Nat.pow_le_pow_right (by decide) h
  have hsucc : Nat.pow 10 (k + 1) = Nat.pow 10 k * 10 := rfl
  omega

/-- The sum of two integers that are near to finite numbers can be written. -/
theorem Numeral.isWritable_add {k l : Int} (hk : k.natAbs ≤ 2 * Double.tooLarge)
    (hl : l.natAbs ≤ 2 * Double.tooLarge) : isWritable (k + l) = true := by
  have hsum := Int.natAbs_add_le k l
  have hlarge := four_mul_lt_pow (k := 2098) (m := maxDigits) (Eq.refl Double.tooLarge) (by decide)
  exact decide_eq_true (by omega)

/-- An integer that is near to a finite number can be written. -/
theorem Numeral.isWritable_of_natAbs_le {k : Int} (hk : k.natAbs ≤ 2 * Double.tooLarge) : isWritable k = true := by
  have h := isWritable_add hk (l := 0) (Nat.zero_le _)
  rwa [Int.add_zero] at h

/-! ## Finite numbers -/

namespace Value

/-- The value is a number to which a finite binary64 number is near. -/
def isFiniteNumber (v : Value) : Bool := (v.number?.bind Number.toDouble?).any Double.isFinite

theorem isFiniteNumber_iff {v : Value} :
    v.isFiniteNumber = true ↔ ∃ m, v.number? = some m ∧ ∃ d, m.toDouble? = some d ∧ d.isFinite = true := by
  simp only [isFiniteNumber, Option.any_eq_true, Option.bind_eq_some_iff]
  constructor
  · rintro ⟨d, ⟨m, hm, hd⟩, hfinite⟩
    exact ⟨m, hm, d, hd, hfinite⟩
  · rintro ⟨m, hm, d, hd, hfinite⟩
    exact ⟨d, ⟨m, hm, hd⟩, hfinite⟩

theorem isFiniteNumber_int (k : Int) : (Value.int k).isFiniteNumber = (Double.ofInt? k).any Double.isFinite := by
  have hnumber : (Value.int k).number? = some (.int k) := rfl
  have hnear : (Number.int k).toDouble? = Double.ofInt? k := rfl
  rw [isFiniteNumber, hnumber, Option.bind_some, hnear]

theorem isFiniteNumber_bool (b : Bool) : (Value.bool b).isFiniteNumber = (Value.int b.toNat).isFiniteNumber := by
  have hnumber : (Value.bool b).number? = some (.flag b) := rfl
  have hnear : (Number.flag b).toDouble? = Double.ofInt? b.toNat := rfl
  rw [isFiniteNumber_int, isFiniteNumber, hnumber, Option.bind_some, hnear]

/-- A number of either sign is finite if its size is. -/
theorem isFiniteNumber_abs {t : Number} (h : (ofNumber t).isFiniteNumber = true) :
    (ofNumber t.abs).isFiniteNumber = true ∧ (ofNumber t.abs.neg).isFiniteNumber = true := by
  have hint (k : Int) (hk : (Value.int k).isFiniteNumber = true) :
      (Value.int k.natAbs).isFiniteNumber = true ∧ (Value.int (-k.natAbs)).isFiniteNumber = true := by
    simp only [isFiniteNumber_int] at hk ⊢
    rw [Double.any_ofInt?_congr (k := k.natAbs) (l := k) (by omega),
      Double.any_ofInt?_congr (k := -k.natAbs) (l := k) (by omega)]
    exact ⟨hk, hk⟩
  cases t with
  | int k => exact hint k h
  | flag b => exact hint b.toNat (isFiniteNumber_bool b ▸ h)
  | double d => cases d <;> first | exact ⟨rfl, rfl⟩ | cases h

/-- A number is added as the number that it is. -/
theorem sum_of_numbers {a b : Value} {m n : Number} (ha : a.number? = some m) (hb : b.number? = some n) :
    a.sum b = ((m.add? n).map ofNumber).elim (.error (.failure .overflow)) .ok := by
  unfold sum
  split
  · cases ha
  · cases ha
  · rw [ha, hb]

theorem isGreater_of_numbers {a b : Value} {m n : Number} (ha : a.number? = some m) (hb : b.number? = some n) :
    a.isGreater b = .ok (m.gt n) := by
  unfold isGreater
  split
  · cases ha
  · cases ha
  · rw [ha, hb]

end Value

/-- The sum of numbers near to binary64 is a binary64 number, or that of two integers. -/
theorem Number.add?_of_toDouble? {m n : Number} {d e : Double} (hm : m.toDouble? = some d) (hn : n.toDouble? = some e) :
    m.add? n = some (.double (d.add e)) ∨
      ∃ k l, m.count = .inl k ∧ n.count = .inl l ∧ m.add? n = some (.int (k + l)) := by
  unfold add?
  split
  · rename_i k l hk hl
    exact .inr ⟨k, l, hk, hl, rfl⟩
  · rw [hm, hn]
    exact .inl rfl

theorem Number.natAbs_le_of_toDouble? {m : Number} {d : Double} {k : Int} (h : m.toDouble? = some d)
    (hk : m.count = .inl k) : k.natAbs ≤ 2 * Double.tooLarge := by
  unfold toDouble? at h
  rw [hk] at h
  exact Double.natAbs_le_of_ofInt? h

/-! ## Sums -/

theorem isSome_map_filter {α β : Type} (x : Option α) (p : α → Bool) (f : α → β) :
    ((x.filter p).map f).isSome = x.any p := by
  cases x with
  | none => rfl
  | some a => cases h : p a <;> simp [Option.filter, h]

/-- A number is a literal of a column of binary64 numbers if it is finite. -/
theorem isSome_literal?_int (k : Int) : (ColumnType.double.literal? (.int k)).isSome = (Value.int k).isFiniteNumber := by
  have hliteral : ColumnType.double.literal? (.int k) =
      ((ColumnType.doubleOf? (.int k)).filter Double.isFinite).map .float := rfl
  have hdouble : ColumnType.doubleOf? (.int k) = Double.ofInt? k := rfl
  rw [hliteral, hdouble, isSome_map_filter, Value.isFiniteNumber_int]

theorem isSome_literal?_float (d : Double) :
    (ColumnType.double.literal? (.float d)).isSome = (Value.float d).isFiniteNumber :=
  isSome_map_filter (some d) Double.isFinite Value.float

/-- Finite numbers have a sum, which can be written and is a literal if it is finite. -/
theorem Value.exists_sum {a b : Value} (ha : a.isFiniteNumber = true) (hb : b.isFiniteNumber = true) :
    ∃ r, a.sum b = .ok r ∧ r.isWritable = true ∧ (ColumnType.double.literal? r).isSome = r.isFiniteNumber := by
  obtain ⟨m, hm, d, hd, -⟩ := isFiniteNumber_iff.1 ha
  obtain ⟨n, hn, e, he, -⟩ := isFiniteNumber_iff.1 hb
  rw [sum_of_numbers hm hn]
  rcases Number.add?_of_toDouble? hd he with h | ⟨k, l, hk, hl, h⟩
  · rw [h]
    exact ⟨_, rfl, rfl, isSome_literal?_float _⟩
  · rw [h]
    refine ⟨_, rfl, ?_, isSome_literal?_int _⟩
    exact Numeral.isWritable_add (Number.natAbs_le_of_toDouble? hd hk) (Number.natAbs_le_of_toDouble? he hl)

/-! ## Criteria with finite numbers -/

/-- The centres of a filter and what is added to them are finite numbers. -/
structure NumericFilter.IsFinite (f : NumericFilter) : Prop where
  centre : ∀ v ∈ f.centres, v.isFiniteNumber = true
  lower : f.lower.isFiniteNumber = true
  upper : f.upper.isFiniteNumber = true

namespace Criteria

/-- All numeric filters have finite numbers. -/
def HasFiniteNumbers (c : Criteria) : Prop := ∀ filter ∈ c.numericFilters, filter.2.IsFinite

theorem isFinite_of_finite {role : NumberRole} {column : String} {v : Value} {d : Double}
    (h : finite role column v = .ok d) : d.isFinite = true := by
  unfold finite at h
  split at h
  · exact Double.isFinite_of_ofUnits? (elim_eq_ok.1 h)
  · split at h
    · cases h
    · split at h
      · cases h
        assumption
      · cases h

theorem isFinite_of_bounds {column : String} {tolerance : Number} {v : Value} {b : Number × Number}
    (ht : (Value.ofNumber tolerance).isFiniteNumber = true) (h : bounds column (.ofNumber tolerance) v = .ok b) :
    (Value.ofNumber b.1).isFiniteNumber = true ∧ (Value.ofNumber b.2).isFiniteNumber = true := by
  unfold bounds at h
  split at h
  · obtain ⟨t, hnumber, h⟩ := bind_eq_ok.1 h
    obtain rfl : tolerance = t := by cases tolerance <;> exact Except.ok.inj hnumber
    obtain rfl := pure_eq_ok.1 h
    exact (Value.isFiniteNumber_abs ht).symm
  · split at h
    · obtain ⟨l, hl, h⟩ := bind_eq_ok.1 h
      obtain ⟨u, hu, h⟩ := bind_eq_ok.1 h
      obtain rfl := pure_eq_ok.1 h
      exact ⟨isFinite_of_finite hl, isFinite_of_finite hu⟩
    · cases h

theorem exists_map_of_forall₂ {α β γ : Type} {R : α → γ → Prop} {g : γ → β} {as : List α} {bs : List β}
    (h : List.Forall₂ (fun a b => ∃ c, R a c ∧ g c = b) as bs) : ∃ cs, List.Forall₂ R as cs ∧ cs.map g = bs := by
  induction h with
  | nil => exact ⟨[], .nil, rfl⟩
  | cons hab _ ih =>
    obtain ⟨c, hc, rfl⟩ := hab
    obtain ⟨cs, hcs, rfl⟩ := ih
    exact ⟨c :: cs, .cons hc hcs, rfl⟩

/-- A filter that is not in normal form has the numbers that are read for its centres, of equal ones the first. -/
theorem numericFilter_eq_ok {tolerance v : Value} {column : String} {f : NumericFilter}
    (hv : ∀ centres lower upper, v ≠ .filter centres lower upper) (h : numericFilter tolerance column v = .ok f) :
    ∃ (ds : List Double) (b : Number × Number),
      List.Forall₂ (fun c d => finite .centre column c = .ok d) (centreValues (centresAndBounds v).1) ds ∧
      bounds column tolerance (centresAndBounds v).2 = .ok b ∧
      f = { centres := Value.firsts (ds.map .float), lower := .ofNumber b.1, upper := .ofNumber b.2 } := by
  unfold numericFilter at h
  split at h
  · exact absurd rfl (hv _ _ _)
  · obtain ⟨numbers, hnumbers, h⟩ := bind_eq_ok.1 h
    obtain ⟨b, hb, h⟩ := bind_eq_ok.1 h
    obtain ⟨ds, hds, rfl⟩ := exists_map_of_forall₂ (g := Value.float) <| (mapM_eq_ok.1 hnumbers).imp fun c x hx => by
      obtain ⟨d, hd, hx⟩ := bind_eq_ok.1 hx
      exact ⟨d, hd, pure_eq_ok.1 hx⟩
    exact ⟨ds, b, hds, hb, (pure_eq_ok.1 h).symm⟩

theorem isFinite_of_numericFilter {tolerance : Number} {column : String} {v : Value} {f : NumericFilter}
    (ht : (Value.ofNumber tolerance).isFiniteNumber = true) (hv : ∀ centres lower upper, v ≠ .filter centres lower upper)
    (h : numericFilter (.ofNumber tolerance) column v = .ok f) : f.IsFinite := by
  obtain ⟨ds, b, hds, hb, rfl⟩ := numericFilter_eq_ok hv h
  obtain ⟨hlower, hupper⟩ := isFinite_of_bounds ht hb
  refine ⟨fun x hx => ?_, hlower, hupper⟩
  obtain ⟨d, hd, rfl⟩ := List.mem_map.1 (mem_of_mem_firstsBy hx)
  obtain ⟨c, -, hc⟩ := exists_of_mem_right hds hd
  exact isFinite_of_finite hc

/-- Criteria have finite numbers if no filter is given in normal form, as in everything that a text is decoded to. -/
theorem hasFiniteNumbers_of_ofObject {v : Value} {tolerance : Number} {c : Criteria}
    (ht : (Value.ofNumber tolerance).isFiniteNumber = true)
    (hv : ∀ e ∈ (v.part "numeric").filters, ∀ centres lower upper, e.2 ≠ .filter centres lower upper)
    (h : ofObject v (.ofNumber tolerance) = .ok c) : c.HasFiniteNumbers := by
  intro filter hfilter
  obtain ⟨-, -, -, hn⟩ := build_eq_ok (build_of_ofObject h)
  obtain ⟨pairs, hp, heq⟩ := members_of_readNumeric hn
  rw [heq] at hfilter
  obtain ⟨e, he, -, hf⟩ := exists_of_mem_right hp (Keyed.mem_of_mem_ofList hfilter)
  exact isFinite_of_numericFilter ht (hv e he) hf

end Criteria

end FacetSearch

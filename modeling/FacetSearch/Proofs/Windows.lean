import FacetSearch.Proofs.Numerals
import FacetSearch.Proofs.Scalars
/-!
# Windows around integers

The centre that an integer, or a text of its digits, is read as is the binary64 number nearest to it
(`Criteria.centre_of_numericFilter`), and each end of its window is a rounded sum (`Double.IsEnd`). Rounding keeps order, so
that a window whose bounds have zero between them has its centre in it. The integer itself can lie outside where a window
ends at its centre, which only happens to integers that are no binary64 numbers (`IsAround`,
`Selection.isAround_integer`).
-/

namespace FacetSearch

/-- An infinite number or a NaN makes no finite sum. -/
theorem Double.isFinite_of_add {d e : Double} (h : (d.add e).isFinite = true) : d.isFinite = true ∧ e.isFinite = true := by
  cases d with
  | finite =>
    cases e with
    | finite => exact ⟨rfl, rfl⟩
    | _ => cases h
  | infinite s =>
    cases e with
    | infinite t =>
      rw [add] at h
      split at h <;> cases h
    | _ => cases h
  | nan => cases h

/-! ## Bounds with zero between them -/

namespace Number

/-- A number is near to what its exact value is rounded to. -/
theorem units?_of_toDouble? {l : Number} {d : Double} {u : Int} (hd : l.toDouble? = some d) (hu : d.units? = some u) :
    ∃ w, l.units? = some w ∧ u = Double.roundSigned w := by
  unfold toDouble? at hd
  unfold units?
  cases hl : l.count with
  | inl k =>
    rw [hl] at hd
    exact ⟨_, rfl, Option.some.inj (hu.symm.trans (Double.units?_ofInt? hd))⟩
  | inr e =>
    rw [hl] at hd
    obtain rfl := Option.some.inj hd
    exact ⟨u, hu, (Double.roundSigned_eq (Double.hasSignificand_of_units? hu)).symm⟩

theorem units?_zero : (Number.int 0).units? = some 0 := congrArg some (Int.zero_mul _)

/-- What is not greater than zero is near to a binary64 number that is not. -/
theorem nonpos_of_gt {l : Number} {d : Double} {u : Int} (hgt : l.gt (.int 0) = false) (hd : l.toDouble? = some d)
    (hu : d.units? = some u) : u ≤ 0 := by
  obtain ⟨w, hw, rfl⟩ := units?_of_toDouble? hd hu
  refine Double.roundSigned_le ⟨0, 0, by decide, rfl⟩ (Int.not_lt.1 fun hlt => ?_)
  rw [gt, compare?_of_units? hw units?_zero, compare_gt_iff_gt.2 hlt] at hgt
  cases hgt

theorem nonneg_of_gt {l : Number} {d : Double} {u : Int} (hgt : (Number.int 0).gt l = false) (hd : l.toDouble? = some d)
    (hu : d.units? = some u) : 0 ≤ u := by
  obtain ⟨w, hw, rfl⟩ := units?_of_toDouble? hd hu
  refine Double.le_roundSigned ⟨0, 0, by decide, rfl⟩ (Int.not_lt.1 fun hlt => ?_)
  rw [gt, compare?_of_units? units?_zero hw, compare_gt_iff_gt.2 hlt] at hgt
  cases hgt

end Number

/-! ## Centres and windows -/

/-- The value is an integer or its digits. -/
def Value.IsInteger (v : Value) (n : Int) : Prop := v = .int n ∨ v = .text (toString n)

namespace Criteria

/-- An integer that is given for a centre is read as the number nearest to it. -/
theorem ofInt?_of_finite {role : NumberRole} {column : String} {n : Int} (hn : n.natAbs < 2 ^ 63) {v : Value}
    (hv : v.IsInteger n) {d : Double} (h : finite role column v = .ok d) : Double.ofInt? n = some d := by
  rcases hv with rfl | rfl
  · unfold finite at h
    exact elim_eq_ok.1 h
  · obtain ⟨c, hc⟩ := Double.exists_ofInt? hn
    have hread : (Value.text (toString n)).double? = some c := Numeral.double?_toString hc
    simp only [finite, hread] at h
    split at h
    · rw [hc, Except.ok.inj h]
    · cases h

/-- Of binary64 numbers each is equal to one that is kept. -/
theorem exists_same_kept {ds : List Double} {c : Double} (hc : c ∈ ds) :
    ∃ d, .float d ∈ Value.firsts (ds.map .float) ∧ Value.same (.float d) (.float c) = true := by
  have hrefl : ∀ x ∈ ds.map Value.float, Value.same x x = true := by
    intro x hx
    obtain ⟨d, -, rfl⟩ := List.mem_map.1 hx
    exact Value.same_self (v := .float d) trivial
  obtain ⟨x, hx, hsame⟩ := exists_mem_firstsBy_of_refl hrefl (List.mem_map_of_mem hc)
  obtain ⟨d, -, rfl⟩ := List.mem_map.1 (mem_of_mem_firstsBy hx)
  exact ⟨d, hx, hsame⟩

theorem exists_kept {ds : List Double} {c : Double} (hc : c ∈ ds) :
    ∃ d, .float d ∈ Value.firsts (ds.map .float) ∧ d.units? = c.units? := by
  obtain ⟨d, hd, hsame⟩ := exists_same_kept hc
  rw [Value.same_of_numbers (m := .double d) (n := .double c) rfl rfl] at hsame
  exact ⟨d, hd, Number.units?_of_same hsame⟩

/-- What is given for a centre is one of the centres, and bounds are numbers. -/
theorem centre_of_numericFilter {tolerance spec v : Value} {column : String} {f : NumericFilter}
    (h : numericFilter tolerance column spec = .ok f) (hv : v ∈ centreValues (centresAndBounds spec).1) {n : Int}
    (hn : n.natAbs < 2 ^ 63) (hint : v.IsInteger n) :
    ∃ c d, Double.ofInt? n = some c ∧ d.units? = c.units? ∧ .float d ∈ f.centres ∧
      ∃ l u, f.lower = .ofNumber l ∧ f.upper = .ofNumber u := by
  have hspec : ∀ centres lower upper, spec ≠ .filter centres lower upper := by
    rintro centres lower upper rfl
    -- a filter in normal form would be its own centre, and is no integer
    have hself : v = .filter centres lower upper := List.mem_singleton.1 hv
    rcases hint with hint | hint <;> cases hself.symm.trans hint
  obtain ⟨ds, b, hds, -, rfl⟩ := numericFilter_eq_ok hspec h
  obtain ⟨c, hc, hread⟩ := exists_of_mem_left hds hv
  obtain ⟨d, hd, hunits⟩ := exists_kept hc
  exact ⟨c, d, ofInt?_of_finite hn hint hread, hunits, hd, b.1, b.2, rfl, rfl⟩

end Criteria

/-! ## Windows -/

/-- The number is the finite sum of a centre and what is added to it. -/
def Double.IsEnd (d : Double) (l : Number) (x : Double) : Prop :=
  ∃ e, l.toDouble? = some e ∧ x = d.add e ∧ x.isFinite = true

theorem Double.IsEnd.isFinite {d x : Double} {l : Number} (hx : d.IsEnd l x) : x.isFinite = true := by
  obtain ⟨-, -, -, hfinite⟩ := hx
  exact hfinite

section

variable {d x : Double} {l : Number} {u r : Int} (hx : d.IsEnd l x) (hu : d.units? = some u) (hr : x.units? = some r)

include hx hu hr

theorem Double.IsEnd.le (hgt : l.gt (.int 0) = false) : r ≤ u := by
  obtain ⟨e, he, rfl, hfinite⟩ := hx
  obtain ⟨b, hb⟩ := isFinite_iff.1 (isFinite_of_add hfinite).2
  exact add_le hu hb hr (Number.nonpos_of_gt hgt he hb)

theorem Double.IsEnd.ge (hgt : (Number.int 0).gt l = false) : u ≤ r := by
  obtain ⟨e, he, rfl, hfinite⟩ := hx
  obtain ⟨b, hb⟩ := isFinite_iff.1 (isFinite_of_add hfinite).2
  exact le_add hu hb hr (Number.nonneg_of_gt hgt he hb)

end

theorem Value.number?_ofNumber (l : Number) : (ofNumber l).number? = some l := by cases l <;> rfl

theorem Number.isGreater_zero (l : Number) : (Value.ofNumber l).isGreater (.int 0) = .ok (l.gt (.int 0)) :=
  Value.isGreater_of_numbers (Value.number?_ofNumber l) rfl

theorem Number.zero_isGreater (l : Number) : (Value.int 0).isGreater (.ofNumber l) = .ok ((Number.int 0).gt l) :=
  Value.isGreater_of_numbers rfl (Value.number?_ofNumber l)

/-- The end of a window that is bound for it is the sum itself. -/
theorem Value.isEnd_of_literal {d : Double} {l : Number} {v w : Value} (hsum : (Value.float d).sum (.ofNumber l) = .ok v)
    (hliteral : ColumnType.double.literal? v = some w) : ∃ x, v = .float x ∧ w = .float x ∧ d.IsEnd l x := by
  rw [sum_of_numbers (m := .double d) rfl (number?_ofNumber l), elim_eq_ok, Option.map_eq_some_iff] at hsum
  obtain ⟨t, ht, rfl⟩ := hsum
  obtain ⟨e, he, rfl⟩ : ∃ e, l.toDouble? = some e ∧ t = .double (d.add e) := by
    unfold Number.add? at ht
    split at ht
    · rename_i hd _
      cases hd
    · obtain ⟨d', hd', ht⟩ := Option.bind_eq_some_iff.1 ht
      obtain rfl := Option.some.inj hd'
      obtain ⟨e, he, ht⟩ := Option.bind_eq_some_iff.1 ht
      exact ⟨e, he, (Option.some.inj ht).symm⟩
  have hfilter : ((some (d.add e)).filter Double.isFinite).map Value.float = some w := hliteral
  obtain ⟨x, hx, rfl⟩ := Option.map_eq_some_iff.1 hfilter
  obtain ⟨hx, hfinite⟩ := Option.filter_eq_some_iff.1 hx
  obtain rfl := Option.some.inj hx
  exact ⟨_, rfl, rfl, e, he, rfl, hfinite⟩

/-- The window around a centre is one of the alternatives of a selection. -/
theorem Selection.within_of_centre {catalog : Catalog} {table key : Value} {column : String} {f : NumericFilter}
    {s : Selection} (h : ofNumeric catalog table key (.text column) f.toValue = .ok s) {d : Double}
    (hd : .float d ∈ f.centres) {l m : Number} (hl : f.lower = .ofNumber l) (hm : f.upper = .ofNumber m) :
    ∃ name low high cs, s.condition = .anyOf cs ∧ .within name ⟨.float low, .double⟩ ⟨.float high, .double⟩ ∈ cs ∧
      f.window (.float d) = .ok (.float low, .float high) ∧ d.IsEnd l low ∧ d.IsEnd m high := by
  obtain ⟨name, t, type, windows, cs, -, -, -, -, -, hwindows, hcs, rfl⟩ := ofNumeric_eq_ok h
  obtain ⟨⟨lower, upper⟩, hmem, hwindow⟩ := exists_of_mem_left (mapM_eq_ok.1 hwindows) hd
  obtain ⟨c, hc, hcondition⟩ := exists_of_mem_left hcs hmem
  obtain ⟨low, high, hlow, hhigh, rfl⟩ := windowCondition_eq_ok hcondition
  have hends := hwindow
  unfold NumericFilter.window at hends
  obtain ⟨v, hv, hends⟩ := bind_eq_ok.1 hends
  obtain ⟨w, hw, hends⟩ := bind_eq_ok.1 hends
  obtain ⟨rfl, rfl⟩ := Prod.mk.inj (pure_eq_ok.1 hends)
  rw [hl] at hv
  rw [hm] at hw
  obtain ⟨x, rfl, rfl, hx⟩ := Value.isEnd_of_literal hv hlow
  obtain ⟨y, rfl, rfl, hy⟩ := Value.isEnd_of_literal hw hhigh
  exact ⟨name, x, y, cs, rfl, hc, hwindow, hx, hy⟩

/-! ## The value of an integer within a window -/

/-- A window holds the number nearest to an integer, and misses the integer only where it ends at that number. An integer
of 53 bits is nearest to itself. -/
structure IsAround (low high near : ℚ) (n : Int) : Prop where
  low_le : low ≤ near
  le_high : near ≤ high
  low_le_or_eq : low ≤ n ∨ low = near
  le_high_or_eq : n ≤ high ∨ high = near
  near_eq : n.natAbs ≤ 2 ^ 53 → near = n
  nearest : ∀ (d : Double) (q : ℚ), d.rational? = some q → |near - n| ≤ |q - n|

namespace Double

theorem abs_sub_le {n k l : Int} (h : (n * one - k).natAbs ≤ (n * one - l).natAbs) :
    |(k : ℚ) / one - n| ≤ |(l : ℚ) / one - n| := by
  have hunits (m : Int) : |(m : ℚ) / one - n| = (|m - n * one| : Int) / one := by
    rw [Int.cast_abs, ← abs_of_pos cast_one_pos, ← abs_div, abs_of_pos cast_one_pos, Int.cast_sub, Int.cast_mul,
      Int.cast_natCast, sub_div, mul_div_cancel_right₀ _ cast_one_pos.ne']
  rw [hunits, hunits, div_le_div_iff_of_pos_right cast_one_pos, Int.cast_le, Int.abs_eq_natAbs, Int.abs_eq_natAbs]
  omega

/-- Ends that are around the rounded units of an integer, and have at most 53 significant bits themselves. -/
theorem isAround_of_units {n low high : Int} (hlow : HasSignificand low.natAbs) (hhigh : HasSignificand high.natAbs)
    (hle : low ≤ roundSigned (n * one)) (hge : roundSigned (n * one) ≤ high) :
    IsAround ((low : ℚ) / one) ((high : ℚ) / one) ((roundSigned (n * one) : ℚ) / one) n where
  low_le := (div_le_div_iff_of_pos_right cast_one_pos).2 (Int.cast_le.2 hle)
  le_high := (div_le_div_iff_of_pos_right cast_one_pos).2 (Int.cast_le.2 hge)
  -- an end beyond the integer has no room to lie between the integer and what it is rounded to
  low_le_or_eq := by
    rcases Int.lt_or_le (n * one) low with h | h
    · exact .inr (by rw [Int.le_antisymm hle (roundSigned_le hlow h.le)])
    · exact .inl ((div_le_iff₀ cast_one_pos).2 (by exact_mod_cast h))
  le_high_or_eq := by
    rcases Int.lt_or_le high (n * one) with h | h
    · exact .inr (by rw [Int.le_antisymm (le_roundSigned hhigh h.le) hge])
    · exact .inl ((le_div_iff₀ cast_one_pos).2 (by exact_mod_cast h))
  near_eq hsmall := by
    rw [roundSigned_of_small hsmall, div_eq_iff cast_one_pos.ne']
    push_cast
    rfl
  nearest d q hq := by
    obtain ⟨u, hu, rfl⟩ := Option.map_eq_some_iff.1 hq
    have hnearest := roundSigned_nearest (hasSignificand_of_units? hu) (n * one)
    exact abs_sub_le hnearest

end Double

namespace Selection

section

variable {tolerance spec v : Value} {written column : String} {f : NumericFilter} {n : Int} {catalog : Catalog}
  {table key : Value} {s : Selection}

/-- The window around an integer of 64 bits goes around the number nearest to it. -/
theorem exists_window (hn : n.natAbs < 2 ^ 63) (hint : v.IsInteger n)
    (hv : v ∈ Criteria.centreValues (Criteria.centresAndBounds spec).1)
    (hf : Criteria.numericFilter tolerance written spec = .ok f)
    (h : ofNumeric catalog table key (.text column) f.toValue = .ok s) :
    ∃ nearest centre low high name cs l u, Double.ofInt? n = some nearest ∧ .float centre ∈ f.centres ∧
      centre.units? = some (Double.roundSigned (n * Double.one)) ∧
      f.window (.float centre) = .ok (.float low, .float high) ∧ s.condition = .anyOf cs ∧
      .within name ⟨.float low, .double⟩ ⟨.float high, .double⟩ ∈ cs ∧
      f.lower = .ofNumber l ∧ f.upper = .ofNumber u ∧ centre.IsEnd l low ∧ centre.IsEnd u high := by
  obtain ⟨c, d, hc, hd, hcentre, l, u, hl, hu⟩ := Criteria.centre_of_numericFilter hf hv hn hint
  obtain ⟨name, low, high, cs, hcs, hmem, hwindow, hlow, hhigh⟩ := within_of_centre h hcentre hl hu
  exact ⟨c, d, low, high, name, cs, l, u, hc, hcentre, hd.trans (Double.units?_ofInt? hc), hwindow, hcs, hmem, hl, hu,
    hlow, hhigh⟩

/-- A window whose bounds have zero between them holds the number nearest to the integer that it is around. It misses the
integer only where it ends at that number. -/
theorem isAround_integer (hn : n.natAbs < 2 ^ 63) (hint : v.IsInteger n)
    (hv : v ∈ Criteria.centreValues (Criteria.centresAndBounds spec).1)
    (hf : Criteria.numericFilter tolerance written spec = .ok f)
    (hlower : f.lower.isGreater (.int 0) = .ok false) (hupper : (Value.int 0).isGreater f.upper = .ok false)
    (h : ofNumeric catalog table key (.text column) f.toValue = .ok s) :
    ∃ nearest centre low high name cs m l r, Double.ofInt? n = some nearest ∧ nearest.rational? = some m ∧
      .float centre ∈ f.centres ∧ centre.rational? = some m ∧
      f.window (.float centre) = .ok (.float low, .float high) ∧ s.condition = .anyOf cs ∧
      .within name ⟨.float low, .double⟩ ⟨.float high, .double⟩ ∈ cs ∧
      low.rational? = some l ∧ high.rational? = some r ∧ IsAround l r m n := by
  obtain ⟨c, d, low, high, name, cs, l, u, hc, hcentre, hd, hwindow, hcs, hmem, hl, hu, hlow, hhigh⟩ :=
    exists_window hn hint hv hf h
  rw [hl, Number.isGreater_zero] at hlower
  rw [hu, Number.zero_isGreater] at hupper
  obtain ⟨a, ha⟩ := Double.isFinite_iff.1 hlow.isFinite
  obtain ⟨b, hb⟩ := Double.isFinite_iff.1 hhigh.isFinite
  exact ⟨c, d, low, high, name, cs, _, _, _, hc, Double.rational?_of_units? (Double.units?_ofInt? hc), hcentre,
    Double.rational?_of_units? hd, hwindow, hcs, hmem, Double.rational?_of_units? ha, Double.rational?_of_units? hb,
    Double.isAround_of_units (Double.hasSignificand_of_units? ha) (Double.hasSignificand_of_units? hb)
      (hlow.le hd ha (Except.ok.inj hlower)) (hhigh.ge hd hb (Except.ok.inj hupper))⟩

end

/-! ### Counts of events -/

/-- A catalog of events with counts. -/
def counted : Catalog := .ofLists [("events", [("event_count", some .bigint)])] [("events", ["event_uuid"])]

/-- The selection of events by their counts. -/
def byCount (f : NumericFilter) : Except Error Selection :=
  ofNumeric counted (.text "events") (.text "event_uuid") (.text "event_count") f.toValue

/-- A dozen in digits, and three in both directions. -/
theorem isAround_dozen : ∃ f s name cs, ∃ low high : Double, ∃ l r,
    Criteria.numericFilter (.int 3) "event_count" (.text (toString 12)) = .ok f ∧ byCount f = .ok s ∧
    s.condition = .anyOf cs ∧ .within name ⟨.float low, .double⟩ ⟨.float high, .double⟩ ∈ cs ∧
    low.rational? = some l ∧ high.rational? = some r ∧ l ≤ 12 ∧ 12 ≤ r := by
  have hrun : (do
      let f ← Criteria.numericFilter (.int 3) "event_count" (.text (toString 12))
      let _ ← byCount f
      return (← f.lower.isGreater (.int 0), ← (Value.int 0).isGreater f.upper) : Except Error (Bool × Bool)).toOption =
        some (false, false) := by
    decide +kernel
  obtain ⟨f, hf, hrun⟩ := bind_eq_ok.1 (toOption_eq_some.1 hrun)
  obtain ⟨s, hs, hrun⟩ := bind_eq_ok.1 hrun
  obtain ⟨lower, hlower, hrun⟩ := bind_eq_ok.1 hrun
  obtain ⟨upper, hupper, hrun⟩ := bind_eq_ok.1 hrun
  obtain ⟨rfl, rfl⟩ := Prod.mk.inj (pure_eq_ok.1 hrun)
  obtain ⟨-, -, low, high, name, cs, m, l, r, -, -, -, -, -, hcs, hmem, hlow, hhigh, h⟩ :=
    isAround_integer (n := 12) (by decide) (.inr rfl) List.mem_cons_self hf hlower hupper hs
  obtain rfl := h.near_eq (by decide)
  exact ⟨f, s, name, cs, low, high, l, r, hf, hs, hcs, hmem, hlow, hhigh, h.low_le, h.le_high⟩

/-- The least positive integer that is no binary64 number, with nothing in both directions. -/
def oddCentre : Value :=
  .object [(.text "values", .list [.int 9007199254740993]), (.text "range", .list [.int 0, .int 0])]

/-- The window of no width is around the even number below, and misses the integer. -/
theorem not_isAround_odd : ∃ f s name cs, ∃ centre low high : Double, ∃ r,
    Criteria.numericFilter (.int 3) "event_count" oddCentre = .ok f ∧
    f.lower.isGreater (.int 0) = .ok false ∧ (Value.int 0).isGreater f.upper = .ok false ∧ byCount f = .ok s ∧
    .float centre ∈ f.centres ∧ f.centres.length = 1 ∧ f.window (.float centre) = .ok (.float low, .float high) ∧
    s.condition = .anyOf cs ∧ .within name ⟨.float low, .double⟩ ⟨.float high, .double⟩ ∈ cs ∧
    high.rational? = some r ∧ ¬ (9007199254740993 : Int) ≤ r := by
  have hrun : (do
      let f ← Criteria.numericFilter (.int 3) "event_count" oddCentre
      let _ ← byCount f
      return (f.centres.length, ← f.lower.isGreater (.int 0), ← (Value.int 0).isGreater f.upper,
        ← f.upper.isGreater (.int 0)) : Except Error (Nat × Bool × Bool × Bool)).toOption =
          some (1, false, false, false) := by
    decide +kernel
  obtain ⟨f, hf, hrun⟩ := bind_eq_ok.1 (toOption_eq_some.1 hrun)
  obtain ⟨s, hs, hrun⟩ := bind_eq_ok.1 hrun
  obtain ⟨lower, hlower, hrun⟩ := bind_eq_ok.1 hrun
  obtain ⟨upper, hupper, hrun⟩ := bind_eq_ok.1 hrun
  obtain ⟨width, hwidth, hrun⟩ := bind_eq_ok.1 hrun
  simp only [pure_eq_ok, Prod.mk.injEq] at hrun
  obtain ⟨hone, rfl, rfl, rfl⟩ := hrun
  obtain ⟨-, d, low, high, name, cs, l, u, -, hcentre, hd, hwindow, hcs, hmem, -, hu, -, hhigh⟩ :=
    exists_window (n := 9007199254740993) (by decide) (.inl rfl) List.mem_cons_self hf hs
  obtain ⟨b, hb⟩ := Double.isFinite_iff.1 hhigh.isFinite
  -- nothing is added to the centre, so that the end is the centre, which was rounded
  have hend : b = Double.roundSigned (9007199254740993 * Double.one) := by
    rw [hu, Number.isGreater_zero] at hwidth
    rw [hu, Number.zero_isGreater] at hupper
    exact Int.le_antisymm (hhigh.le hd hb (Except.ok.inj hwidth)) (hhigh.ge hd hb (Except.ok.inj hupper))
  have hround : Double.roundSigned (9007199254740993 * Double.one) < 9007199254740993 * Double.one := by decide +kernel
  refine ⟨f, s, name, cs, d, low, high, _, hf, hlower, hupper, hs, hcentre, hone, hwindow, hcs, hmem,
    Double.rational?_of_units? hb, ?_⟩
  rw [not_le, div_lt_iff₀ Double.cast_one_pos, hend]
  exact_mod_cast hround

end Selection

end FacetSearch

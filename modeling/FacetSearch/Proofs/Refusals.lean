import FacetSearch.Proofs.Members
/-!
# What criteria are refused for

Criteria that are written loosely are built or refused with a fault of theirs. Two things break through
(`outcome_of_ofObject`): a number that is too large to be looked at, which is an integer beyond binary64 among the
numbers of a numeric filter or an infinite limit other than the one that means none, overflows; and a fault that has to
show an integer with too many digits cannot be worded. Which of these it is depends on what is looked at first, but
criteria with a number that is too large are never built.
-/

namespace FacetSearch

/-! ## Values that can be written -/

namespace Value

theorem areWritable_eq (xs : List Value) : areWritable xs = xs.all isWritable := by
  induction xs with
  | nil => rfl
  | cons x xs ih => rw [areWritable, ih, List.all_cons]

theorem entriesWritable_eq (es : List (Value × Value)) :
    entriesWritable es = es.all fun e => e.1.isWritable && e.2.isWritable := by
  induction es with
  | nil => rfl
  | cons e es ih =>
    obtain ⟨k, v⟩ := e
    rw [entriesWritable, ih, List.all_cons]

/-- What has a member that cannot be written cannot be written either. -/
theorem unwritable_of_member {v x : Value} {xs : List Value} (h : v.members? = some xs) (hx : x ∈ xs)
    (hw : x.isWritable = false) : v.isWritable = false := by
  have hall : areWritable xs = false := by
    rw [areWritable_eq, List.all_eq_false]
    exact ⟨x, hx, by simp [hw]⟩
  cases v <;> cases h <;> exact hall

theorem unwritable_of_entry {v : Value} {e : Value × Value} (he : e ∈ v.filters)
    (hw : (e.1.isWritable && e.2.isWritable) = false) : v.isWritable = false := by
  cases v with
  | object es =>
    show entriesWritable es = false
    rw [entriesWritable_eq, List.all_eq_false]
    exact ⟨e, he, by simp [hw]⟩
  | _ => cases he

theorem unwritable_of_get? {v w : Value} {name : String} (h : v.get? name = some w) (hw : w.isWritable = false) :
    v.isWritable = false := by
  cases v with
  | object es =>
    obtain ⟨e, he, rfl⟩ := Option.map_eq_some_iff.1 h
    exact unwritable_of_entry (List.mem_of_find?_eq_some he) (by simp [hw])
  | _ => cases h

theorem unwritable_of_part {v : Value} {name : String} (hw : (v.part name).isWritable = false) :
    v.isWritable = false := by
  cases h : v.get? name with
  | none =>
    rw [part, h] at hw
    cases hw
  | some w =>
    rw [part, h] at hw
    exact unwritable_of_get? h hw

/-! ## Numbers that are too large -/

/-- The numbers of a numeric filter as it is written: its centres and its bounds. -/
def filterNumbers (v : Value) : List Value :=
  Criteria.centreValues (Criteria.centresAndBounds v).1 ++ (Criteria.centresAndBounds v).2.groups

/-- The value is an integer to which no binary64 number is near. -/
inductive IsBeyond : Value → Prop
  | int {n : Int} (h : Double.ofInt? n = none) : IsBeyond (.int n)

/-- The value is infinite, and not the infinity that stands for no limit. -/
def IsBoundless : Value → Prop
  | .float (.infinite negative) => negative = true
  | .decimal (.infinite _) => True
  | _ => False

/-- Criteria as they are written hold a number that is too large to be looked at. -/
inductive Overflows (v : Value) : Prop
  | number {e : Value × Value} {x : Value} (he : e ∈ (v.part "numeric").filters) (hx : x ∈ e.2.filterNumbers)
      (h : x.IsBeyond)
  | limit (h : (v.part "limit").IsBoundless)

theorem unwritable_of_groups {v x : Value} (hx : x ∈ v.groups) (hw : x.isWritable = false) : v.isWritable = false := by
  cases h : v.members? with
  | none =>
    rw [groups, h] at hx
    cases hx
  | some xs =>
    rw [groups, h] at hx
    exact unwritable_of_member h hx hw

theorem unwritable_of_centre {v x : Value} (hx : x ∈ Criteria.centreValues v) (hw : x.isWritable = false) :
    v.isWritable = false := by
  unfold Criteria.centreValues at hx
  split at hx
  · cases hx
  · split at hx
    · rename_i members hm
      exact unwritable_of_member hm hx hw
    · obtain rfl := List.mem_singleton.1 hx
      exact hw

/-- Centres and bounds are parts of the filter, or the filter itself. -/
theorem unwritable_of_centresAndBounds {v : Value} (hw : (Criteria.centresAndBounds v).1.isWritable = false ∨
    (Criteria.centresAndBounds v).2.isWritable = false) : v.isWritable = false := by
  unfold Criteria.centresAndBounds at hw
  split at hw
  · exact hw.elim unwritable_of_part unwritable_of_part
  · split at hw
    · rename_i centres bounds hm
      split at hw
      · exact hw.elim (unwritable_of_member hm (by simp)) (unwritable_of_member hm (by simp))
      · exact hw.elim id fun h => by cases h
    · exact hw.elim id fun h => by cases h

theorem unwritable_of_filterNumbers {v x : Value} (hx : x ∈ v.filterNumbers) (hw : x.isWritable = false) :
    v.isWritable = false := by
  rcases List.mem_append.1 hx with hx | hx
  · exact unwritable_of_centresAndBounds (.inl (unwritable_of_centre hx hw))
  · exact unwritable_of_centresAndBounds (.inr (unwritable_of_groups hx hw))

end Value

/-! ## Ways to be refused -/

/-- How criteria are refused: with a fault of theirs, because a number overflows, or because a value in the words for a
fault cannot be written. -/
inductive Refusal (overflows unwritable : Prop) : Error → Prop
  | fault (f : ConfigurationFault) : Refusal overflows unwritable (.configuration f)
  | overflow (h : overflows) : Refusal overflows unwritable (.failure .overflow)
  | unwritable (h : unwritable) : Refusal overflows unwritable (.value .integerText)

namespace Criteria

variable {o u : Prop}

theorem fault_failsOnly {α : Type} {f : ConfigurationFault} (hw : ∀ v ∈ f.values, v.isWritable = false → u) :
    FailsOnly (Refusal o u) (fault f : Except Error α) := by
  refine .error ?_
  split
  · exact .fault f
  · rename_i h
    obtain ⟨v, hv, hfalse⟩ := List.all_eq_false.1 (Bool.eq_false_iff.2 h)
    exact .unwritable (hw v hv (by simpa using hfalse))

/-- A fault that shows one value. -/
theorem fault_failsOnly_of_values {α : Type} {f : ConfigurationFault} {v : Value} (hf : f.values = [v])
    (hw : v.isWritable = false → u) : FailsOnly (Refusal o u) (fault f : Except Error α) := by
  refine fault_failsOnly fun w hmem => ?_
  rw [hf, List.mem_singleton] at hmem
  exact hmem ▸ hw

/-- A fault that shows no value. -/
theorem fault_failsOnly_of_nil {α : Type} {f : ConfigurationFault} (hf : f.values = []) :
    FailsOnly (Refusal o u) (fault f : Except Error α) := by
  refine fault_failsOnly fun w hmem => ?_
  rw [hf] at hmem
  cases hmem

/-! ### Groups and columns -/

theorem literal_failsOnly (kind : GroupKind) {v : Value} (hw : v.isWritable = false → u) :
    FailsOnly (Refusal o u) (literal kind v) := by
  unfold literal
  split
  · exact .ok _
  · exact fault_failsOnly_of_values rfl hw

theorem readGroup_failsOnly (kind : GroupKind) {v : Value} (hw : v.isWritable = false → u) :
    FailsOnly (Refusal o u) (readGroup kind v) := by
  unfold readGroup
  split
  · exact .ok _
  · split
    · exact fault_failsOnly_of_nil rfl
    · rename_i members hm
      refine .bind (.mapM fun x hx => literal_failsOnly kind fun h => hw ?_) fun _ _ => .ok _
      exact Value.unwritable_of_member hm hx h

theorem readGroups_failsOnly (kind : GroupKind) {v : Value} (hw : v.isWritable = false → u) :
    FailsOnly (Refusal o u) (readGroups kind v) := by
  refine .ite (fun _ => .ok _) fun _ => ?_
  split
  · exact fault_failsOnly_of_nil rfl
  · rename_i members hm
    exact .mapM fun x hx => readGroup_failsOnly kind fun h => hw (Value.unwritable_of_member hm hx h)

theorem columnName_failsOnly {v : Value} (hw : v.isWritable = false → u) :
    FailsOnly (Refusal o u) (columnName v) := by
  unfold columnName
  split
  · exact .ite (fun _ => fault_failsOnly_of_values rfl hw) fun _ => .ok _
  · exact fault_failsOnly_of_values rfl hw

/-- A part whose members are read one by one is refused for its shape or for one of them. -/
theorem entries_failsOnly {β : Type} {read : Value × Value → Except Error (String × β)} {shape : ConfigurationFault}
    (hshape : shape.values = []) {v : Value} (h : ∀ e ∈ v.filters, FailsOnly (Refusal o u) (read e)) :
    FailsOnly (Refusal o u) (if v.isNull then .ok [] else match v.entries? with
      | none => fault shape
      | some entries => do return Keyed.ofList (← entries.mapM read)) := by
  refine .ite (fun _ => .ok _) fun _ => ?_
  split
  · exact fault_failsOnly_of_nil hshape
  · rename_i entries he
    refine .bind (.mapM fun e hmem => h e ?_) fun _ _ => .ok _
    rw [Value.filters, he]
    exact hmem

theorem readColumns_failsOnly {v : Value} (hw : v.isWritable = false → u) :
    FailsOnly (Refusal o u) (readColumns v) := by
  refine entries_failsOnly rfl fun e he => .bind (columnName_failsOnly fun h => hw ?_) fun _ _ => .ok _
  exact Value.unwritable_of_entry he (by simp [h])

/-! ### Numeric filters -/

theorem finite_failsOnly (role : NumberRole) (column : String) {v : Value} (ho : v.IsBeyond → o)
    (hw : v.isWritable = false → u) : FailsOnly (Refusal o u) (finite role column v) := by
  unfold finite
  split
  · exact .elim fun h => .overflow (ho (.int h))
  · split
    · exact fault_failsOnly_of_values rfl hw
    · exact .ite (fun _ => .ok _) fun _ => fault_failsOnly_of_values rfl hw

theorem not_isBeyond_of_finite {role : NumberRole} {column : String} {v : Value} {d : Double}
    (h : finite role column v = .ok d) : ¬v.IsBeyond := by
  rintro ⟨hn⟩
  rw [finite, elim_eq_ok, hn] at h
  cases h

theorem toleranceNumber_ofNumber (t : Number) : toleranceNumber (.ofNumber t) = .ok t := by
  cases t <;> rfl

theorem bounds_failsOnly (column : String) (tolerance : Number) {v : Value} (ho : ∀ x ∈ v.groups, x.IsBeyond → o)
    (hw : v.isWritable = false → u) : FailsOnly (Refusal o u) (bounds column (.ofNumber tolerance) v) := by
  refine .ite (fun _ => ?_) fun _ => ?_
  · exact .bind (.of_eq_ok (toleranceNumber_ofNumber tolerance)) fun _ _ => .ok _
  · split
    · rename_i lower upper hm
      have hgroups : v.groups = [lower, upper] := by rw [Value.groups, hm, Option.getD_some]
      have hbound (x : Value) (hx : x ∈ [lower, upper]) : FailsOnly (Refusal o u) (finite .bound column x) :=
        finite_failsOnly _ _ (ho x (hgroups ▸ hx)) fun h => hw (Value.unwritable_of_member hm hx h)
      exact .bind (hbound lower (by simp)) fun _ _ => .bind (hbound upper (by simp)) fun _ _ => .ok _
    · exact fault_failsOnly_of_nil rfl

/-- Bounds that are read hold no number that is too large. -/
theorem not_isBeyond_of_bounds {column : String} {tolerance v : Value} {b : Number × Number}
    (h : bounds column tolerance v = .ok b) : ∀ x ∈ v.groups, ¬x.IsBeyond := by
  unfold bounds at h
  split at h
  · rename_i hnull
    cases v with
    | null => exact fun x hx => nomatch hx
    | _ => cases hnull
  · split at h
    · rename_i lower upper hm
      obtain ⟨l, hl, h⟩ := bind_eq_ok.1 h
      obtain ⟨r, hr, -⟩ := bind_eq_ok.1 h
      rw [Value.groups, hm, Option.getD_some]
      intro x hx
      rcases List.mem_pair.1 hx with rfl | rfl
      · exact not_isBeyond_of_finite hl
      · exact not_isBeyond_of_finite hr
    · cases h

theorem numericFilter_failsOnly (tolerance : Number) (column : String) {v : Value}
    (ho : ∀ x ∈ v.filterNumbers, x.IsBeyond → o) (hw : v.isWritable = false → u) :
    FailsOnly (Refusal o u) (numericFilter (.ofNumber tolerance) column v) := by
  unfold numericFilter
  split
  · exact .ok _
  · refine .bind (.mapM fun x hx => .bind (finite_failsOnly _ _ ?_ fun h => hw ?_) fun _ _ => .ok _) fun _ _ =>
      .bind (bounds_failsOnly column tolerance (fun x hx => ho x (List.mem_append_right _ hx)) fun h => hw ?_)
        fun _ _ => .ok _
    · exact ho x (List.mem_append_left _ hx)
    · exact Value.unwritable_of_filterNumbers (List.mem_append_left _ hx) h
    · exact Value.unwritable_of_centresAndBounds (.inr h)

theorem not_isBeyond_of_numericFilter {tolerance v : Value} {column : String} {f : NumericFilter}
    (h : numericFilter tolerance column v = .ok f) : ∀ x ∈ v.filterNumbers, ¬x.IsBeyond := by
  unfold numericFilter at h
  split at h
  · intro x hx
    obtain rfl := List.mem_singleton.1 hx
    exact fun hb => nomatch hb
  · obtain ⟨numbers, hn, h⟩ := bind_eq_ok.1 h
    obtain ⟨b, hb, -⟩ := bind_eq_ok.1 h
    intro x hx
    rcases List.mem_append.1 hx with hx | hx
    · obtain ⟨_, -, hx⟩ := exists_of_mem_right (mapM_eq_ok.1 hn).flip hx
      obtain ⟨d, hd, -⟩ := bind_eq_ok.1 hx
      exact not_isBeyond_of_finite hd
    · exact not_isBeyond_of_bounds hb x hx

theorem readNumeric_failsOnly (tolerance : Number) {v : Value}
    (ho : ∀ e ∈ v.filters, ∀ x ∈ e.2.filterNumbers, x.IsBeyond → o) (hw : v.isWritable = false → u) :
    FailsOnly (Refusal o u) (readNumeric (.ofNumber tolerance) v) := by
  refine entries_failsOnly rfl fun e he => .bind (columnName_failsOnly fun h => hw ?_) fun _ _ =>
    .bind (numericFilter_failsOnly tolerance _ (ho e he) fun h => hw ?_) fun _ _ => .ok _
  · exact Value.unwritable_of_entry he (by simp [h])
  · exact Value.unwritable_of_entry he (by simp [h])

theorem not_isBeyond_of_readNumeric {tolerance v : Value} {fs : List (String × NumericFilter)}
    (h : readNumeric tolerance v = .ok fs) : ∀ e ∈ v.filters, ∀ x ∈ e.2.filterNumbers, ¬x.IsBeyond := by
  obtain ⟨pairs, hp, -⟩ := members_of_readNumeric h
  intro e he
  obtain ⟨_, -, -, hf⟩ := exists_of_mem_left hp he
  exact not_isBeyond_of_numericFilter hf

/-! ### Mode, flag and limit -/

theorem parseMode_failsOnly {v : Value} (hw : v.isWritable = false → u) : FailsOnly (Refusal o u) (parseMode v) := by
  unfold parseMode
  split
  · exact .ok _
  · exact .ok _
  · refine .ite (fun _ => .ok _) fun _ => ?_
    split
    · exact .ok _
    · exact fault_failsOnly_of_values rfl hw
  · exact fault_failsOnly_of_values rfl hw

theorem regexFlag_failsOnly {v : Value} (hw : v.isWritable = false → u) : FailsOnly (Refusal o u) (regexFlag v) := by
  unfold regexFlag
  split
  · exact .ok _
  · exact .ok _
  · exact .ite (fun _ => .ok _) fun _ => .ite (fun _ => .ok _) fun _ => fault_failsOnly_of_values rfl hw
  · exact fault_failsOnly_of_values rfl hw

theorem positive_failsOnly {v : Value} (hw : v.isWritable = false → u) (n : Int) :
    FailsOnly (Refusal o u) (positive v n) :=
  .ite (fun _ => .ok _) fun _ => fault_failsOnly_of_values rfl hw

theorem parseLimit_failsOnly {v : Value} (ho : v.IsBoundless → o) (hw : v.isWritable = false → u) :
    FailsOnly (Refusal o u) (parseLimit v) := by
  unfold parseLimit
  split
  · exact .ok _
  · exact positive_failsOnly hw _
  · exact .ite (fun h => .error (.overflow (ho h))) fun _ => .ok _
  · split
    · exact positive_failsOnly hw _
    · exact fault_failsOnly_of_values rfl hw
  · exact .error (.overflow (ho trivial))
  · split
    · exact positive_failsOnly hw _
    · exact fault_failsOnly_of_values rfl hw
  · split
    · exact positive_failsOnly hw _
    · exact fault_failsOnly_of_values rfl hw
  · exact fault_failsOnly_of_values rfl hw

theorem not_isBoundless_of_parseLimit {v : Value} {limit : Option Int} (h : parseLimit v = .ok limit) :
    ¬v.IsBoundless := by
  intro hb
  unfold Value.IsBoundless at hb
  split at hb
  · subst hb
    cases h
  · cases h
  · exact hb

/-! ## Criteria as a whole -/

/-- What is not built from the parts of an object is refused for its shape or its keys. -/
theorem ofObject_cases (v tolerance : Value) :
    ofObject v tolerance = fault .criteriaShape ∨ (∃ keys, ofObject v tolerance = fault (.criteriaKeys keys)) ∨
      ofObject v tolerance = build
        { tags := v.part "tags", attributes := v.part "attributes", columns := v.part "columns",
          numeric := v.part "numeric", matchMode := v.part "match", regex := (v.get? "regex").getD (.bool false),
          limit := v.part "limit", tolerance } := by
  cases v with
  | null => exact .inr (.inr (@ofObject_eq_build [] tolerance rfl))
  | object es =>
    unfold ofObject
    simp only [Value.isNull, Value.entries?, Bool.false_eq_true, if_false]
    split
    · exact .inr (.inl ⟨_, rfl⟩)
    · exact .inr (.inr rfl)
  | _ => exact .inl rfl

theorem unwritable_of_regex {v : Value} (hw : ((v.get? "regex").getD (.bool false)).isWritable = false) :
    v.isWritable = false := by
  cases h : v.get? "regex" with
  | none =>
    rw [h] at hw
    cases hw
  | some w =>
    rw [h] at hw
    exact Value.unwritable_of_get? h hw

theorem ofObject_failsOnly (v : Value) (tolerance : Number) :
    FailsOnly (Refusal v.Overflows (v.isWritable = false)) (ofObject v (.ofNumber tolerance)) := by
  have hpart {name : String} (hw : (v.part name).isWritable = false) := Value.unwritable_of_part hw
  rcases ofObject_cases v (.ofNumber tolerance) with h | ⟨keys, h⟩ | h
  · rw [h]
    exact fault_failsOnly_of_nil rfl
  · rw [h]
    exact fault_failsOnly_of_nil rfl
  · rw [h]
    exact .bind (readGroups_failsOnly _ hpart) fun _ _ => .bind (readGroups_failsOnly _ hpart) fun _ _ =>
      .bind (readColumns_failsOnly hpart) fun _ _ =>
      .bind (readNumeric_failsOnly tolerance (fun _ he _ hx hb => .number he hx hb) hpart) fun _ _ =>
      .bind (parseMode_failsOnly hpart) fun _ _ => .bind (regexFlag_failsOnly unwritable_of_regex) fun _ _ =>
      .bind (parseLimit_failsOnly .limit hpart) fun _ _ => .ok _

theorem not_overflows_of_ofObject {v tolerance : Value} {c : Criteria} (h : ofObject v tolerance = .ok c) :
    ¬v.Overflows := by
  have hbuild := build_of_ofObject h
  simp only [build, bind_eq_ok] at hbuild
  obtain ⟨_, -, _, -, _, -, numeric, hn, _, -, _, -, limit, hl, -⟩ := hbuild
  intro ho
  cases ho with
  | number he hx hb => exact not_isBeyond_of_readNumeric hn _ he _ hx hb
  | limit hb => exact not_isBoundless_of_parseLimit hl hb

/-- Criteria of any shape and size are built, or refused with a fault of theirs. All else that may come of them is an
overflow, and that only of criteria with a number too large, which are never built, or the fault of writing an integer
that has too many digits. -/
theorem outcome_of_ofObject (v : Value) (tolerance : Number) :
    (∃ c, ofObject v (.ofNumber tolerance) = .ok c ∧ ¬v.Overflows) ∨
      ∃ e, ofObject v (.ofNumber tolerance) = .error e ∧ Refusal v.Overflows (v.isWritable = false) e := by
  cases h : ofObject v (.ofNumber tolerance) with
  | ok c => exact .inl ⟨c, rfl, not_overflows_of_ofObject h⟩
  | error e => exact .inr ⟨e, rfl, ofObject_failsOnly v tolerance e h⟩

/-- A limit of negative infinity is not refused as a limit: it overflows. -/
theorem overflow_boundless :
    ofObject (.object [(.text "limit", .float (.infinite true))]) (.ofNumber (.int 0)) = .error (.failure .overflow) :=
  (ofObject_eq_build _ rfl).trans rfl

end Criteria

end FacetSearch

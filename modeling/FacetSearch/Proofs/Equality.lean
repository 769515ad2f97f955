import FacetSearch.Proofs.ExactNumbers
import Mathlib.Data.List.Forall2
/-!
# Equality of values as an equivalence

Values without parts are equal if they have an `Atom` in common (`Value.same_iff_of_atom?`); lists, tuples, objects and
filters are equal if their parts are. So a value is equal to itself (`Value.same_refl`), and values that are equal to one
value are equal to each other (`Value.same_trans`). Equality of objects asks one way only: each entry of the first object is
an entry of the second, and there are as many. That is symmetric if the keys of the first are distinct
(`Value.DistinctKeys.same_symm`).
-/

namespace FacetSearch

/-- The point in time of a timestamp, in Greenwich or as it stands. -/
def Timestamp.moment (t : Timestamp) : Int ⊕ Int :=
  match t.instant? with
  | some n => .inl n
  | none => .inr t.toMicros

theorem Timestamp.same_iff {s t : Timestamp} : s.same t = true ↔ s.moment = t.moment := by
  unfold same moment
  cases s.instant? <;> cases t.instant? <;> simp

/-- What equal values without parts have in common. -/
inductive Atom where
  | null
  | text (s : String)
  | bytes (bs : List UInt8)
  | uuid (u : Uuid)
  | moment (t : Int ⊕ Int)
  | date (d : Date)
  | mode (m : MatchMode)
  | number (x : Exact)

namespace Value

/-- What a value has in common with its equals, if it has no parts. -/
def atom? : Value → Option Atom
  | .null => some .null
  | .text s => some (.text s)
  | .bytes bs => some (.bytes bs)
  | .uuid u => some (.uuid u)
  | .timestamp t => some (.moment t.moment)
  | .date d => some (.date d)
  | .mode m => some (.mode m)
  | v => v.exactly?.map .number

/-- The parts of a value. -/
def inside : Value → List Value
  | .list xs => xs
  | .tuple xs => xs
  | .object es => es.map Prod.fst ++ es.map Prod.snd
  | .filter centres lower upper => lower :: upper :: centres
  | _ => []

theorem sizeOf_inside {v w : Value} (h : w ∈ v.inside) : sizeOf w < sizeOf v := by
  have hpair : ∀ {es : List (Value × Value)} {e : Value × Value}, e ∈ es →
      sizeOf e.1 < sizeOf es ∧ sizeOf e.2 < sizeOf es := by
    intro es e he
    have hlt := List.sizeOf_lt_of_mem he
    have hpair : sizeOf e = 1 + sizeOf e.1 + sizeOf e.2 := by
      cases e
      rfl
    omega
  cases v with
  | list xs =>
    have := List.sizeOf_lt_of_mem (show w ∈ xs from h)
    simp only [list.sizeOf_spec]
    omega
  | tuple xs =>
    have := List.sizeOf_lt_of_mem (show w ∈ xs from h)
    simp only [tuple.sizeOf_spec]
    omega
  | object es =>
    simp only [object.sizeOf_spec]
    rcases List.mem_append.1 (show w ∈ es.map Prod.fst ++ es.map Prod.snd from h) with h | h
    · obtain ⟨e, he, rfl⟩ := List.mem_map.1 h
      have := (hpair he).1
      omega
    · obtain ⟨e, he, rfl⟩ := List.mem_map.1 h
      have := (hpair he).2
      omega
  | filter centres lower upper =>
    simp only [filter.sizeOf_spec]
    rcases List.mem_cons.1 (show w ∈ lower :: upper :: centres from h) with rfl | h
    · omega
    · rcases List.mem_cons.1 h with rfl | h
      · omega
      · have := List.sizeOf_lt_of_mem h
        omega
  | _ => cases h

/-- What holds of a value whenever it holds of its parts holds of every value. -/
theorem induction_inside {P : Value → Prop} (h : ∀ v, (∀ w ∈ v.inside, P w) → P v) (v : Value) : P v :=
  h v fun w _ => induction_inside h w
termination_by sizeOf v
decreasing_by exact sizeOf_inside ‹_›

/-! ## Inversion -/

theorem atom?_eq_number_iff {v : Value} {x : Exact} : v.atom? = some (.number x) ↔ v.exactly? = some x := by
  cases v <;> simp [atom?, exactly?, number?]

/-- Only numbers are equal to numbers. -/
theorem exists_exactly?_of_same {v w : Value} {x : Exact} (hv : v.exactly? = some x) (h : v.same w = true) :
    ∃ y, w.exactly? = some y := by
  rcases exactly?_cases hv with ⟨d, rfl, -⟩ | ⟨n, hn, -⟩
  · cases w <;> first | exact ⟨_, rfl⟩ | cases d <;> cases h
  · cases w <;> first | exact ⟨_, rfl⟩ | cases v <;> cases hn <;> cases h

/-- Values without parts are equal to those with which they have their atom in common. -/
theorem same_iff_of_atom? {v w : Value} {a : Atom} (h : v.atom? = some a) : v.same w = true ↔ w.atom? = some a := by
  cases hx : v.exactly? with
  | some x =>
    obtain rfl := Option.some.inj ((atom?_eq_number_iff.2 hx).symm.trans h)
    rw [atom?_eq_number_iff]
    constructor
    · intro hsame
      obtain ⟨y, hy⟩ := exists_exactly?_of_same hx hsame
      rwa [(same_iff_of_exactly? hx hy).1 hsame]
    · intro hw
      exact (same_iff_of_exactly? hx hw).2 rfl
  | none =>
    cases v with
    | bool | int | float | decimal => cases hx
    | list | tuple | object | filter => cases h
    | timestamp t =>
      obtain rfl := Option.some.inj h
      cases w with
      | timestamp u =>
        simp only [same, sameScalar, atom?, Option.some.injEq, Atom.moment.injEq, Timestamp.same_iff]
        exact eq_comm
      | _ => constructor <;> intro h <;> cases h
    | null =>
      obtain rfl := Option.some.inj h
      cases w <;> constructor <;> intro h <;> first | rfl | cases h
    | _ =>
      obtain rfl := Option.some.inj h
      cases w <;> constructor <;> intro h <;> first
        | exact congrArg _ (congrArg _ (beq_iff_eq.1 h).symm)
        | exact beq_iff_eq.2 (by cases h; rfl)
        | cases h

theorem sameMembers_iff {xs ys : List Value} :
    sameMembers xs ys = true ↔ List.Forall₂ (fun x y => x.same y = true) xs ys := by
  induction xs generalizing ys with
  | nil => cases ys <;> simp [sameMembers]
  | cons x xs ih => cases ys <;> simp [sameMembers, ih]

theorem sameEntries_iff {es fs : List (Value × Value)} :
    sameEntries es fs = true ↔ ∀ e ∈ es, ∃ f ∈ fs, e.1.same f.1 = true ∧ e.2.same f.2 = true := by
  induction es with
  | nil => simp [sameEntries]
  | cons e es ih => simp [sameEntries, ih]

theorem same_list_iff {xs : List Value} {w : Value} :
    (list xs).same w = true ↔ ∃ ys, w = .list ys ∧ List.Forall₂ (fun x y => x.same y = true) xs ys := by
  cases w with
  | list ys => exact sameMembers_iff.trans (by simp)
  | _ =>
    constructor
    · intro h
      cases h
    · rintro ⟨_, hw, -⟩
      cases hw

theorem same_tuple_iff {xs : List Value} {w : Value} :
    (tuple xs).same w = true ↔ ∃ ys, w = .tuple ys ∧ List.Forall₂ (fun x y => x.same y = true) xs ys := by
  cases w with
  | tuple ys => exact sameMembers_iff.trans (by simp)
  | _ =>
    constructor
    · intro h
      cases h
    · rintro ⟨_, hw, -⟩
      cases hw

theorem same_object_iff {es : List (Value × Value)} {w : Value} :
    (object es).same w = true ↔
      ∃ fs, w = .object fs ∧ es.length = fs.length ∧
        ∀ e ∈ es, ∃ f ∈ fs, e.1.same f.1 = true ∧ e.2.same f.2 = true := by
  cases w with
  | object fs => simp [same, sameEntries_iff]
  | _ =>
    constructor
    · intro h
      cases h
    · rintro ⟨_, hw, -⟩
      cases hw

theorem same_filter_iff {xs : List Value} {a b w : Value} :
    (filter xs a b).same w = true ↔
      ∃ ys c d, w = .filter ys c d ∧ List.Forall₂ (fun x y => x.same y = true) xs ys ∧ a.same c = true ∧
        b.same d = true := by
  cases w with
  | filter ys c d => simp [same, sameMembers_iff, and_assoc]
  | _ =>
    constructor
    · intro h
      cases h
    · rintro ⟨_, _, _, hw, -⟩
      cases hw

/-! ## Reflexivity and transitivity -/

/-- Every value is equal to itself. -/
theorem same_refl (v : Value) : v.same v = true := by
  induction v using induction_inside with
  | h v ih =>
    cases ha : v.atom? with
    | some a => exact (same_iff_of_atom? ha).2 ha
    | none =>
      cases v with
      | list xs => exact same_list_iff.2 ⟨xs, rfl, List.forall₂_same.2 ih⟩
      | tuple xs => exact same_tuple_iff.2 ⟨xs, rfl, List.forall₂_same.2 ih⟩
      | object es =>
        refine same_object_iff.2 ⟨es, rfl, rfl, fun e he => ⟨e, he, ?_, ?_⟩⟩
        · exact ih _ (List.mem_append_left _ (List.mem_map_of_mem he))
        · exact ih _ (List.mem_append_right _ (List.mem_map_of_mem he))
      | filter centres lower upper =>
        refine same_filter_iff.2 ⟨centres, lower, upper, rfl, List.forall₂_same.2 fun x hx => ?_, ?_, ?_⟩
        · exact ih x (List.mem_cons_of_mem _ (List.mem_cons_of_mem _ hx))
        · exact ih lower List.mem_cons_self
        · exact ih upper (List.mem_cons_of_mem _ List.mem_cons_self)
      | _ => cases ha

theorem forall₂_trans_of_mem {R : Value → Value → Prop} {xs ys zs : List Value}
    (htrans : ∀ x ∈ xs, ∀ {y z}, R x y → R y z → R x z) (hxy : List.Forall₂ R xs ys) (hyz : List.Forall₂ R ys zs) :
    List.Forall₂ R xs zs := by
  induction hxy generalizing zs with
  | nil => exact hyz
  | cons h _ ih =>
    cases hyz with
    | cons h' hyz =>
      exact .cons (htrans _ List.mem_cons_self h h') (ih (fun x hx => htrans x (List.mem_cons_of_mem _ hx)) hyz)

/-- What is equal to an equal value is equal. -/
theorem same_trans {u v w : Value} (huv : u.same v = true) (hvw : v.same w = true) : u.same w = true := by
  induction u using induction_inside generalizing v w with
  | h u ih =>
    cases ha : u.atom? with
    | some a => exact (same_iff_of_atom? ha).2 ((same_iff_of_atom? ((same_iff_of_atom? ha).1 huv)).1 hvw)
    | none =>
      cases u with
      | list xs =>
        obtain ⟨ys, rfl, hxy⟩ := same_list_iff.1 huv
        obtain ⟨zs, rfl, hyz⟩ := same_list_iff.1 hvw
        exact same_list_iff.2 ⟨zs, rfl, forall₂_trans_of_mem ih hxy hyz⟩
      | tuple xs =>
        obtain ⟨ys, rfl, hxy⟩ := same_tuple_iff.1 huv
        obtain ⟨zs, rfl, hyz⟩ := same_tuple_iff.1 hvw
        exact same_tuple_iff.2 ⟨zs, rfl, forall₂_trans_of_mem ih hxy hyz⟩
      | object es =>
        obtain ⟨fs, rfl, hef, hmatch⟩ := same_object_iff.1 huv
        obtain ⟨gs, rfl, hfg, hmatch'⟩ := same_object_iff.1 hvw
        refine same_object_iff.2 ⟨gs, rfl, hef.trans hfg, fun e he => ?_⟩
        obtain ⟨f, hf, hkey, hvalue⟩ := hmatch e he
        obtain ⟨g, hg, hkey', hvalue'⟩ := hmatch' f hf
        exact ⟨g, hg, ih _ (List.mem_append_left _ (List.mem_map_of_mem he)) hkey hkey',
          ih _ (List.mem_append_right _ (List.mem_map_of_mem he)) hvalue hvalue'⟩
      | filter xs a b =>
        obtain ⟨ys, c, d, rfl, hxy, hac, hbd⟩ := same_filter_iff.1 huv
        obtain ⟨zs, e, f, rfl, hyz, hce, hdf⟩ := same_filter_iff.1 hvw
        exact same_filter_iff.2 ⟨zs, e, f, rfl,
          forall₂_trans_of_mem (fun x hx => ih x (List.mem_cons_of_mem _ (List.mem_cons_of_mem _ hx))) hxy hyz,
          ih a List.mem_cons_self hac hce, ih b (List.mem_cons_of_mem _ List.mem_cons_self) hbd hdf⟩
      | _ => cases ha

/-! ## Symmetry -/

/-- In every object that is part of the value, or the value itself, no two keys are equal. -/
inductive DistinctKeys : Value → Prop
  | intro {v : Value} (keys : ∀ es, v = .object es → es.Pairwise fun e f => e.1.same f.1 = false)
      (parts : ∀ w ∈ v.inside, DistinctKeys w) : DistinctKeys v

theorem DistinctKeys.part {v w : Value} (h : v.DistinctKeys) (hw : w ∈ v.inside) : w.DistinctKeys := by
  cases h with
  | intro _ parts => exact parts w hw

/-- If each of as many members has its match, and no match is shared, nothing is left without a match. -/
theorem exists_match {α β : Type} {R : α → β → Prop} {as : List α} {bs : List β} (hlength : as.length = bs.length)
    (hmatch : ∀ a ∈ as, ∃ b ∈ bs, R a b) (hapart : as.Pairwise fun a a' => ∀ b, R a b → ¬ R a' b) :
    ∀ b ∈ bs, ∃ a ∈ as, R a b := by
  induction as generalizing bs with
  | nil =>
    obtain rfl := List.eq_nil_of_length_eq_zero hlength.symm
    exact fun b hb => nomatch hb
  | cons a as ih =>
    obtain ⟨b, hb, hab⟩ := hmatch a List.mem_cons_self
    obtain ⟨front, back, rfl⟩ := List.append_of_mem hb
    obtain ⟨hhead, htail⟩ := List.pairwise_cons.1 hapart
    -- the other members have their matches among the other things
    have hrest : ∀ b' ∈ front ++ back, ∃ a' ∈ as, R a' b' := by
      refine ih ?_ (fun a' ha' => ?_) htail
      · simp only [List.length_cons, List.length_append] at hlength ⊢
        omega
      · obtain ⟨b', hb', hab'⟩ := hmatch a' (List.mem_cons_of_mem _ ha')
        have hne : b' ≠ b := by
          rintro rfl
          exact hhead a' ha' b' hab hab'
        refine ⟨b', ?_, hab'⟩
        rcases List.mem_append.1 hb' with h | h
        · exact List.mem_append_left _ h
        · exact List.mem_append_right _ ((List.mem_cons.1 h).resolve_left hne)
    intro b' hb'
    rcases List.mem_cons.1 (List.perm_middle.mem_iff.1 hb') with rfl | h
    · exact ⟨a, List.mem_cons_self, hab⟩
    · obtain ⟨a', ha', hab'⟩ := hrest b' h
      exact ⟨a', List.mem_cons_of_mem _ ha', hab'⟩

theorem forall₂_symm_of_mem {R : Value → Value → Prop} {xs ys : List Value} (hsymm : ∀ x ∈ xs, ∀ {y}, R x y → R y x)
    (h : List.Forall₂ R xs ys) : List.Forall₂ R ys xs := by
  induction h with
  | nil => exact .nil
  | cons h _ ih =>
    exact .cons (hsymm _ List.mem_cons_self h) (ih fun x hx => hsymm x (List.mem_cons_of_mem _ hx))

/-- A value with distinct keys is equal to what it is found equal to, the other way round too. -/
theorem DistinctKeys.same_symm {v w : Value} (hv : v.DistinctKeys) (h : v.same w = true) : w.same v = true := by
  induction v using induction_inside generalizing w with
  | h v ih =>
    have ihp : ∀ x ∈ v.inside, ∀ {y}, x.same y = true → y.same x = true := fun x hx y => ih x hx (hv.part hx)
    cases ha : v.atom? with
    | some a => exact (same_iff_of_atom? ((same_iff_of_atom? ha).1 h)).2 ha
    | none =>
      cases v with
      | list xs =>
        obtain ⟨ys, rfl, hxy⟩ := same_list_iff.1 h
        exact same_list_iff.2 ⟨xs, rfl, forall₂_symm_of_mem ihp hxy⟩
      | tuple xs =>
        obtain ⟨ys, rfl, hxy⟩ := same_tuple_iff.1 h
        exact same_tuple_iff.2 ⟨xs, rfl, forall₂_symm_of_mem ihp hxy⟩
      | object es =>
        obtain ⟨fs, rfl, hlength, hmatch⟩ := same_object_iff.1 h
        have hkey : ∀ e ∈ es, ∀ {y}, e.1.same y = true → y.same e.1 = true := fun e he =>
          ihp e.1 (List.mem_append_left _ (List.mem_map_of_mem he))
        have hvalue : ∀ e ∈ es, ∀ {y}, e.2.same y = true → y.same e.2 = true := fun e he =>
          ihp e.2 (List.mem_append_right _ (List.mem_map_of_mem he))
        -- entries with one match have equal keys
        have hapart : es.Pairwise fun e e' => ∀ f : Value × Value,
            (e.1.same f.1 = true ∧ e.2.same f.2 = true) → ¬ (e'.1.same f.1 = true ∧ e'.2.same f.2 = true) := by
          cases hv with
          | intro keys _ =>
            refine (keys es rfl).imp_of_mem fun {e e'} _ he' hdistinct f hf hf' => ?_
            rw [same_trans hf.1 (hkey e' he' hf'.1)] at hdistinct
            cases hdistinct
        refine same_object_iff.2 ⟨es, rfl, hlength.symm, fun f hf => ?_⟩
        obtain ⟨e, he, hsame⟩ := exists_match hlength hmatch hapart f hf
        exact ⟨e, he, hkey e he hsame.1, hvalue e he hsame.2⟩
      | filter xs a b =>
        obtain ⟨ys, c, d, rfl, hxy, hac, hbd⟩ := same_filter_iff.1 h
        exact same_filter_iff.2 ⟨xs, a, b, rfl,
          forall₂_symm_of_mem (fun x hx => ihp x (List.mem_cons_of_mem _ (List.mem_cons_of_mem _ hx))) hxy,
          ihp a List.mem_cons_self hac, ihp b (List.mem_cons_of_mem _ List.mem_cons_self) hbd⟩
      | _ => cases ha

end Value

end FacetSearch

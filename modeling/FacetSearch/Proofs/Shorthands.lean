import FacetSearch.Proofs.Members
/-!
# Shorthands

Some parts of criteria may be written in short: a text by itself is the group of one literal, a value by itself is the only
value of a column, and a numeric filter may be a number, a list of centres, or a pair of centres and bounds instead of an
object with both. Each of these forms stands for a longer one (`ShortGroup`, `ShortColumn`, `ShortFilter`), whatever it
holds: a list of two centres is never taken for a pair of centres and bounds, nor the other way round. Criteria that differ
in nothing but the forms of some of their parts are built alike: the same criteria come of them, or the same error
(`Criteria.ofObject_rewritten`).
-/

namespace FacetSearch

/-! ## Short and long forms -/

/-- The value is none of those that are looked into: a list, an object or a filter in normal form. -/
def Value.isSingle : Value → Bool
  | .list _ | .tuple _ | .object _ | .filter .. => false
  | _ => true

/-- A text stands for the group of this literal. -/
inductive ShortGroup : Value → Value → Prop
  | literal (s : String) : ShortGroup (.text s) (.list [.text s])

/-- A value that is no list stands for the list of this value. -/
inductive ShortColumn : Value → Value → Prop
  | value {v : Value} (h : v.members? = none) : ShortColumn v (.list [v])

/-- An object that names centres and bounds. Bounds that are nothing need not be named. -/
structure SpellsFilter (centres bounds o : Value) : Prop where
  isObject : ∃ es, o = .object es
  centres : o.part "values" = centres
  bounds : o.part "range" = bounds

/-- A number stands for the object of this centre, a list of centres for the object of them, and a pair of centres and a
list of bounds for the object of both. -/
inductive ShortFilter : Value → Value → Prop
  | centre {x o : Value} (hx : x.isSingle = true) (hnull : x ≠ .null) (ho : SpellsFilter (.list [x]) .null o) : ShortFilter x o
  | centres {v o : Value} {xs : List Value} (hv : v.members? = some xs) (hxs : ∀ x ∈ xs, x.isSingle = true)
    (ho : SpellsFilter v .null o) : ShortFilter v o
  | pair {v centres bounds o : Value} {ys : List Value} (hv : v.members? = some [centres, bounds])
    (hbounds : bounds.members? = some ys) (ho : SpellsFilter centres bounds o) : ShortFilter v o

/-- The values are the same, or one of them is the short form of the other. -/
def Either (R : Value → Value → Prop) (v w : Value) : Prop := v = w ∨ R v w ∨ R w v

namespace Criteria

/-- Parts of criteria under a name that differ in the forms of groups, of the values of columns or of numeric filters. -/
inductive RewrittenPart (name : String) : Value → Value → Prop
  | same (v : Value) : RewrittenPart name v v
  | groups {kind : GroupKind} {v w : Value} {vs ws : List Value} (hname : name = kind.member)
    (hv : v.members? = some vs) (hw : w.members? = some ws) (h : List.Forall₂ (Either ShortGroup) vs ws) :
    RewrittenPart name v w
  | columns {es fs : List (Value × Value)} (hname : name = "columns")
    (h : List.Forall₂ (fun e f => e.1 = f.1 ∧ Either ShortColumn e.2 f.2) es fs) :
    RewrittenPart name (.object es) (.object fs)
  | numeric {es fs : List (Value × Value)} (hname : name = "numeric")
    (h : List.Forall₂ (fun e f => e.1 = f.1 ∧ Either ShortFilter e.2 f.2) es fs) :
    RewrittenPart name (.object es) (.object fs)

/-- Members of criteria with the same key that differ in the forms of their parts. -/
def RewrittenMember (e f : Value × Value) : Prop :=
  e.1 = f.1 ∧ (e.2 = f.2 ∨ ∃ name, e.1 = .text name ∧ RewrittenPart name e.2 f.2)

/-- Criteria that differ in the forms of some of their parts. -/
inductive Rewritten : Value → Value → Prop
  | same (v : Value) : Rewritten v v
  | object {es fs : List (Value × Value)} (h : List.Forall₂ RewrittenMember es fs) : Rewritten (.object es) (.object fs)

end Criteria

/-! ## Forms that are read alike -/

/-- Members that are read alike one by one are read alike all together. -/
theorem mapM_congr {ε α β γ : Type} {f : α → Except ε γ} {g : β → Except ε γ} {as : List α} {bs : List β}
    (h : List.Forall₂ (fun a b => f a = g b) as bs) : as.mapM f = bs.mapM g := by
  induction h with
  | nil => rfl
  | cons hab _ ih => rw [List.mapM_cons, List.mapM_cons, hab, ih]

/-- What does not tell the short form from the long one does not tell either of them from the other. -/
theorem Either.congr {α : Type} {R : Value → Value → Prop} (read : Value → α)
    (h : ∀ v w, R v w → read v = read w) {v w : Value} (hvw : Either R v w) : read v = read w := by
  rcases hvw with rfl | hvw | hvw
  · rfl
  · exact h v w hvw
  · exact (h w v hvw).symm

namespace Criteria

theorem readGroup_of_short (kind : GroupKind) {v w : Value} (h : ShortGroup v w) : readGroup kind v = readGroup kind w := by
  cases h with
  | literal s => rfl

theorem readGroups_of_members {kind : GroupKind} {v : Value} {vs : List Value} (hv : v.members? = some vs) :
    readGroups kind v = vs.mapM (readGroup kind) := by
  have hnull : v.isNull = false := by cases v <;> first | rfl | cases hv
  simp only [readGroups, hnull, hv, Bool.false_eq_true, if_false]

theorem columnValues_of_short {v w : Value} (h : ShortColumn v w) : columnValues v = columnValues w := by
  cases h with
  | value h =>
    rw [columnValues, h]
    rfl

/-- A filter is made of its centres and its bounds, unless it is in normal form. -/
theorem numericFilter_eq {v : Value} (hv : ∀ centres lower upper, v ≠ .filter centres lower upper) (tolerance : Value)
    (column : String) :
    numericFilter tolerance column v = (do
      let numbers ← (centreValues (centresAndBounds v).1).mapM fun c => do return .float (← finite .centre column c)
      let (lower, upper) ← bounds column tolerance (centresAndBounds v).2
      return { centres := Value.firsts numbers, lower := .ofNumber lower, upper := .ofNumber upper }) := by
  unfold numericFilter
  split
  · exact absurd rfl (hv _ _ _)
  · rfl

theorem centresAndBounds_of_spells {centres bounds o : Value} (h : SpellsFilter centres bounds o) :
    centresAndBounds o = (centres, bounds) := by
  obtain ⟨es, rfl⟩ := h.isObject
  exact Prod.ext h.centres h.bounds

theorem centresAndBounds_of_pair {v centres bounds : Value} {ys : List Value} (hv : v.members? = some [centres, bounds])
    (hbounds : bounds.members? = some ys) : centresAndBounds v = (centres, bounds) := by
  unfold centresAndBounds
  split
  · cases hv
  · simp only [hv, hbounds, Option.isSome_some, if_true]

/-- A list whose second and last member is no list is a list of centres. -/
theorem centresAndBounds_of_singles {v : Value} {xs : List Value} (hv : v.members? = some xs)
    (h : ∀ x ∈ xs, x.isSingle = true) : centresAndBounds v = (v, .null) := by
  unfold centresAndBounds
  split
  · cases hv
  · rw [hv]
    split
    · rename_i centres bounds heq
      obtain rfl := Option.some.inj heq
      have hbounds := h bounds (by simp)
      cases bounds <;> first | rfl | cases hbounds
    · rfl

theorem centresAndBounds_of_single {x : Value} (h : x.isSingle = true) : centresAndBounds x = (x, .null) := by
  cases x <;> first | rfl | cases h

theorem ne_filter_of_members {v : Value} {xs : List Value} (hv : v.members? = some xs) (centres : List Value)
    (lower upper : Value) : v ≠ .filter centres lower upper := by
  rintro rfl
  cases hv

theorem centreValues_of_single {x : Value} (h : x.isSingle = true) (hnull : x ≠ .null) : centreValues x = [x] := by
  cases x <;> first | exact absurd rfl hnull | rfl | cases h

theorem numericFilter_of_short (tolerance : Value) (column : String) {v w : Value} (h : ShortFilter v w) :
    numericFilter tolerance column v = numericFilter tolerance column w := by
  -- the long form names the centres and bounds that the short form is taken apart into
  obtain ⟨centres, bounds, hw, hv, hcentres, hbounds⟩ : ∃ centres bounds, SpellsFilter centres bounds w ∧
      (∀ cs l u, v ≠ .filter cs l u) ∧ centreValues (centresAndBounds v).1 = centreValues centres ∧
      (centresAndBounds v).2 = bounds := by
    cases h with
    | centre hx hnull ho =>
      have hfilter : ∀ cs l u, v ≠ .filter cs l u := by
        rintro _ _ _ rfl
        cases hx
      rw [centresAndBounds_of_single hx, centreValues_of_single hx hnull]
      exact ⟨_, _, ho, hfilter, rfl, rfl⟩
    | centres hv hxs ho =>
      rw [centresAndBounds_of_singles hv hxs]
      exact ⟨_, _, ho, ne_filter_of_members hv, rfl, rfl⟩
    | pair hv hbounds ho =>
      rw [centresAndBounds_of_pair hv hbounds]
      exact ⟨_, _, ho, ne_filter_of_members hv, rfl, rfl⟩
  have hobject : ∀ cs l u, w ≠ .filter cs l u := by
    obtain ⟨es, rfl⟩ := hw.isObject
    simp
  rw [numericFilter_eq hv, numericFilter_eq hobject, centresAndBounds_of_spells hw, hcentres, hbounds]

/-- A part whose members are read one by one is read alike if they have the same keys and are read alike. -/
theorem entries_congr {β : Type} {read : Value × Value → Except Error (String × β)} {R : Value → Value → Prop}
    (h : ∀ k v w, R v w → read (k, v) = read (k, w)) {es fs : List (Value × Value)}
    (hes : List.Forall₂ (fun e f => e.1 = f.1 ∧ R e.2 f.2) es fs) :
    (do return Keyed.ofList (← es.mapM read)) = (do return Keyed.ofList (← fs.mapM read)) := by
  rw [mapM_congr (hes.imp fun (k, v) (l, w) ⟨hkey, hvw⟩ => ?_)]
  obtain rfl : k = l := hkey
  exact h k v w hvw

/-! ## Parts of criteria -/

section

variable {name : String} {v w : Value} (h : RewrittenPart name v w)

include h

theorem readGroups_of_part {kind : GroupKind} (hname : name = kind.member) : readGroups kind v = readGroups kind w := by
  cases h with
  | same => rfl
  | groups _ hv hw h =>
    rw [readGroups_of_members hv, readGroups_of_members hw]
    exact mapM_congr (h.imp fun _ _ => Either.congr (readGroup kind) fun _ _ => readGroup_of_short kind)
  | columns hother => cases kind <;> exact absurd (hname.symm.trans hother) (by decide)
  | numeric hother => cases kind <;> exact absurd (hname.symm.trans hother) (by decide)

theorem readColumns_of_part (hname : name = "columns") : readColumns v = readColumns w := by
  cases h with
  | same => rfl
  | columns _ h =>
    refine entries_congr (fun k v w hvw => ?_) h
    simp only [hvw.congr columnValues fun _ _ => columnValues_of_short]
  | @groups kind _ _ _ _ hother => cases kind <;> exact absurd (hname.symm.trans hother) (by decide)
  | numeric hother => exact absurd (hname.symm.trans hother) (by decide)

theorem readNumeric_of_part (hname : name = "numeric") (tolerance : Value) :
    readNumeric tolerance v = readNumeric tolerance w := by
  cases h with
  | same => rfl
  | numeric _ h =>
    refine entries_congr (fun k v w hvw => ?_) h
    simp only [hvw.congr (numericFilter tolerance k.plain) fun _ _ => numericFilter_of_short tolerance k.plain]
  | @groups kind _ _ _ _ hother => cases kind <;> exact absurd (hname.symm.trans hother) (by decide)
  | columns hother => exact absurd (hname.symm.trans hother) (by decide)

/-- Other parts have one form only. -/
theorem eq_of_part (hname : name ∉ ["tags", "attributes", "columns", "numeric"]) : v = w := by
  cases h with
  | same => rfl
  | @groups kind _ _ _ _ hother => cases kind <;> simp [hother, GroupKind.member] at hname
  | columns hother => simp [hother] at hname
  | numeric hother => simp [hother] at hname

end

section

variable {es fs : List (Value × Value)} (h : List.Forall₂ RewrittenMember es fs)

include h

/-- Under a name both criteria have nothing, or parts that differ in their forms only. -/
theorem get?_rewritten (name : String) :
    Option.Rel (RewrittenPart name) ((Value.object es).get? name) ((Value.object fs).get? name) := by
  simp only [Value.get?]
  induction h with
  | nil => exact .none
  | @cons e f es fs hef _ ih =>
    obtain ⟨hkey, hpart⟩ := hef
    rw [List.find?_cons, List.find?_cons, ← hkey]
    cases hname : e.1.same (.text name) with
    | false => exact ih
    | true =>
      -- the key is the name that is looked up, so it is also the name that the parts are related under
      refine .some ?_
      rcases hpart with hpart | ⟨other, hother, hpart⟩
      · rw [hpart]
        exact .same f.2
      · obtain rfl := Value.text.inj (hother.symm.trans (Value.same_text_iff.1 hname))
        exact hpart

theorem part_rewritten (name : String) :
    RewrittenPart name (((Value.object es).get? name).getD .null) (((Value.object fs).get? name).getD .null) := by
  have hrel := get?_rewritten h name
  generalize (Value.object es).get? name = v, (Value.object fs).get? name = w at hrel ⊢
  cases hrel with
  | none => exact .same _
  | some hpart => exact hpart

theorem get?_eq_of_rewritten {name : String} (hname : name ∉ ["tags", "attributes", "columns", "numeric"]) :
    (Value.object es).get? name = (Value.object fs).get? name := by
  have hrel := get?_rewritten h name
  generalize (Value.object es).get? name = v, (Value.object fs).get? name = w at hrel ⊢
  cases hrel with
  | none => rfl
  | some hpart => rw [eq_of_part hpart hname]

theorem keys_rewritten : es.map Prod.fst = fs.map Prod.fst := by
  induction h with
  | nil => rfl
  | cons hef _ ih => rw [List.map_cons, List.map_cons, hef.1, ih]

end

/-- Criteria that differ in nothing but the forms of some of their parts are the same criteria, or are refused with the same
error, under every tolerance. -/
theorem ofObject_rewritten {v w : Value} (h : Rewritten v w) (tolerance : Value) :
    ofObject v tolerance = ofObject w tolerance := by
  cases h with
  | same => rfl
  | @object es fs h =>
    have hkeys : unknownKeys memberNames es = unknownKeys memberNames fs := by
      rw [unknownKeys, unknownKeys, keys_rewritten h]
    have htags : readGroups .tags _ = readGroups .tags _ := readGroups_of_part (part_rewritten h "tags") rfl
    have hattributes : readGroups .attributes _ = readGroups .attributes _ :=
      readGroups_of_part (part_rewritten h "attributes") rfl
    have hcolumns := readColumns_of_part (part_rewritten h "columns") rfl
    have hnumeric := readNumeric_of_part (part_rewritten h "numeric") rfl tolerance
    have hmatch : (Value.object es).get? "match" = _ := get?_eq_of_rewritten h (by decide)
    have hregex : (Value.object es).get? "regex" = _ := get?_eq_of_rewritten h (by decide)
    have hlimit : (Value.object es).get? "limit" = _ := get?_eq_of_rewritten h (by decide)
    simp only [ofObject, Value.isNull, Value.entries?, Bool.false_eq_true, if_false, hkeys, build, htags, hattributes,
      hcolumns, hnumeric, hmatch, hregex, hlimit]

/-! ### Walks in two ways -/

/-- Criteria for walks with one group in short and another at length, and everything else in short. -/
def shortWalks : Value :=
  .object [(.text "tags", .list [.text "/walk", .list [.text "/dog"]]),
    (.text "columns", .object [(.text " place ", .text "park")]),
    (.text "numeric", .object [(.text "length", .int 3), (.text "start", .list [.int 1, .int 2]),
      (.text "end", .list [.int 5, .list [.int (-1), .int 1]])])]

/-- The same criteria with the other form of each part. -/
def longWalks : Value :=
  .object [(.text "tags", .list [.list [.text "/walk"], .text "/dog"]),
    (.text "columns", .object [(.text " place ", .list [.text "park"])]),
    (.text "numeric", .object [(.text "length", .object [(.text "values", .list [.int 3])]),
      (.text "start", .object [(.text "values", .list [.int 1, .int 2])]),
      (.text "end", .object [(.text "range", .list [.int (-1), .int 1]), (.text "values", .int 5)])])]

theorem rewritten_walks : Rewritten shortWalks longWalks := by
  have hkind : "tags" = GroupKind.tags.member := rfl
  refine .object (.cons ⟨rfl, .inr ⟨_, rfl, .groups hkind rfl rfl ?_⟩⟩ (.cons ⟨rfl, .inr ⟨_, rfl, .columns rfl ?_⟩⟩
    (.cons ⟨rfl, .inr ⟨_, rfl, .numeric rfl ?_⟩⟩ .nil)))
  · exact .cons (.inr (.inl (.literal "/walk"))) (.cons (.inr (.inr (.literal "/dog"))) .nil)
  · exact .cons ⟨rfl, .inr (.inl (.value rfl))⟩ .nil
  · refine .cons ⟨rfl, .inr (.inl (.centre rfl nofun ?_))⟩ (.cons ⟨rfl, .inr (.inl (.centres rfl ?_ ?_))⟩
      (.cons ⟨rfl, .inr (.inl (.pair rfl rfl ?_))⟩ .nil))
    · exact ⟨⟨_, rfl⟩, rfl, rfl⟩
    · simp [Value.isSingle]
    · exact ⟨⟨_, rfl⟩, rfl, rfl⟩
    · exact ⟨⟨_, rfl⟩, rfl, rfl⟩

theorem ofObject_walks : Rewritten shortWalks longWalks ∧
    ∃ c, ofObject shortWalks (.int 0) = .ok c ∧ ofObject longWalks (.int 0) = .ok c := by
  have hshort : (ofObject shortWalks (.int 0)).toOption.isSome = true := by
    decide +kernel
  obtain ⟨c, hc⟩ := Option.isSome_iff_exists.1 hshort
  have hread := toOption_eq_some.1 hc
  exact ⟨rewritten_walks, c, hread, ofObject_rewritten rewritten_walks (.int 0) ▸ hread⟩

end Criteria

end FacetSearch

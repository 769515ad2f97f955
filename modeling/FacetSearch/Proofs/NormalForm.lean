import FacetSearch.Proofs.Answers
import FacetSearch.Proofs.Composites
import FacetSearch.Proofs.Equality
import FacetSearch.Proofs.FiniteNumbers
import FacetSearch.Proofs.FirstMembers
import FacetSearch.Proofs.KeptNames
import FacetSearch.Proofs.Spellings
/-!
# Criteria in normal form

Criteria that are built are in normal form: of the literals of a group and of the values of a column those are kept that
are equal to no earlier one, and each that was given is equal to just one of them. Criteria in normal form are again a way
to write criteria (`Criteria.toParts`), and what is built from that is what was written, whatever the tolerance
(`Criteria.normalForm_of_build`).
-/

namespace FacetSearch

/-! ## Names -/

namespace Text

theorem strip_strip (s : String) : strip (strip s) = strip s := by
  rw [strip, strip, String.toList_ofList, stripChars,
    trim_of_ends (fun _ hc => head?_stripChars hc) fun _ hc => getLast?_stripChars hc]

theorem isBlankText_strip {s : String} (h : isBlankText s = false) : isBlankText (strip s) = false := by
  rw [isBlankText, List.all_eq_false] at h ⊢
  obtain ⟨c, hc, hblank⟩ := h
  rw [Bool.not_eq_true] at hblank
  refine ⟨c, ?_, by simp [hblank]⟩
  rw [strip, String.toList_ofList]
  exact mem_stripChars hc hblank

end Text

/-- The name of a column without white space around it is such a name again. -/
theorem Criteria.columnName_columnName {k : Value} {name : String} (h : columnName k = .ok name) :
    columnName (.text name) = .ok name := by
  unfold columnName at h
  split at h
  · rename_i s
    split at h
    · cases h
    · rename_i hblank
      obtain rfl := Except.ok.inj h
      rw [Bool.not_eq_true] at hblank
      rw [columnName, Text.isBlankText_strip hblank, if_neg Bool.false_ne_true, Text.strip_strip]
  · cases h

/-! ## Keyed lists -/

/-- The last member with a property is the first one from behind. -/
theorem find?_reverse_eq_some_iff {α : Type} {p : α → Bool} {as : List α} {a : α} :
    as.reverse.find? p = some a ↔ p a = true ∧ ∃ front back, as = front ++ a :: back ∧ ∀ b ∈ back, p b = false := by
  rw [List.find?_eq_some_iff_append]
  refine and_congr_right fun _ => ⟨?_, ?_⟩
  · rintro ⟨back, front, has, hback⟩
    refine ⟨front.reverse, back.reverse, ?_, fun b hb => ?_⟩
    · rw [← List.reverse_reverse as, has, List.reverse_append, List.reverse_cons, List.append_assoc, List.singleton_append]
    · simpa using hback b (List.mem_reverse.1 hb)
  · rintro ⟨front, back, rfl, hback⟩
    refine ⟨back.reverse, front.reverse, ?_, fun b hb => ?_⟩
    · rw [List.reverse_append, List.reverse_cons, List.append_assoc, List.singleton_append]
    · simp [hback b (List.mem_reverse.1 hb)]

namespace Keyed

variable {α β : Type} [DecidableEq α]

theorem get?_of_mem {es : List (α × β)} (hnodup : (es.map Prod.fst).Nodup) {p : α × β} (hp : p ∈ es) :
    get? es p.1 = some p.2 := by
  induction es with
  | nil => cases hp
  | cons e es ih =>
    obtain ⟨k, b⟩ := e
    obtain ⟨hnotMem, hnodup⟩ := List.nodup_cons.1 (List.map_cons ▸ hnodup)
    rcases List.mem_cons.1 hp with rfl | hp
    · rw [get?, if_pos rfl]
    · have hmem : p.1 ∈ es.map Prod.fst := List.mem_map_of_mem hp
      have hne : k ≠ p.1 := fun h => hnotMem (Eq.symm h ▸ hmem)
      rw [get?, if_neg hne, ih hnodup hp]

theorem get?_ofList_of_nodup {pairs : List (α × β)} (h : (pairs.map Prod.fst).Nodup) {p : α × β} (hp : p ∈ pairs) :
    get? (ofList pairs) p.1 = some p.2 := by
  rw [ofList_of_nodup h]
  exact get?_of_mem h hp

/-- A pair in a keyed list is the last one that was put under its key. -/
theorem exists_last_of_mem_ofList {pairs : List (α × β)} {p : α × β} (hp : p ∈ ofList pairs) :
    ∃ front back, pairs = front ++ p :: back ∧ ∀ q ∈ back, q.1 ≠ p.1 := by
  have hget := get?_of_mem (nodup_keys_ofList pairs) hp
  rw [get?_ofList] at hget
  obtain ⟨q, hfind, hq⟩ := Option.map_eq_some_iff.1 hget
  obtain ⟨hkey, front, back, hpairs, hback⟩ := find?_reverse_eq_some_iff.1 hfind
  have hqp : q = p := Prod.ext (of_decide_eq_true hkey) hq
  subst hqp
  exact ⟨front, back, hpairs, fun r hr => of_decide_eq_false (hback r hr)⟩

theorem keys_put_of_mem {es : List (α × β)} {key : α} (h : key ∈ es.map Prod.fst) (b : β) :
    (put es key b).map Prod.fst = es.map Prod.fst := by
  induction es with
  | nil => cases h
  | cons e es ih =>
    obtain ⟨k, c⟩ := e
    by_cases hk : k = key
    · rw [put, if_pos hk, List.map_cons, List.map_cons]
    · rw [List.map_cons, List.mem_cons] at h
      rw [put, if_neg hk, List.map_cons, List.map_cons, ih (h.resolve_left (Ne.symm hk))]

/-- The keys stand in the order in which they were first put. -/
theorem keys_ofList (pairs : List (α × β)) : (ofList pairs).map Prod.fst = newMembers (· == ·) (pairs.map Prod.fst) := by
  induction pairs using List.reverseRecOn with
  | nil => rfl
  | append_singleton pairs p ih =>
    rw [List.map_append, List.map_singleton, newMembers_concat, ← ih, ofList_concat]
    by_cases hkey : p.1 ∈ (ofList pairs).map Prod.fst
    · have hany : (pairs.map Prod.fst).any (· == p.1) = true :=
        List.any_eq_true.2 ⟨p.1, (mem_keys_ofList pairs p.1).1 hkey, beq_self_eq_true _⟩
      rw [hany, if_pos rfl, List.append_nil, keys_put_of_mem hkey]
    · have hany : (pairs.map Prod.fst).any (· == p.1) = false := by
        rw [List.any_eq_false]
        intro k hk heq
        exact hkey ((mem_keys_ofList pairs p.1).2 (beq_iff_eq.1 heq ▸ hk))
      rw [hany, if_neg Bool.false_ne_true, put_of_notMem hkey, List.map_append, List.map_singleton]

end Keyed

/-! ## Alternatives -/

namespace Value

/-- What a group or the values of a column are as they are written: the members, or the value by itself. -/
def alternatives (v : Value) : List Value := v.members?.getD [v]

theorem DistinctKeys.of_atom? {v : Value} {a : Atom} (h : v.atom? = some a) : v.DistinctKeys := by
  refine .intro (fun es hes => ?_) fun w hw => ?_
  · subst hes
    cases h
  · cases v with
    | list | tuple | object | filter => cases h
    | _ => cases hw

theorem DistinctKeys.list {xs : List Value} (h : ∀ x ∈ xs, x.DistinctKeys) : (Value.list xs).DistinctKeys :=
  .intro (fun _ hes => nomatch hes) h

theorem mem_inside_of_mem_filters {v : Value} {e : Value × Value} (h : e ∈ v.filters) : e.2 ∈ v.inside := by
  cases v with
  | object es => exact List.mem_append_right _ (List.mem_map_of_mem h)
  | _ => cases h

theorem DistinctKeys.of_mem_alternatives {v w : Value} (h : v.DistinctKeys) (hw : w ∈ v.alternatives) :
    w.DistinctKeys := by
  cases v with
  | list xs => exact h.part hw
  | tuple xs => exact h.part hw
  | _ =>
    obtain rfl := List.mem_singleton.1 hw
    exact h

/-- Of equal values the first is kept. -/
theorem keepsFirst_firsts {vs : List Value} (h : ∀ v ∈ vs, v.DistinctKeys) : KeepsFirst same vs (firsts vs) :=
  keepsFirst_firstsBy same_refl same_trans fun v hv _ => (h v hv).same_symm

theorem firsts_texts (ss : List String) : firsts (ss.map .text) = (firstsBy (· == ·) ss).map .text :=
  firstsBy_map (fun _ _ => rfl) ss

end Value

namespace Criteria

theorem columnValues_eq (v : Value) : columnValues v = Value.firsts v.alternatives := by
  unfold columnValues Value.alternatives
  cases v.members? <;> rfl

/-- A group is what is left of the texts that it is written with. -/
theorem readGroup_eq_ok {kind : GroupKind} {v : Value} {g : Group} (h : readGroup kind v = .ok g) :
    ∃ ss : List String, v.alternatives = ss.map .text ∧ g = firstsBy (· == ·) ss := by
  unfold readGroup at h
  split at h
  · rename_i s
    exact ⟨[s], rfl, (Except.ok.inj h).symm⟩
  · split at h
    · cases h
    · rename_i members hm
      obtain ⟨ss, hss, h⟩ := bind_eq_ok.1 h
      refine ⟨ss, ?_, (pure_eq_ok.1 h).symm⟩
      rw [Value.alternatives, hm, Option.getD_some, ← List.forall₂_eq_eq_eq, List.forall₂_map_right_iff]
      refine (mapM_eq_ok.1 hss).imp fun v s hs => ?_
      unfold literal at hs
      split at hs
      · rw [Except.ok.inj hs]
      · cases hs

theorem readGroups_eq_ok {kind : GroupKind} {v : Value} {gs : List Group} (h : readGroups kind v = .ok gs) :
    List.Forall₂ (fun v g => readGroup kind v = .ok g) v.groups gs := by
  unfold readGroups at h
  split at h
  · rename_i hnull
    cases h
    cases v <;> first | exact .nil | cases hnull
  · split at h
    · cases h
    · rename_i members hm
      rw [Value.groups, hm, Option.getD_some]
      exact mapM_eq_ok.1 h

theorem keepsFirst_of_readGroup {kind : GroupKind} {v : Value} {g : Group} (h : readGroup kind v = .ok g) :
    KeepsFirst Value.same v.alternatives (g.map .text) := by
  obtain ⟨ss, hv, rfl⟩ := readGroup_eq_ok h
  rw [hv, ← Value.firsts_texts]
  refine Value.keepsFirst_firsts fun v hv => ?_
  obtain ⟨s, -, rfl⟩ := List.mem_map.1 hv
  exact .of_atom? rfl

/-! ## The normal form -/

/-- Groups as a value. -/
def groupsValue (gs : List Group) : Value := .tuple (gs.map fun g => .tuple (g.map .text))

/-- The parts of criteria in normal form, to be built from once more. -/
def toParts (c : Criteria) (tolerance : Value) : Parts where
  tags := groupsValue c.tagGroups
  attributes := groupsValue c.attributeGroups
  columns := .object (c.columnFilters.map fun f => (.text f.1, .tuple f.2))
  numeric := .object (c.numericFilters.map fun f => (.text f.1, f.2.toValue))
  matchMode := (c.matchMode.map .mode).getD .null
  regex := .bool c.regexEnabled
  limit := (c.limit.map .int).getD .null
  tolerance := tolerance

/-- Criteria are the normal form of parts: of equal literals in a group the first is kept, and of equal values in the last
member for a column; building them once more leaves them as they are. -/
structure NormalForm (p : Parts) (c : Criteria) : Prop where
  tags : List.Forall₂ (fun given kept => KeepsFirst Value.same given.alternatives (kept.map .text)) p.tags.groups c.tagGroups
  attributes : List.Forall₂ (fun given kept => KeepsFirst Value.same given.alternatives (kept.map .text)) p.attributes.groups
    c.attributeGroups
  columns : KeepsFirst (· == ·) p.columns.columnNames (c.columnFilters.map Prod.fst)
  values : ∀ f ∈ c.columnFilters, ∃ front last back, p.columns.filters = front ++ last :: back ∧
    Text.strip last.1.plain = f.1 ∧ (∀ e ∈ back, Text.strip e.1.plain ≠ f.1) ∧
    KeepsFirst Value.same last.2.alternatives f.2
  again : ∀ tolerance, build (c.toParts tolerance) = .ok c

/-- Groups are read as they are if nothing in them is repeated. -/
theorem readGroups_groupsValue (kind : GroupKind) {v : Value} {gs : List Group} (h : readGroups kind v = .ok gs) :
    readGroups kind (groupsValue gs) = .ok gs := by
  have hliterals : ∀ g : Group, (g.map Value.text).mapM (literal kind) = .ok g := fun g => mapM_map_eq_ok fun _ _ => rfl
  have hgroup : ∀ g ∈ gs, readGroup kind (.tuple (g.map .text)) = .ok g := by
    intro g hg
    obtain ⟨v, -, hv⟩ := exists_of_mem_right (readGroups_eq_ok h) hg
    obtain ⟨ss, -, rfl⟩ := readGroup_eq_ok hv
    simp only [readGroup, Value.members?]
    rw [hliterals]
    exact congrArg Except.ok (firstsBy_firstsBy _ ss)
  exact mapM_map_eq_ok hgroup

theorem exists_columnName_of_readColumns {v : Value} {fs : List (String × List Value)} (h : readColumns v = .ok fs)
    {f : String × List Value} (hf : f ∈ fs) :
    ∃ e ∈ v.filters, columnName e.1 = .ok f.1 ∧ f.2 = columnValues e.2 := by
  obtain ⟨pairs, hp, rfl⟩ := members_of_readColumns h
  exact exists_of_mem_right hp (Keyed.mem_of_mem_ofList hf)

theorem readColumns_again {v : Value} {fs : List (String × List Value)} (h : readColumns v = .ok fs) :
    readColumns (.object (fs.map fun f => (.text f.1, .tuple f.2))) = .ok fs := by
  have hnodup : (fs.map Prod.fst).Nodup := by
    rw [readColumns_eq_ok h]
    exact Keyed.nodup_keys_ofList _
  have hread : ∀ f ∈ fs, (do return (← columnName (.text f.1), columnValues (.tuple f.2)) : Except Error _) = .ok f := by
    intro f hf
    obtain ⟨e, -, hname, hvalues⟩ := exists_columnName_of_readColumns h hf
    have hkept : columnValues (.tuple f.2) = f.2 := by
      rw [hvalues, columnValues_eq e.2]
      exact firstsBy_firstsBy Value.same e.2.alternatives
    rw [columnName_columnName hname, hkept]
    rfl
  simp only [readColumns, Value.isNull, Value.entries?, Bool.false_eq_true, if_false]
  rw [mapM_map_eq_ok hread]
  exact congrArg Except.ok (Keyed.ofList_of_nodup hnodup)

theorem readNumeric_again {tolerance v : Value} {fs : List (String × NumericFilter)} (h : readNumeric tolerance v = .ok fs)
    (tolerance' : Value) : readNumeric tolerance' (.object (fs.map fun f => (.text f.1, f.2.toValue))) = .ok fs := by
  obtain ⟨pairs, hp, hfs⟩ := members_of_readNumeric h
  have hnodup : (fs.map Prod.fst).Nodup := by
    rw [hfs]
    exact Keyed.nodup_keys_ofList _
  have hread : ∀ f ∈ fs, (do
      let name ← columnName (.text f.1)
      return (name, ← numericFilter tolerance' (Value.text f.1).plain f.2.toValue) : Except Error _) = .ok f := by
    intro f hf
    obtain ⟨e, -, hname, -⟩ := exists_of_mem_right hp (Keyed.mem_of_mem_ofList (hfs ▸ hf))
    rw [columnName_columnName hname]
    rfl
  simp only [readNumeric, Value.isNull, Value.entries?, Bool.false_eq_true, if_false]
  rw [mapM_map_eq_ok hread]
  exact congrArg Except.ok (Keyed.ofList_of_nodup hnodup)

/-- Criteria that were built are built from their own parts again. -/
theorem build_toParts {p : Parts} {c : Criteria} (h : build p = .ok c) (tolerance : Value) :
    build (c.toParts tolerance) = .ok c := by
  obtain ⟨htags, hattributes, hcolumns, hnumeric⟩ := build_eq_ok h
  have hmode : parseMode (c.toParts tolerance).matchMode = .ok c.matchMode := by
    simp only [toParts]
    cases c.matchMode <;> rfl
  have hlimit : parseLimit (c.toParts tolerance).limit = .ok c.limit := by
    have hpos := limit_pos_of_build h
    simp only [toParts]
    cases hc : c.limit with
    | none => rfl
    | some n => exact if_pos (hpos n hc)
  rw [build]
  simp only [hmode, hlimit]
  simp only [toParts, regexFlag]
  rw [readGroups_groupsValue .tags htags, readGroups_groupsValue .attributes hattributes, readColumns_again hcolumns,
    readNumeric_again hnumeric tolerance]
  rfl

/-- What is built is in normal form. -/
theorem normalForm_of_build {p : Parts} {c : Criteria} (h : build p = .ok c) (hkeys : p.columns.DistinctKeys) :
    NormalForm p c := by
  obtain ⟨htags, hattributes, hcolumns, -⟩ := build_eq_ok h
  have hnames : p.columns.columnNames =
      (p.columns.filters.map fun e => (Text.strip e.1.plain, columnValues e.2)).map Prod.fst := by
    rw [List.map_map]
    rfl
  refine ⟨(readGroups_eq_ok htags).imp fun _ _ => keepsFirst_of_readGroup,
    (readGroups_eq_ok hattributes).imp fun _ _ => keepsFirst_of_readGroup, ?_, fun f hf => ?_, build_toParts h⟩
  · have htrans : ∀ {a b c : String}, (a == b) = true → (b == c) = true → (a == c) = true := by
      simp only [beq_iff_eq]
      exact Eq.trans
    rw [readColumns_eq_ok hcolumns, Keyed.keys_ofList, ← hnames, ← firstsBy_eq_newMembers beq_self_eq_true htrans]
    exact keepsFirst_firstsBy beq_self_eq_true htrans fun a _ b h => beq_iff_eq.2 (beq_iff_eq.1 h).symm
  · rw [readColumns_eq_ok hcolumns] at hf
    obtain ⟨front, back, hfilters, hback⟩ := Keyed.exists_last_of_mem_ofList hf
    obtain ⟨front', rest, hsplit, rfl, hrest⟩ := List.map_eq_append_iff.1 hfilters
    obtain ⟨last, back', rfl, rfl, rfl⟩ := List.map_eq_cons_iff.1 hrest
    refine ⟨front', last, back', hsplit, rfl, fun e he => hback _ (List.mem_map_of_mem he), ?_⟩
    have hlast : last ∈ p.columns.filters := hsplit ▸ List.mem_append_right _ List.mem_cons_self
    rw [columnValues_eq]
    exact Value.keepsFirst_firsts fun v hv =>
      (hkeys.part (Value.mem_inside_of_mem_filters hlast)).of_mem_alternatives hv

/-- A column is named twice, the second time with values of several kinds. -/
def Parts.mixed : Parts where
  tags := .list [.text "news", .list [.text "sport", .text "news", .text "sport"]]
  columns := .object [(.text "size", .int 3),
    (.text " size ", .list [.bool true, .text "1", .int 1, .list [.int 0], .list [.bool false]])]
  limit := .text "10"

theorem normalForm_mixed : Parts.mixed.columns.DistinctKeys ∧
    NormalForm .mixed
      { tagGroups := [["news"], ["sport", "news"]], attributeGroups := [],
        columnFilters := [("size", [.bool true, .text "1", .list [.int 0]])], numericFilters := [], matchMode := none,
        regexEnabled := false, limit := some 10 } := by
  have hsingle (n : Value) (hn : n.DistinctKeys) : (Value.list [n]).DistinctKeys :=
    .list fun w hw => List.mem_singleton.1 hw ▸ hn
  have hkeys : Parts.mixed.columns.DistinctKeys := by
    refine .intro (fun es hes => ?_) ?_
    · cases hes
      decide
    · simp only [Parts.mixed, Value.inside, List.map_cons, List.map_nil, List.cons_append, List.nil_append,
        List.forall_mem_cons]
      refine ⟨.of_atom? rfl, .of_atom? rfl, .of_atom? rfl, .list ?_, by simp⟩
      simp only [List.forall_mem_cons]
      exact ⟨.of_atom? rfl, .of_atom? rfl, .of_atom? rfl, hsingle _ (.of_atom? rfl), hsingle _ (.of_atom? rfl), by simp⟩
  exact ⟨hkeys, normalForm_of_build (by rfl) hkeys⟩

end Criteria

end FacetSearch

import FacetSearch.Criteria.Build
import FacetSearch.Proofs.Statements
import Mathlib.Data.Finset.Card
/-!
# What becomes of the members of criteria

Each group that is written makes a selection of its own. Columns are filtered by name, without the white space around
it, and of members that name the same column the last one is left (`Criteria.get?_of_readColumns`): there are as many
selections as groups and different names (`selections_of_ofObject`). So a member is lost exactly if two names differ by
white space only.
-/

namespace FacetSearch

/-! ## Keyed lists -/

namespace Keyed

variable {α β : Type} [DecidableEq α]

theorem mem_keys_put (es : List (α × β)) (key : α) (b : β) (a : α) :
    a ∈ (put es key b).map Prod.fst ↔ a ∈ es.map Prod.fst ∨ a = key := by
  induction es with
  | nil => simp [put]
  | cons e es ih =>
    obtain ⟨k, c⟩ := e
    by_cases hk : k = key
    · subst hk
      simp only [put, if_true, List.map_cons, List.mem_cons]
      tauto
    · simp only [put, if_neg hk, List.map_cons, List.mem_cons, ih, or_assoc]

theorem nodup_keys_put {es : List (α × β)} (h : (es.map Prod.fst).Nodup) (key : α) (b : β) :
    ((put es key b).map Prod.fst).Nodup := by
  induction es with
  | nil => simp [put]
  | cons e es ih =>
    obtain ⟨k, c⟩ := e
    by_cases hk : k = key
    · rw [put, if_pos hk]
      exact h
    · obtain ⟨hmem, hes⟩ := List.nodup_cons.1 h
      simp only [put, if_neg hk, List.map_cons, List.nodup_cons, mem_keys_put, not_or]
      exact ⟨⟨hmem, hk⟩, ih hes⟩

/-- What is put last into a keyed list is put into it after everything else. -/
theorem ofList_concat (pairs : List (α × β)) (p : α × β) : ofList (pairs ++ [p]) = put (ofList pairs) p.1 p.2 := by
  rw [ofList, List.foldl_append]
  rfl

theorem nodup_keys_ofList (pairs : List (α × β)) : ((ofList pairs).map Prod.fst).Nodup := by
  induction pairs using List.reverseRecOn with
  | nil => exact List.nodup_nil
  | append_singleton pairs p ih =>
    rw [ofList_concat]
    exact nodup_keys_put ih p.1 p.2

theorem mem_keys_ofList (pairs : List (α × β)) (a : α) : a ∈ (ofList pairs).map Prod.fst ↔ a ∈ pairs.map Prod.fst := by
  induction pairs using List.reverseRecOn with
  | nil => rfl
  | append_singleton pairs p ih =>
    rw [ofList_concat, mem_keys_put, ih, List.map_append, List.mem_append, List.map_singleton, List.mem_singleton]

/-- A keyed list has one pair for each key. -/
theorem length_ofList (pairs : List (α × β)) : (ofList pairs).length = (pairs.map Prod.fst).toFinset.card := by
  rw [← List.length_map Prod.fst, ← List.toFinset_card_of_nodup (nodup_keys_ofList pairs)]
  congr 1
  ext a
  rw [List.mem_toFinset, List.mem_toFinset, mem_keys_ofList]

/-- Of the pairs with one key the last is found. -/
theorem get?_ofList (pairs : List (α × β)) (key : α) :
    get? (ofList pairs) key = (pairs.reverse.find? fun p => p.1 = key).map Prod.snd := by
  induction pairs using List.reverseRecOn with
  | nil => rfl
  | append_singleton pairs p ih =>
    rw [ofList_concat, List.reverse_append, List.reverse_singleton, List.singleton_append]
    by_cases h : p.1 = key
    · subst h
      rw [get?_put_self, List.find?_cons_of_pos (by simp), Option.map_some]
    · rw [get?_put_of_ne _ _ h, List.find?_cons_of_neg (by simpa using h), ih]

end Keyed

/-! ## Entries of objects -/

namespace Value

theorem same_text_iff {k : Value} {name : String} : k.same (.text name) = true ↔ k = .text name := by
  cases k <;> simp [same, sameScalar, sameDecimal, decimal?, number?]

theorem find?_map_put (es : List (Value × Value)) (name other : String) (v : Value) :
    (es.map fun e => if same e.1 (.text other) then (e.1, v) else e).find? (fun e => same e.1 (.text name)) =
      (es.find? fun e => same e.1 (.text name)).map fun e => if same e.1 (.text other) then (e.1, v) else e := by
  rw [List.find?_map]
  congr 2
  funext e
  simp only [Function.comp_apply]
  split <;> rfl

/-- What is put last under a name is found under it. -/
theorem get?_put_self (es : List (Value × Value)) (name : String) (v : Value) :
    (Value.object (put es (.text name) v)).get? name = some v := by
  simp only [get?, put]
  cases hfound : es.find? fun e => same e.1 (.text name) with
  | some e =>
    have hkey : same e.1 (.text name) = true := by simpa using List.find?_some hfound
    have hany : (es.any fun e => same e.1 (.text name)) = true :=
      List.any_eq_true.2 ⟨e, List.mem_of_find?_eq_some hfound, hkey⟩
    rw [if_pos hany, find?_map_put, hfound]
    simp [hkey]
  | none =>
    have hany : ¬ (es.any fun e => same e.1 (.text name)) = true := by simpa using hfound
    have hself : same (.text name) (.text name) = true := same_text_iff.2 rfl
    rw [if_neg hany, List.find?_append, hfound]
    simp [hself]

/-- What is put under another name changes nothing that is found. -/
theorem get?_put_of_ne (es : List (Value × Value)) {name other : String} (h : name ≠ other) (v : Value) :
    (Value.object (put es (.text other) v)).get? name = (Value.object es).get? name := by
  have hother : ∀ k, same k (.text name) = true → same k (.text other) = false := by
    intro k hk
    rw [same_text_iff.1 hk, Bool.eq_false_iff, ne_eq, same_text_iff, Value.text.injEq]
    exact h
  simp only [get?, put]
  split
  · rw [find?_map_put, Option.map_map]
    cases hfound : es.find? fun e => same e.1 (.text name) with
    | none => rfl
    | some e =>
      have hkey : same e.1 (.text name) = true := by simpa using List.find?_some hfound
      simp [hother e.1 hkey]
  · have hname : same (.text other) (.text name) = false := by
      rw [Bool.eq_false_iff]
      intro hsame
      exact h (Value.text.inj (same_text_iff.1 hsame)).symm
    simp [List.find?_append, hname]

end Value

/-! ## Parts of criteria -/

namespace Value

/-- A part of criteria as it is written; a part that is missing is nothing. -/
def part (v : Value) (name : String) : Value := (v.get? name).getD .null

/-- The groups that a part of criteria has. -/
def groups (v : Value) : List Value := v.members?.getD []

/-- The members that a part of criteria has. -/
def filters (v : Value) : List (Value × Value) := v.entries?.getD []

/-- The columns that the members name. -/
def columnNames (v : Value) : List String := v.filters.map fun e => Text.strip e.1.plain

/-- How many filters criteria consist of as they are written. -/
def filterCount (v : Value) : Nat :=
  (v.part "tags").groups.length + (v.part "attributes").groups.length + (v.part "columns").filters.length +
    (v.part "numeric").filters.length

end Value

namespace Criteria

/-- Criteria from an object are built from its parts. -/
theorem build_of_ofObject {v tolerance : Value} {c : Criteria} (h : ofObject v tolerance = .ok c) :
    build { tags := v.part "tags", attributes := v.part "attributes", columns := v.part "columns",
            numeric := v.part "numeric", matchMode := v.part "match", regex := (v.get? "regex").getD (.bool false),
            limit := v.part "limit", tolerance } = .ok c := by
  unfold ofObject at h
  cases v with
  | null =>
    have hnone : unknownKeys memberNames [] = [] := by simp [unknownKeys]
    simp only [Value.isNull, if_true, Value.entries?, hnone] at h
    exact h
  | object es =>
    simp only [Value.isNull, Value.entries?, Bool.false_eq_true, if_false] at h
    split at h
    · cases h
    · exact h
  | _ => cases h

/-- An object whose keys are all known is built from its parts. -/
theorem ofObject_eq_build {es : List (Value × Value)} (tolerance : Value)
    (h : ((es.map Prod.fst).filter fun k => !memberNames.any fun n => k.same (.text n)) = []) :
    ofObject (.object es) tolerance = build
      { tags := (Value.object es).part "tags", attributes := (Value.object es).part "attributes",
        columns := (Value.object es).part "columns", numeric := (Value.object es).part "numeric",
        matchMode := (Value.object es).part "match", regex := ((Value.object es).get? "regex").getD (.bool false),
        limit := (Value.object es).part "limit", tolerance } := by
  have hnone : unknownKeys memberNames es = [] := by
    simp only [unknownKeys, h, List.map_nil, List.mergeSort_nil]
  simp only [ofObject, Value.isNull, Value.entries?, Bool.false_eq_true, if_false, hnone, List.isEmpty_nil, Bool.not_true]
  rfl

theorem build_eq_ok {p : Parts} {c : Criteria} (h : build p = .ok c) :
    readGroups .tags p.tags = .ok c.tagGroups ∧ readGroups .attributes p.attributes = .ok c.attributeGroups ∧
      readColumns p.columns = .ok c.columnFilters ∧ readNumeric p.tolerance p.numeric = .ok c.numericFilters := by
  simp only [build, bind_eq_ok, pure_eq_ok] at h
  obtain ⟨tags, ht, attributes, ha, columns, hc, numeric, hn, mode, -, regex, -, limit, -, rfl⟩ := h
  exact ⟨ht, ha, hc, hn⟩

theorem length_of_readGroups {kind : GroupKind} {v : Value} {gs : List Group} (h : readGroups kind v = .ok gs) :
    gs.length = v.groups.length := by
  unfold readGroups at h
  split at h
  · rename_i hnull
    cases h
    cases v <;> first | rfl | cases hnull
  · split at h
    · cases h
    · rename_i members hm
      rw [Value.groups, hm, Option.getD_some]
      exact (mapM_eq_ok.1 h).length_eq.symm

theorem columnName_eq_ok {k : Value} {name : String} (h : columnName k = .ok name) : name = Text.strip k.plain := by
  unfold columnName at h
  split at h
  · split at h
    · cases h
    · exact (Except.ok.inj h).symm
  · cases h

/-- Whatever is read of the members, it stands under the names of their columns. -/
theorem keys_of_forall₂ {β : Type} {es : List (Value × Value)} {fs : List (String × β)}
    (h : List.Forall₂ (fun e f => columnName e.1 = .ok f.1) es fs) :
    fs.map Prod.fst = es.map fun e => Text.strip e.1.plain := by
  induction h with
  | nil => rfl
  | cons hname _ ih => rw [List.map_cons, List.map_cons, ih, columnName_eq_ok hname]

/-- A part whose members are read one by one is the keyed list of what they are read as. -/
theorem entries_eq_ok {β : Type} {read : Value × Value → Except Error (String × β)} {shape : ConfigurationFault}
    {v : Value} {fs : List (String × β)}
    (h : (if v.isNull then .ok [] else match v.entries? with
      | none => fault shape
      | some entries => do return Keyed.ofList (← entries.mapM read)) = Except.ok fs) :
    ∃ pairs, List.Forall₂ (fun e p => read e = .ok p) v.filters pairs ∧ fs = Keyed.ofList pairs := by
  split at h
  · rename_i hnull
    cases h
    cases v <;> first | exact ⟨[], .nil, rfl⟩ | cases hnull
  · split at h
    · cases h
    · rename_i entries he
      obtain ⟨pairs, hp, h⟩ := bind_eq_ok.1 h
      refine ⟨pairs, ?_, (pure_eq_ok.1 h).symm⟩
      rw [Value.filters, he]
      exact mapM_eq_ok.1 hp

theorem members_of_readColumns {v : Value} {fs : List (String × List Value)} (h : readColumns v = .ok fs) :
    ∃ pairs, List.Forall₂ (fun e p => columnName e.1 = .ok p.1 ∧ p.2 = columnValues e.2) v.filters pairs ∧
      fs = Keyed.ofList pairs := by
  obtain ⟨pairs, hp, rfl⟩ := entries_eq_ok h
  refine ⟨pairs, hp.imp fun e p he => ?_, rfl⟩
  obtain ⟨name, hname, he⟩ := bind_eq_ok.1 he
  obtain rfl := pure_eq_ok.1 he
  exact ⟨hname, rfl⟩

theorem members_of_readNumeric {tolerance v : Value} {fs : List (String × NumericFilter)}
    (h : readNumeric tolerance v = .ok fs) :
    ∃ pairs, List.Forall₂ (fun e p => columnName e.1 = .ok p.1 ∧ numericFilter tolerance e.1.plain e.2 = .ok p.2)
      v.filters pairs ∧ fs = Keyed.ofList pairs := by
  obtain ⟨pairs, hp, rfl⟩ := entries_eq_ok h
  refine ⟨pairs, hp.imp fun e p he => ?_, rfl⟩
  obtain ⟨name, hname, he⟩ := bind_eq_ok.1 he
  obtain ⟨f, hf, he⟩ := bind_eq_ok.1 he
  obtain rfl := pure_eq_ok.1 he
  exact ⟨hname, hf⟩

theorem readColumns_eq_ok {v : Value} {fs : List (String × List Value)} (h : readColumns v = .ok fs) :
    fs = Keyed.ofList (v.filters.map fun e => (Text.strip e.1.plain, columnValues e.2)) := by
  obtain ⟨pairs, hp, rfl⟩ := members_of_readColumns h
  congr 1
  rw [← List.forall₂_eq_eq_eq, List.forall₂_map_right_iff]
  exact hp.flip.imp fun p e he => Prod.ext (columnName_eq_ok he.1) he.2

/-- A column has the values of the last member that names it. -/
theorem get?_of_readColumns {v : Value} {fs : List (String × List Value)} (h : readColumns v = .ok fs) (name : String) :
    Keyed.get? fs name = (v.filters.reverse.find? fun e => Text.strip e.1.plain = name).map fun e => columnValues e.2 := by
  rw [readColumns_eq_ok h, Keyed.get?_ofList, ← List.map_reverse, List.find?_map, Option.map_map]
  rfl

/-- There is one column filter for each name. -/
theorem length_of_readColumns {v : Value} {fs : List (String × List Value)} (h : readColumns v = .ok fs) :
    fs.length = v.columnNames.toFinset.card := by
  rw [readColumns_eq_ok h, Keyed.length_ofList, List.map_map]
  rfl

/-- There is one numeric filter for each name. -/
theorem length_of_readNumeric {tolerance v : Value} {fs : List (String × NumericFilter)}
    (h : readNumeric tolerance v = .ok fs) : fs.length = v.columnNames.toFinset.card := by
  obtain ⟨pairs, hp, rfl⟩ := members_of_readNumeric h
  rw [Keyed.length_ofList, Value.columnNames, keys_of_forall₂ (hp.imp fun e p he => he.1)]

end Criteria

/-! ## Selections -/

theorem map_eq_replicate {α β γ : Type} {R : α → β → Prop} {f : β → γ} {c : γ} {as : List α} {bs : List β}
    (h : List.Forall₂ R as bs) (hf : ∀ a b, R a b → f b = c) : bs.map f = List.replicate as.length c := by
  induction h with
  | nil => rfl
  | cons hab _ ih => rw [List.map_cons, ih, hf _ _ hab, List.length_cons, List.replicate_succ]

/-- The names are all different exactly if there are as many of them as members. -/
theorem card_eq_filters {v : Value} : v.columnNames.toFinset.card = v.filters.length ↔ v.columnNames.Nodup := by
  have hlen : v.columnNames.length = v.filters.length := List.length_map _
  rw [← hlen]
  exact Multiset.toFinset_card_eq_card_iff_nodup

theorem card_le_filters (v : Value) : v.columnNames.toFinset.card ≤ v.filters.length := by
  have hlen : v.columnNames.length = v.filters.length := List.length_map _
  rw [← hlen]
  exact v.columnNames.toFinset_card_le

theorem card_pos_iff (v : Value) : 0 < v.columnNames.toFinset.card ↔ 0 < v.filters.length := by
  rw [Finset.card_pos, List.toFinset_nonempty_iff, List.length_pos_iff, Value.columnNames, ne_eq, List.map_eq_nil_iff]

namespace Search

open Fragment

/-- The statement has a clause that restricts its rows exactly if there are sets of identifiers. -/
theorem restricted_iff (table key : String) (sets : List Fragment) (limit : Option Value) :
    (∃ rest, (fragment table key sets limit).text = "SELECT * FROM " ++ table ++ (" WHERE " ++ key ++ " IN (" ++ rest)) ↔
      sets ≠ [] := by
  cases sets with
  | nil =>
    simp only [ne_eq, not_true, iff_false, not_exists]
    intro rest h
    have hlimit : (limitClause limit).text = " WHERE " ++ key ++ " IN (" ++ rest := by
      refine String.append_right_inj ("SELECT * FROM " ++ table) |>.1 ?_
      simpa [fragment, restriction, empty] using h
    -- there is no clause at all, or one that starts otherwise
    have hchars := congrArg String.toList hlimit
    cases limit with
    | none => simp [limitClause, empty] at hchars
    | some n => simp [limitClause] at hchars
  | cons s sets =>
    simp only [ne_eq, reduceCtorEq, not_false_eq_true, iff_true]
    refine ⟨(joined " INTERSECT " (s :: sets)).text ++ ")" ++ (limitClause limit).text, ?_⟩
    simp [fragment, restriction, String.append_assoc]

end Search

/-- Each group makes a selection, and so does each column that is filtered, in the order of the criteria. -/
theorem Selection.sources_of_ofCriteria {catalog : Catalog} {v : Value} {c : Criteria} {ss : List Selection}
    (h : ofCriteria catalog v c = .ok ss) :
    ∃ name key tags attributes columns numeric, Name.tableAndKey catalog v = .ok (name, key) ∧
      ss = tags ++ attributes ++ columns ++ numeric ∧
      tags.map source = List.replicate c.tagGroups.length (.group .tags) ∧
      attributes.map source = List.replicate c.attributeGroups.length (.group .attributes) ∧
      columns.map source = List.replicate c.columnFilters.length (.rows name key) ∧
      numeric.map source = List.replicate c.numericFilters.length (.rows name key) := by
  obtain ⟨name, key, tags, attributes, columns, numeric, hk, rfl, ht, ha, hc, hn⟩ := ofCriteria_eq_ok h
  refine ⟨name, key, tags, attributes, columns, numeric, hk, rfl, map_eq_replicate ht ?_, map_eq_replicate ha ?_,
    map_eq_replicate hc ?_, map_eq_replicate hn ?_⟩
  · intro g s hg
    obtain ⟨-, d, -, rfl⟩ := ofGroup_eq_ok hg
    rfl
  · intro g s hg
    obtain ⟨-, d, -, rfl⟩ := ofGroup_eq_ok hg
    rfl
  · intro e s he
    obtain ⟨_, _, _, _, -, -, -, -, -, rfl⟩ := ofColumn_eq_ok he
    rfl
  · intro e s he
    obtain ⟨_, _, _, _, _, -, -, -, -, -, -, -, rfl⟩ := ofNumeric_eq_ok he
    rfl

theorem length_of_map_eq_replicate {α β : Type} {f : α → β} {as : List α} {n : Nat} {b : β}
    (h : as.map f = List.replicate n b) : as.length = n := by
  simpa using congrArg List.length h

/-- Criteria make a selection for each group and for each different name of a column, in the order tags, attributes,
columns and numeric filters. No member is lost exactly if no two of them name the same column, white space around names
left out. The search is restricted as soon as there is one member at all. -/
theorem selections_of_ofObject {v tolerance : Value} {c : Criteria} (hc : Criteria.ofObject v tolerance = .ok c)
    {catalog : Catalog} {table : Value} {ss : List Selection} (hs : Selection.ofCriteria catalog table c = .ok ss) :
    ∃ name key tags attributes columns numeric, Name.tableAndKey catalog table = .ok (name, key) ∧
      ss = tags ++ attributes ++ columns ++ numeric ∧
      tags.map Selection.source = List.replicate (v.part "tags").groups.length (.group .tags) ∧
      attributes.map Selection.source = List.replicate (v.part "attributes").groups.length (.group .attributes) ∧
      columns.map Selection.source = List.replicate (v.part "columns").columnNames.toFinset.card (.rows name key) ∧
      numeric.map Selection.source = List.replicate (v.part "numeric").columnNames.toFinset.card (.rows name key) ∧
      (ss.length = v.filterCount ↔ (v.part "columns").columnNames.Nodup ∧ (v.part "numeric").columnNames.Nodup) ∧
      ∃ f, Search.compile catalog table c = .ok f ∧
        ((∃ rest, f.text = "SELECT * FROM " ++ name ++ (" WHERE " ++ key ++ " IN (" ++ rest)) ↔ 0 < v.filterCount) := by
  obtain ⟨htags, hattributes, hcolumns, hnumeric⟩ := Criteria.build_eq_ok (Criteria.build_of_ofObject hc)
  obtain ⟨name, key, tags, attributes, columns, numeric, hk, rfl, hst, hsa, hsc, hsn⟩ :=
    Selection.sources_of_ofCriteria hs
  rw [Criteria.length_of_readGroups htags] at hst
  rw [Criteria.length_of_readGroups hattributes] at hsa
  rw [Criteria.length_of_readColumns hcolumns] at hsc
  rw [Criteria.length_of_readNumeric hnumeric] at hsn
  have hlen : (tags ++ attributes ++ columns ++ numeric).length = (v.part "tags").groups.length +
      (v.part "attributes").groups.length + (v.part "columns").columnNames.toFinset.card +
      (v.part "numeric").columnNames.toFinset.card := by
    simp only [List.length_append, length_of_map_eq_replicate hst, length_of_map_eq_replicate hsa,
      length_of_map_eq_replicate hsc, length_of_map_eq_replicate hsn]
  refine ⟨name, key, tags, attributes, columns, numeric, hk, rfl, hst, hsa, hsc, hsn, ?_, _,
    Search.compile_of_ofCriteria hk hs, ?_⟩
  · -- no count exceeds that of the members, so the sums agree only if both counts do
    have hc := card_le_filters (v.part "columns")
    have hn := card_le_filters (v.part "numeric")
    rw [hlen, Value.filterCount, ← card_eq_filters, ← card_eq_filters]
    omega
  · have hc := card_pos_iff (v.part "columns")
    have hn := card_pos_iff (v.part "numeric")
    rw [Search.restricted_iff, ne_eq, List.map_eq_nil_iff, ← ne_eq, ← List.length_pos_iff, hlen, Value.filterCount]
    omega

/-! ### One member, and two for one column -/

/-- Criteria for a name as they are written. -/
def Value.byName : Value :=
  .object [(.text "columns", .object [(.text " Name ", .text "O'Hara; --")]), (.text "limit", .int 5)]

theorem ofObject_byName : Criteria.ofObject .byName .null = .ok .byName := Criteria.ofObject_eq_build .null rfl

theorem selections_byName : ∃ ss, Selection.ofCriteria .people (.text " People ") .byName = .ok ss ∧
    ss.length = Value.byName.filterCount := by
  obtain ⟨ss, hs⟩ : ∃ ss, Selection.ofCriteria .people (.text " People ") .byName = .ok ss := ⟨_, rfl⟩
  obtain ⟨_, _, _, _, _, _, -, -, -, -, -, -, hcount, -⟩ := selections_of_ofObject ofObject_byName hs
  have hcolumns : (Value.byName.part "columns").columnNames = ["Name"] := rfl
  have hnumeric : (Value.byName.part "numeric").columnNames = [] := rfl
  exact ⟨ss, hs, hcount.2 ⟨hcolumns ▸ List.nodup_singleton _, hnumeric ▸ List.nodup_nil⟩⟩

/-- Criteria as they are written, with two members whose names differ by white space. -/
def Value.twoNames : Value :=
  .object [(.text "columns", .object [(.text "name", .text "Smith"), (.text " name ", .text "Miller")])]

theorem ofObject_twoNames : Criteria.ofObject .twoNames .null = .ok
    { tagGroups := [], attributeGroups := [], columnFilters := [("name", [.text "Miller"])], numericFilters := [],
      matchMode := none, regexEnabled := false, limit := none } :=
  Criteria.ofObject_eq_build .null rfl

/-- The first member is lost. -/
theorem selections_twoNames : ∃ c ss, Criteria.ofObject .twoNames .null = .ok c ∧
    Selection.ofCriteria .people (.text "people") c = .ok ss ∧ ss.length = 1 ∧ Value.twoNames.filterCount = 2 :=
  ⟨_, _, ofObject_twoNames, rfl, rfl, rfl⟩

end FacetSearch

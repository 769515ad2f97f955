import FacetSearch.Proofs.Statements
/-!
# The outline of a statement

The outline of a statement is what is left of it without the values of its parameters: its text and their types. All
ways to put fragments together keep outlines the same (`SameOutline.append` and those after it), and for each kind of
filter the outline depends on how many values there are, not on what they are. So literals, centres, ranges, the mode
of matching and the limit get into the values of parameters and nowhere else (`outline_of_compile`).
-/

namespace FacetSearch

namespace Fragment

/-- Fragments that differ in the values of their parameters only. -/
structure SameOutline (f g : Fragment) : Prop where
  text : f.text = g.text
  types : f.params.map Param.type = g.params.map Param.type

namespace SameOutline

theorem refl (f : Fragment) : SameOutline f f := ⟨rfl, rfl⟩

theorem append {f f' g g' : Fragment} (hf : SameOutline f f') (hg : SameOutline g g') :
    SameOutline (f ++ g) (f' ++ g') := by
  constructor
  · rw [text_append, text_append, hf.text, hg.text]
  · rw [params_append, params_append, List.map_append, List.map_append, hf.types, hg.types]

theorem joinedAfter (separator : String) {fs gs : List Fragment} (h : List.Forall₂ SameOutline fs gs) :
    SameOutline (joinedAfter separator fs) (Fragment.joinedAfter separator gs) := by
  induction h with
  | nil => exact refl empty
  | cons hfg _ ih => exact ((refl (ofText separator)).append hfg).append ih

theorem joined (separator : String) {fs gs : List Fragment} (h : List.Forall₂ SameOutline fs gs) :
    SameOutline (joined separator fs) (Fragment.joined separator gs) := by
  cases h with
  | nil => exact refl empty
  | cons hfg h => exact hfg.append (joinedAfter separator h)

theorem list (mark : String) {ps qs : List Param} (h : ps.map Param.type = qs.map Param.type) :
    SameOutline (list mark ps) (Fragment.list mark qs) := by
  have hlen : ps.length = qs.length := by simpa using congrArg List.length h
  rw [list_eq, list_eq, hlen]
  exact ⟨rfl, h⟩

theorem restriction (opening closing : String) {fs gs : List Fragment} (h : List.Forall₂ SameOutline fs gs) :
    SameOutline (restriction opening fs closing) (Fragment.restriction opening gs closing) := by
  cases h with
  | nil => exact refl empty
  | cons hfg h =>
    unfold Fragment.restriction
    simp only [reduceCtorEq, if_false]
    exact ((refl (ofText opening)).append (joined " INTERSECT " (.cons hfg h))).append (refl (ofText closing))

theorem limitClause {m n : Option Value} (h : m.isSome = n.isSome) :
    SameOutline (limitClause m) (Fragment.limitClause n) := by
  cases m with
  | none =>
    cases n with
    | none => exact refl empty
    | some n => cases h
  | some m =>
    cases n with
    | none => cases h
    | some n => exact ⟨rfl, rfl⟩

end SameOutline

end Fragment

open Fragment

/-! ## Conditions -/

namespace Condition

/-- Conditions that differ in the values of their parameters only. -/
def SameOutline (c d : Condition) : Prop := c.fragment.SameOutline d.fragment

namespace SameOutline

theorem matching (column : String) {p q : Param} (h : p.type = q.type) :
    SameOutline (.matching column p) (.matching column q) :=
  ⟨rfl, congrArg (fun t => [t]) h⟩

theorem foldedEqual (column : String) (p : Param) : SameOutline (.foldedEqual column p) (.foldedEqual column p) :=
  .refl _

theorem within (column : String) {low high low' high' : Param} (hl : low.type = low'.type)
    (hh : high.type = high'.type) : SameOutline (.within column low high) (.within column low' high') := by
  refine ⟨rfl, ?_⟩
  show [low.type, high.type] = [low'.type, high'.type]
  rw [hl, hh]

theorem among (column : String) {ps qs : List Param} (h : ps.map Param.type = qs.map Param.type) :
    SameOutline (.among column ps) (.among column qs) := by
  unfold SameOutline
  rw [fragment_among, fragment_among]
  exact ((Fragment.SameOutline.refl _).append (.list "?" h)).append (.refl _)

theorem foldedAmong (column : String) {ps qs : List Param} (h : ps.map Param.type = qs.map Param.type) :
    SameOutline (.foldedAmong column ps) (.foldedAmong column qs) := by
  unfold SameOutline
  rw [fragment_foldedAmong, fragment_foldedAmong]
  exact ((Fragment.SameOutline.refl _).append (.list "UPPER(?)" h)).append (.refl _)

theorem anyOf {cs ds : List Condition} (h : List.Forall₂ SameOutline cs ds) : SameOutline (.anyOf cs) (.anyOf ds) := by
  unfold SameOutline
  rw [fragment_anyOf, fragment_anyOf]
  have hjoined : List.Forall₂ Fragment.SameOutline (cs.map fragment) (ds.map fragment) := by
    rw [List.forall₂_map_left_iff, List.forall₂_map_right_iff]
    exact h
  exact ((Fragment.SameOutline.refl _).append (.joined " OR " hjoined)).append (.refl _)

theorem both {a b c d : Condition} (hac : SameOutline a c) (hbd : SameOutline b d) :
    SameOutline (.both a b) (.both c d) := by
  unfold SameOutline at hac hbd ⊢
  rw [fragment_both, fragment_both]
  exact (hac.append (.refl _)).append hbd

end SameOutline

end Condition

/-! ## Selections -/

/-- Answers to inputs that agree in something are related if the steps that give them see to it. -/
theorem forall₂_of_map_eq {α β γ : Type} {R R' : α → β → Prop} {S : β → β → Prop} {f : α → γ} {as as' : List α}
    {bs bs' : List β} (h : List.Forall₂ R as bs) (h' : List.Forall₂ R' as' bs') (hf : as.map f = as'.map f)
    (hS : ∀ a a' b b', f a = f a' → R a b → R' a' b' → S b b') : List.Forall₂ S bs bs' := by
  induction h generalizing as' bs' with
  | nil =>
    obtain rfl : as' = [] := by simpa using hf.symm
    cases h'
    exact .nil
  | cons hab _ ih =>
    cases h' with
    | nil => cases hf
    | cons hab' h' =>
      obtain ⟨hhead, htail⟩ := List.cons.inj hf
      exact .cons (hS _ _ _ _ hhead hab hab') (ih h' htail)

namespace Selection

/-- Selections that differ in the values of their parameters only. -/
structure SameOutline (s t : Selection) : Prop where
  source : s.source = t.source
  condition : s.condition.SameOutline t.condition

theorem SameOutline.fragment {s t : Selection} (h : SameOutline s t) : s.fragment.SameOutline t.fragment := by
  rw [fragment_eq, fragment_eq, h.source]
  exact (Fragment.SameOutline.refl _).append h.condition

/-- The types of parameters that are all of one type tell their number only. -/
theorem map_type {α : Type} {f : α → Param} {type : ColumnType} (hf : ∀ a, (f a).type = type) (as : List α) :
    (as.map f).map Param.type = List.replicate as.length type := by
  have hconst : Param.type ∘ f = fun _ => type := funext hf
  rw [List.map_map, hconst]
  exact List.map_const' ..

/-- What values are matched with depends on their kind alone, and on their number where they are attributes. -/
theorem sameOutline_valueCondition {kind : GroupKind} {mode mode' : Option MatchMode} {regex : Bool} {g g' : Group}
    {c c' : Condition} (hlen : kind = .attributes → g.length = g'.length)
    (h : valueCondition kind mode regex g = some c) (h' : valueCondition kind mode' regex g' = some c') :
    c.SameOutline c' := by
  cases kind with
  | tags =>
    obtain ⟨p, -, rfl⟩ := Option.map_eq_some_iff.1 h
    obtain ⟨p', -, rfl⟩ := Option.map_eq_some_iff.1 h'
    exact .matching _ rfl
  | attributes =>
    cases regex with
    | true =>
      cases h
      cases h'
      exact .matching _ rfl
    | false =>
      cases h
      cases h'
      have htext (s : String) : (textParam s).type = .string := rfl
      refine .foldedAmong _ ?_
      rw [map_type htext, map_type htext, hlen rfl]

theorem sameOutline_columnCondition (column : String) (type : ColumnType) (regex : Bool) {ps qs : List Param}
    (h : ps.map Param.type = qs.map Param.type) :
    (columnCondition column type regex ps).SameOutline (columnCondition column type regex qs) := by
  unfold columnCondition
  split
  · split
    · have hsame : List.Forall₂ (fun p q : Param => p.type = q.type) ps qs := by
        rw [← List.forall₂_eq_eq_eq, List.forall₂_map_left_iff, List.forall₂_map_right_iff] at h
        exact h
      refine .anyOf ?_
      rw [List.forall₂_map_left_iff, List.forall₂_map_right_iff]
      exact hsame.imp fun p q hpq => .matching column hpq
    · exact .foldedAmong column h
  · exact .among column h

theorem sameOutline_windowCondition {column : String} {w w' : Value × Value} {c c' : Condition}
    (h : windowCondition column w.1 w.2 = .ok c) (h' : windowCondition column w'.1 w'.2 = .ok c') :
    c.SameOutline c' := by
  obtain ⟨l, u, -, -, rfl⟩ := windowCondition_eq_ok h
  obtain ⟨l', u', -, -, rfl⟩ := windowCondition_eq_ok h'
  exact .within column rfl rfl

section

variable {catalog : Catalog} {table key : Value} {s s' : Selection}

theorem sameOutline_of_ofGroup {kind : GroupKind} {mode mode' : Option MatchMode} {regex : Bool} {g g' : Group}
    (hlen : kind = .attributes → g.length = g'.length)
    (h : ofGroup catalog kind table (.list (g.map .text)) mode regex = .ok s)
    (h' : ofGroup catalog kind table (.list (g'.map .text)) mode' regex = .ok s') : s.SameOutline s' := by
  obtain ⟨-, c, hc, rfl⟩ := ofGroup_eq_ok h
  obtain ⟨-, c', hc', rfl⟩ := ofGroup_eq_ok h'
  exact ⟨rfl, (sameOutline_valueCondition hlen hc hc').both (.foldedEqual _ _)⟩

theorem sameOutline_of_ofColumn {column : String} {values values' : List Value} {regex : Bool}
    (hlen : values.length = values'.length)
    (h : ofColumn catalog table key (.text column) (.list values) regex = .ok s)
    (h' : ofColumn catalog table key (.text column) (.list values') regex = .ok s') : s.SameOutline s' := by
  obtain ⟨name, t, type, literals, hn, -, ht, htype, hl, rfl⟩ := ofColumn_eq_ok h
  obtain ⟨name', t', type', literals', hn', -, ht', htype', hl', rfl⟩ := ofColumn_eq_ok h'
  -- the same column of the same table has one name and one type
  obtain rfl : name = name' := Except.ok.inj (hn.symm.trans hn')
  obtain rfl : t = t' := Except.ok.inj (ht.symm.trans ht')
  obtain rfl : type = type' := Option.some.inj (htype.symm.trans htype')
  refine ⟨rfl, sameOutline_columnCondition name type regex ?_⟩
  have htype (l : Value) : (Param.mk l type).type = type := rfl
  rw [map_type htype, map_type htype, ← hl.length_eq, ← hl'.length_eq, hlen]

theorem sameOutline_of_ofNumeric {column : String} {f f' : NumericFilter} (hlen : f.centres.length = f'.centres.length)
    (h : ofNumeric catalog table key (.text column) f.toValue = .ok s)
    (h' : ofNumeric catalog table key (.text column) f'.toValue = .ok s') : s.SameOutline s' := by
  obtain ⟨name, t, type, windows, cs, hn, -, -, -, -, hw, hcs, rfl⟩ := ofNumeric_eq_ok h
  obtain ⟨name', t', type', windows', cs', hn', -, -, -, -, hw', hcs', rfl⟩ := ofNumeric_eq_ok h'
  obtain rfl : name = name' := Except.ok.inj (hn.symm.trans hn')
  -- there is a window for each centre
  have hwindows : windows.map (fun _ => ()) = windows'.map fun _ => () := by
    rw [List.map_const', List.map_const', ← (mapM_eq_ok.1 hw).length_eq, ← (mapM_eq_ok.1 hw').length_eq, hlen]
  exact ⟨rfl, .anyOf (forall₂_of_map_eq hcs hcs' hwindows fun _ _ _ _ _ => sameOutline_windowCondition)⟩

end

end Selection

/-! ## Criteria of one shape -/

/-- Criteria with the same columns in the same order, as many groups, and as many values for each attribute group and
each column. What the values are does not matter, nor how many literals a tag group has. -/
structure Criteria.SameShape (c d : Criteria) : Prop where
  tagGroups : c.tagGroups.length = d.tagGroups.length
  attributeGroups : c.attributeGroups.map List.length = d.attributeGroups.map List.length
  columnFilters : (c.columnFilters.map fun e => (e.1, e.2.length)) = d.columnFilters.map fun e => (e.1, e.2.length)
  numericFilters : (c.numericFilters.map fun e => (e.1, e.2.centres.length)) =
    d.numericFilters.map fun e => (e.1, e.2.centres.length)
  regexEnabled : c.regexEnabled = d.regexEnabled
  limit : c.limit.isSome = d.limit.isSome

theorem Selection.sameOutline_of_ofCriteria {catalog : Catalog} {v : Value} {c d : Criteria} {ss ts : List Selection}
    (h : c.SameShape d) (hc : ofCriteria catalog v c = .ok ss) (hd : ofCriteria catalog v d = .ok ts) :
    List.Forall₂ SameOutline ss ts := by
  obtain ⟨table, key, tags, attributes, columns, numeric, hk, rfl, ht, ha, hf, hn⟩ := ofCriteria_eq_ok hc
  obtain ⟨table', key', tags', attributes', columns', numeric', hk', rfl, ht', ha', hf', hn'⟩ := ofCriteria_eq_ok hd
  obtain ⟨rfl, rfl⟩ := Prod.mk.inj (Except.ok.inj (hk.symm.trans hk'))
  rw [← h.regexEnabled] at ht' ha' hf'
  have htags : List.Forall₂ SameOutline tags tags' := by
    have hlen : c.tagGroups.map (fun _ => ()) = d.tagGroups.map fun _ => () := by
      rw [List.map_const', List.map_const', h.tagGroups]
    exact forall₂_of_map_eq ht ht' hlen fun _ _ _ _ _ => sameOutline_of_ofGroup nofun
  have hattributes : List.Forall₂ SameOutline attributes attributes' :=
    forall₂_of_map_eq ha ha' h.attributeGroups fun _ _ _ _ hlen => sameOutline_of_ofGroup fun _ => hlen
  have hcolumns : List.Forall₂ SameOutline columns columns' := by
    refine forall₂_of_map_eq hf hf' h.columnFilters fun e e' s s' he hs hs' => ?_
    obtain ⟨hname, hlen⟩ := Prod.mk.inj he
    rw [← hname] at hs'
    exact sameOutline_of_ofColumn hlen hs hs'
  have hnumeric : List.Forall₂ SameOutline numeric numeric' := by
    refine forall₂_of_map_eq hn hn' h.numericFilters fun e e' s s' he hs hs' => ?_
    obtain ⟨hname, hlen⟩ := Prod.mk.inj he
    rw [← hname] at hs'
    exact sameOutline_of_ofNumeric hlen hs hs'
  exact List.rel_append (List.rel_append (List.rel_append htags hattributes) hcolumns) hnumeric

/-- Searches on one table for criteria of one shape have the same text and parameters of the same types: whoever sees
the text of a statement learns nothing of the values that are looked for. -/
theorem outline_of_compile {catalog : Catalog} {table : Value} {c d : Criteria} {f g : Fragment} (h : c.SameShape d)
    (hc : Search.compile catalog table c = .ok f) (hd : Search.compile catalog table d = .ok g) :
    f.text = g.text ∧ f.params.map Param.type = g.params.map Param.type := by
  obtain ⟨name, key, ss, hk, hs, rfl⟩ := Search.compile_eq_ok hc
  obtain ⟨name', key', ts, hk', ht, rfl⟩ := Search.compile_eq_ok hd
  obtain ⟨rfl, rfl⟩ := Prod.mk.inj (Except.ok.inj (hk.symm.trans hk'))
  have hsets : List.Forall₂ SameOutline (ss.map Selection.fragment) (ts.map Selection.fragment) := by
    rw [List.forall₂_map_left_iff, List.forall₂_map_right_iff]
    exact (Selection.sameOutline_of_ofCriteria h hs ht).imp fun _ _ => Selection.SameOutline.fragment
  have hlimit : (c.limit.map Value.int).isSome = (d.limit.map Value.int).isSome := by
    rw [Option.isSome_map, Option.isSome_map, h.limit]
  obtain ⟨htext, htypes⟩ := ((SameOutline.refl (ofText ("SELECT * FROM " ++ name))).append
    (.restriction (" WHERE " ++ key ++ " IN (") ")" hsets)).append (.limitClause hlimit)
  exact ⟨htext, htypes⟩

/-- Another name and another limit. -/
def Criteria.byOtherName : Criteria :=
  { Criteria.byName with columnFilters := [("Name", [.int 7])], matchMode := some .word, limit := some 1 }

theorem outline_byName : ∃ f g, Search.compile .people (.text " People ") .byName = .ok f ∧
    Search.compile .people (.text " People ") .byOtherName = .ok g ∧ f.params.map Param.type = [.string, .integer] ∧
    f.text = g.text ∧ f.params.map Param.type = g.params.map Param.type := by
  -- that an integer can be written is for the kernel to compute
  have hok : (Search.compile .people (.text " People ") .byOtherName).toOption.isSome = true := by decide +kernel
  obtain ⟨g, hg⟩ := Option.isSome_iff_exists.1 hok
  have hother := toOption_eq_some.1 hg
  have hshape : Criteria.byName.SameShape .byOtherName := ⟨rfl, rfl, rfl, rfl, rfl, rfl⟩
  exact ⟨_, _, Inquiry.compile_byName, hother, rfl, outline_of_compile hshape Inquiry.compile_byName hother⟩

end FacetSearch

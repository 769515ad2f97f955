import FacetSearch.Proofs.Members
/-!
# Spellings of names

Names may be spelled in capitals and with white space around them. Two runs of a compiler that are given different
spellings of the same names answer the same (`Alike`), except that a spelling that is no name, because it is empty or
begins with a digit, is refused as it was given. Names are looked at by `Name.check` only, so this is shown for it, and
everything else inherits it: a chain of steps is alike if its steps are. Criteria that are written with other spellings
of their columns are such criteria again (`Criteria.respelled_of_build`).
-/

namespace FacetSearch

/-! ## Two spellings of a name -/

namespace Name

/-- Spellings that consist of the characters of names, apart from white space around them, and are the same in lower
case. -/
structure Respelled (s t : String) : Prop where
  inner_left : ∀ c ∈ Text.stripChars s.toList, isInner c = true
  inner_right : ∀ c ∈ Text.stripChars t.toList, isInner c = true
  lower_eq : Text.lower (Text.strip s) = Text.lower (Text.strip t)

instance (s t : String) : Decidable (Respelled s t) :=
  decidable_of_iff ((Text.stripChars s.toList).all isInner = true ∧ (Text.stripChars t.toList).all isInner = true ∧
      Text.lower (Text.strip s) = Text.lower (Text.strip t))
    ⟨fun h => ⟨List.all_eq_true.1 h.1, List.all_eq_true.1 h.2.1, h.2.2⟩,
      fun h => ⟨List.all_eq_true.2 h.inner_left, List.all_eq_true.2 h.inner_right, h.lower_eq⟩⟩

/-- The spelling is that of a name. -/
def IsSpelling (s : String) : Prop := isName (Text.stripChars s.toList) = true

instance (s : String) : Decidable (IsSpelling s) := inferInstanceAs (Decidable (_ = true))

theorem isInitial_toLower_eq {c : Char} (h : isInner c = true) : isInitial c.toLower = isInitial c :=
  of_ascii (P := fun c => isInner c = true → isInitial c.toLower = isInitial c) (by decide) (toNat_lt_of_isInner h) h

/-- Of characters of names, only the first one decides whether they are a name. -/
theorem isName_of_inner {cs : List Char} (h : ∀ c ∈ cs, isInner c = true) :
    isName cs = ((cs.map Char.toLower).head?.map isInitial).getD false := by
  cases cs with
  | nil => rfl
  | cons c cs =>
    have hall : cs.all isInner = true := List.all_eq_true.2 fun d hd => h d (List.mem_cons_of_mem _ hd)
    simp only [isName, hall, Bool.and_true, List.map_cons, List.head?_cons, Option.map_some, Option.getD_some,
      isInitial_toLower_eq (h c List.mem_cons_self)]

theorem toList_lower_strip {s : String} (h : ∀ c ∈ Text.stripChars s.toList, isInner c = true) :
    (Text.lower (Text.strip s)).toList = (Text.stripChars s.toList).map Char.toLower := by
  rw [Text.lower, Text.strip, String.toList_ofList, String.toList_ofList, lowerFrom_of_inner [] h]

theorem Respelled.isName_eq {s t : String} (h : Respelled s t) :
    isName (Text.stripChars s.toList) = isName (Text.stripChars t.toList) := by
  rw [isName_of_inner h.inner_left, isName_of_inner h.inner_right, ← toList_lower_strip h.inner_left,
    ← toList_lower_strip h.inner_right, h.lower_eq]

end Name

/-! ## Runs that are given different spellings -/

/-- The answers to two spellings of names: the same, or each refuses the spelling that it was given of what is no
name. -/
def Alike (R : String → String → Prop) {α : Type} (x y : Except Error α) : Prop :=
  x = y ∨ ∃ s t, R s t ∧ ¬Name.IsSpelling s ∧ ¬Name.IsSpelling t ∧
    x = .error (.schema (.name (.text s))) ∧ y = .error (.schema (.name (.text t)))

namespace Alike

variable {α β γ : Type} {R : String → String → Prop}

theorem refl (x : Except Error α) : Alike R x x := .inl rfl

theorem bind {x y : Except Error α} {f g : α → Except Error β} (hx : Alike R x y) (hf : ∀ a, Alike R (f a) (g a)) :
    Alike R (x >>= f) (y >>= g) := by
  rcases hx with rfl | ⟨s, t, hR, hs, ht, rfl, rfl⟩
  · cases x with
    | ok a => exact hf a
    | error e => exact refl _
  · exact .inr ⟨s, t, hR, hs, ht, rfl, rfl⟩

/-- Nothing else is given to what follows. -/
theorem andThen {x y : Except Error α} (hx : Alike R x y) (f : α → Except Error β) : Alike R (x >>= f) (y >>= f) :=
  bind hx fun _ => refl _

theorem mapM {f : α → Except Error γ} {g : β → Except Error γ} {as : List α} {bs : List β}
    (h : List.Forall₂ (fun a b => Alike R (f a) (g b)) as bs) : Alike R (as.mapM f) (bs.mapM g) := by
  induction h with
  | nil => exact refl _
  | cons hab _ ih =>
    rw [List.mapM_cons, List.mapM_cons]
    exact bind hab fun _ => bind ih fun _ => refl _

end Alike

section

variable {R : String → String → Prop} (hR : ∀ s t, R s t → Name.Respelled s t)

/-- Values that are the same or two spellings of a name. -/
def Value.Respelled (R : String → String → Prop) (v w : Value) : Prop :=
  v = w ∨ ∃ s t, v = .text s ∧ w = .text t ∧ R s t

/-- Filters that differ in the spelling of the column. -/
def SameFilter {α : Type} (R : String → String → Prop) (a b : String × α) : Prop := R a.1 b.1 ∧ a.2 = b.2

/-- Criteria that differ in the spelling of columns. -/
structure Criteria.Respelled (R : String → String → Prop) (c d : Criteria) : Prop where
  tagGroups : c.tagGroups = d.tagGroups
  attributeGroups : c.attributeGroups = d.attributeGroups
  columnFilters : List.Forall₂ (SameFilter R) c.columnFilters d.columnFilters
  numericFilters : List.Forall₂ (SameFilter R) c.numericFilters d.numericFilters
  matchMode : c.matchMode = d.matchMode
  regexEnabled : c.regexEnabled = d.regexEnabled
  limit : c.limit = d.limit

/-- Extractions that differ in the spelling of columns. -/
structure Extraction.Respelled (R : String → String → Prop) (e f : Extraction) : Prop where
  inner : e.inner.Respelled R f.inner
  outer : e.outer.Respelled R f.outer
  lower : e.lower = f.lower
  upper : e.upper = f.upper
  limit : e.limit = f.limit
  entityColumn : e.entityColumn.Respelled R f.entityColumn
  startColumn : e.startColumn.Respelled R f.startColumn
  endColumn : e.endColumn.Respelled R f.endColumn

/-- Inquiries that differ in the spelling of columns. -/
inductive Inquiry.Respelled (R : String → String → Prop) : Inquiry → Inquiry → Prop
  | search {c d} (h : c.Respelled R d) : Respelled R (.search c) (.search d)
  | extraction {e f} (h : e.Respelled R f) : Respelled R (.extraction e) (.extraction f)
  | lookup (identifiers limit) : Respelled R (.lookup identifiers limit) (.lookup identifiers limit)

namespace Name

include hR

theorem check_alike {v w : Value} (h : v.Respelled R w) : Alike R (check v) (check w) := by
  rcases h with rfl | ⟨s, t, rfl, rfl, hst⟩
  · exact .refl _
  · have hname := (hR s t hst).isName_eq
    by_cases hs : isName (Text.stripChars s.toList) = true
    · refine .inl ?_
      simp only [check, hs, ← hname, if_true, (hR s t hst).lower_eq]
    · have ht : ¬isName (Text.stripChars t.toList) = true := hname ▸ hs
      exact .inr ⟨s, t, hst, hs, ht, if_neg hs, if_neg ht⟩

theorem column_alike (catalog : Catalog) (table : Value) {v w : Value} (h : v.Respelled R w) :
    Alike R (column catalog table v) (column catalog table w) := (check_alike hR h).andThen _

theorem tableAndKey_alike (catalog : Catalog) {v w : Value} (h : v.Respelled R w) :
    Alike R (tableAndKey catalog v) (tableAndKey catalog w) := ((check_alike hR h).andThen _).andThen _

end Name

/-! ## Compilers -/

include hR

theorem Selection.ofCriteria_alike (catalog : Catalog) {v w : Value} {c d : Criteria} (hv : v.Respelled R w)
    (h : c.Respelled R d) : Alike R (ofCriteria catalog v c) (ofCriteria catalog w d) := by
  unfold ofCriteria
  refine .bind (Name.tableAndKey_alike hR catalog hv) fun (table, key) => ?_
  simp only [h.tagGroups, h.attributeGroups, h.matchMode, h.regexEnabled]
  refine .bind (.refl _) fun tags => .bind (.refl _) fun attributes => .bind (.mapM ?_) fun columns =>
    .bind (.mapM ?_) fun numeric => .refl _
  · refine h.columnFilters.imp fun (column, values) (column', values') ⟨hcolumn, hvalues⟩ => ?_
    obtain rfl : values = values' := hvalues
    exact (Name.column_alike hR catalog _ (.inr ⟨column, column', rfl, rfl, hcolumn⟩)).andThen _
  · refine h.numericFilters.imp fun (column, f) (column', f') ⟨hcolumn, hf⟩ => ?_
    obtain rfl : f = f' := hf
    exact (Name.column_alike hR catalog _ (.inr ⟨column, column', rfl, rfl, hcolumn⟩)).andThen _

theorem Search.compile_alike (catalog : Catalog) {v w : Value} {c d : Criteria} (hv : v.Respelled R w)
    (h : c.Respelled R d) : Alike R (compile catalog v c) (compile catalog w d) := by
  unfold compile
  rw [h.limit]
  exact .bind (Selection.ofCriteria_alike hR catalog hv h) fun _ => (Name.tableAndKey_alike hR catalog hv).andThen _

theorem Extraction.prepare_alike (catalog : Catalog) {v w : Value} {e f : Extraction} (hv : v.Respelled R w)
    (h : e.Respelled R f) : Alike R (e.prepare catalog v) (f.prepare catalog w) := by
  unfold prepare names
  rw [h.lower, h.upper]
  refine .andThen (.bind (Name.tableAndKey_alike hR catalog hv) fun (table, key) => ?_) _
  exact .bind (Name.column_alike hR catalog _ h.entityColumn) fun _ =>
    .bind (Name.column_alike hR catalog _ h.startColumn) fun _ =>
      (Name.column_alike hR catalog _ h.endColumn).andThen _

theorem Extraction.compile_alike (catalog : Catalog) {v w : Value} {e f : Extraction} (hv : v.Respelled R w)
    (h : e.Respelled R f) : Alike R (compile catalog v e) (compile catalog w f) := by
  unfold compile
  rw [h.limit]
  refine .bind (prepare_alike hR catalog hv h) fun (n, lower, upper) => ?_
  exact .bind (Selection.ofCriteria_alike hR catalog (.inl rfl) h.inner) fun _ =>
    (Selection.ofCriteria_alike hR catalog (.inl rfl) h.outer).andThen _

theorem Inquiry.compile_alike (catalog : Catalog) {v w : Value} {q r : Inquiry} (hv : v.Respelled R w)
    (h : q.Respelled R r) : Alike R (q.compile catalog v) (r.compile catalog w) := by
  cases h with
  | search h => exact Search.compile_alike hR catalog hv h
  | extraction h => exact Extraction.compile_alike hR catalog hv h
  | lookup => exact (Name.tableAndKey_alike hR catalog hv).andThen _

end

/-! ## Criteria that are written with different spellings -/

namespace Name

/-- White space around a spelling does not matter. -/
theorem Respelled.strip {s t : String} (h : Respelled s t) : Respelled (Text.strip s) (Text.strip t) := by
  have hs : Text.strip (Text.strip s) = Text.strip s := by
    rw [Text.strip, Text.strip, String.toList_ofList, stripChars_of_inner h.inner_left]
  have ht : Text.strip (Text.strip t) = Text.strip t := by
    rw [Text.strip, Text.strip, String.toList_ofList, stripChars_of_inner h.inner_right]
  refine ⟨?_, ?_, by rw [hs, ht, h.lower_eq]⟩
  · rw [Text.strip, String.toList_ofList, stripChars_of_inner h.inner_left]
    exact h.inner_left
  · rw [Text.strip, String.toList_ofList, stripChars_of_inner h.inner_right]
    exact h.inner_right

end Name

theorem Keyed.put_of_notMem {α β : Type} [DecidableEq α] {es : List (α × β)} {key : α} (h : key ∉ es.map Prod.fst) (b : β) :
    put es key b = es ++ [(key, b)] := by
  induction es with
  | nil => rfl
  | cons e es ih =>
    obtain ⟨k, c⟩ := e
    simp only [List.map_cons, List.mem_cons, not_or] at h
    rw [put, if_neg (Ne.symm h.1), ih h.2, List.cons_append]

/-- Pairs with different keys are a keyed list already. -/
theorem Keyed.ofList_of_nodup {α β : Type} [DecidableEq α] {pairs : List (α × β)} (h : (pairs.map Prod.fst).Nodup) :
    ofList pairs = pairs := by
  induction pairs using List.reverseRecOn with
  | nil => rfl
  | append_singleton pairs p ih =>
    rw [List.map_append, List.map_singleton] at h
    rw [ofList_concat, ih h.of_append_left]
    exact put_of_notMem (List.disjoint_right.1 (List.disjoint_of_nodup_append h) (List.mem_singleton_self _)) p.2

/-- If both succeed, they answer the same. -/
def Agree {α : Type} (x y : Except Error α) : Prop := ∀ a b, x = .ok a → y = .ok b → a = b

namespace Agree

variable {α β : Type}

theorem refl (x : Except Error α) : Agree x x := fun _ _ ha hb => Except.ok.inj (ha.symm.trans hb)

theorem bind {x y : Except Error α} {f g : α → Except Error β} (hx : Agree x y) (hf : ∀ a, Agree (f a) (g a)) :
    Agree (x >>= f) (y >>= g) := by
  intro b c hb hc
  obtain ⟨a, ha, hb⟩ := bind_eq_ok.1 hb
  obtain ⟨a', ha', hc⟩ := bind_eq_ok.1 hc
  obtain rfl := hx a a' ha ha'
  exact hf a b c hb hc

theorem mapM {f g : α → Except Error β} (h : ∀ a, Agree (f a) (g a)) (as : List α) : Agree (as.mapM f) (as.mapM g) := by
  induction as with
  | nil => exact refl _
  | cons a as ih =>
    rw [List.mapM_cons, List.mapM_cons]
    exact bind (h a) fun _ => bind ih fun _ => refl _

theorem fault (f : ConfigurationFault) (x : Except Error α) : Agree (Criteria.fault f) x := nofun

end Agree

namespace Criteria

theorem finite_agree (role : NumberRole) (column column' : String) (v : Value) :
    Agree (finite role column v) (finite role column' v) := by
  unfold finite
  split
  · exact .refl _
  · split
    · exact .fault _ _
    · split
      · exact .refl _
      · exact .fault _ _

theorem bounds_agree (column column' : String) (tolerance v : Value) :
    Agree (bounds column tolerance v) (bounds column' tolerance v) := by
  unfold bounds
  split
  · exact .refl _
  · split
    · exact .bind (finite_agree _ _ _ _) fun _ => .bind (finite_agree _ _ _ _) fun _ => .refl _
    · exact .fault _ _

/-- The name of the column is in error messages only. -/
theorem numericFilter_agree (tolerance : Value) (column column' : String) (v : Value) :
    Agree (numericFilter tolerance column v) (numericFilter tolerance column' v) := by
  unfold numericFilter
  split
  · exact .refl _
  · exact .bind (.mapM (fun _ => .bind (finite_agree _ _ _ _) fun _ => .refl _) _) fun _ =>
      .bind (bounds_agree _ _ _ _) fun _ => .refl _

/-- Members with the same value for columns that differ in their spelling. -/
def SameMember (a b : Value × Value) : Prop :=
  a.2 = b.2 ∧ ∃ s t, a.1 = .text s ∧ b.1 = .text t ∧ Name.Respelled s t

section

variable {β : Type} {R : Value × Value → String × β → Prop} (hname : ∀ e p, R e p → columnName e.1 = .ok p.1)
  (hread : ∀ a b, SameMember a b → ∀ p q, R a p → R b q → p.2 = q.2)

include hname hread

theorem sameFilter_of_read {es es' : List (Value × Value)} {ps qs : List (String × β)} (h : List.Forall₂ SameMember es es')
    (hp : List.Forall₂ R es ps) (hq : List.Forall₂ R es' qs) : List.Forall₂ (SameFilter Name.Respelled) ps qs := by
  induction h generalizing ps qs with
  | nil =>
    cases hp
    cases hq
    exact .nil
  | cons hab _ ih =>
    obtain ⟨p, ps, hpa, hps, rfl⟩ := List.forall₂_cons_left_iff.1 hp
    obtain ⟨q, qs, hqb, hqs, rfl⟩ := List.forall₂_cons_left_iff.1 hq
    refine .cons ⟨?_, hread _ _ hab p q hpa hqb⟩ (ih hps hqs)
    obtain ⟨-, s, t, hs, ht, hst⟩ := hab
    rw [columnName_eq_ok (hname _ _ hpa), columnName_eq_ok (hname _ _ hqb), hs, ht]
    exact hst.strip

/-- Members with different names are read one by one. -/
theorem sameFilter_of_entries {v w : Value} (h : List.Forall₂ SameMember v.filters w.filters)
    (hv : v.columnNames.Nodup) (hw : w.columnNames.Nodup) {ps qs : List (String × β)}
    (hp : List.Forall₂ R v.filters ps) (hq : List.Forall₂ R w.filters qs) :
    List.Forall₂ (SameFilter Name.Respelled) (Keyed.ofList ps) (Keyed.ofList qs) := by
  have hkeys : (ps.map Prod.fst).Nodup := keys_of_forall₂ (hp.imp hname) ▸ hv
  have hkeys' : (qs.map Prod.fst).Nodup := keys_of_forall₂ (hq.imp hname) ▸ hw
  rw [Keyed.ofList_of_nodup hkeys, Keyed.ofList_of_nodup hkeys']
  exact sameFilter_of_read hname hread h hp hq

end

theorem respelled_of_readColumns {v w : Value} (h : List.Forall₂ SameMember v.filters w.filters)
    (hv : v.columnNames.Nodup) (hw : w.columnNames.Nodup) {fs gs : List (String × List Value)}
    (hf : readColumns v = .ok fs) (hg : readColumns w = .ok gs) : List.Forall₂ (SameFilter Name.Respelled) fs gs := by
  obtain ⟨ps, hp, rfl⟩ := members_of_readColumns hf
  obtain ⟨qs, hq, rfl⟩ := members_of_readColumns hg
  refine sameFilter_of_entries (fun e p he => he.1) (fun a b hab p q ha hb => ?_) h hv hw hp hq
  rw [ha.2, hb.2, hab.1]

theorem respelled_of_readNumeric {tolerance v w : Value} (h : List.Forall₂ SameMember v.filters w.filters)
    (hv : v.columnNames.Nodup) (hw : w.columnNames.Nodup) {fs gs : List (String × NumericFilter)}
    (hf : readNumeric tolerance v = .ok fs) (hg : readNumeric tolerance w = .ok gs) :
    List.Forall₂ (SameFilter Name.Respelled) fs gs := by
  obtain ⟨ps, hp, rfl⟩ := members_of_readNumeric hf
  obtain ⟨qs, hq, rfl⟩ := members_of_readNumeric hg
  refine sameFilter_of_entries (fun e p he => he.1) (fun a b hab p q ha hb => ?_) h hv hw hp hq
  exact numericFilter_agree tolerance a.1.plain b.1.plain b.2 p.2 q.2 (hab.1 ▸ ha.2) hb.2

/-- Parts that name the same columns, each once, with different spellings make criteria that differ in the spelling of
columns. -/
theorem respelled_of_build {p : Parts} {columns numeric : Value}
    (hcolumns : List.Forall₂ SameMember p.columns.filters columns.filters) (hc : p.columns.columnNames.Nodup)
    (hc' : columns.columnNames.Nodup) (hnumeric : List.Forall₂ SameMember p.numeric.filters numeric.filters)
    (hn : p.numeric.columnNames.Nodup) (hn' : numeric.columnNames.Nodup) {c d : Criteria} (h : build p = .ok c)
    (h' : build { p with columns, numeric } = .ok d) : c.Respelled Name.Respelled d := by
  simp only [build, bind_eq_ok, pure_eq_ok] at h h'
  obtain ⟨tags, ht, attributes, ha, fs, hf, gs, hg, mode, hm, regex, hr, limit, hl, rfl⟩ := h
  obtain ⟨tags', ht', attributes', ha', fs', hf', gs', hg', mode', hm', regex', hr', limit', hl', rfl⟩ := h'
  exact {
    tagGroups := Except.ok.inj (ht.symm.trans ht')
    attributeGroups := Except.ok.inj (ha.symm.trans ha')
    columnFilters := respelled_of_readColumns hcolumns hc hc' hf hf'
    numericFilters := respelled_of_readNumeric hnumeric hn hn' hg hg'
    matchMode := Except.ok.inj (hm.symm.trans hm')
    regexEnabled := Except.ok.inj (hr.symm.trans hr')
    limit := Except.ok.inj (hl.symm.trans hl') }

end Criteria

/-! ## The spellings that are given -/

theorem forall₂_imp_of_mem {α β : Type} {R S : α → β → Prop} {as : List α} {bs : List β} (h : List.Forall₂ R as bs)
    (hS : ∀ a ∈ as, ∀ b ∈ bs, R a b → S a b) : List.Forall₂ S as bs := by
  induction h with
  | nil => exact .nil
  | cons hab _ ih =>
    exact .cons (hS _ List.mem_cons_self _ List.mem_cons_self hab)
      (ih fun a ha b hb => hS a (List.mem_cons_of_mem _ ha) b (List.mem_cons_of_mem _ hb))

/-- The spellings of columns in criteria. -/
def Criteria.spellings (c : Criteria) : List String := c.columnFilters.map Prod.fst ++ c.numericFilters.map Prod.fst

/-- The spelling that a value is, if it is one. -/
def Value.spellings : Value → List String
  | .text s => [s]
  | _ => []

/-- The spellings of columns in an inquiry. -/
def Inquiry.spellings : Inquiry → List String
  | .search c => c.spellings
  | .extraction e => e.inner.spellings ++ e.outer.spellings ++ e.entityColumn.spellings ++ e.startColumn.spellings ++
      e.endColumn.spellings
  | .lookup _ _ => []

section

variable {R S : String → String → Prop}

theorem Criteria.Respelled.imp {c d : Criteria} (h : c.Respelled R d)
    (hS : ∀ s ∈ c.spellings, ∀ t ∈ d.spellings, R s t → S s t) : c.Respelled S d :=
  { h with
    columnFilters := forall₂_imp_of_mem h.columnFilters fun _ hs _ ht hR =>
      ⟨hS _ (List.mem_append_left _ (List.mem_map_of_mem hs)) _ (List.mem_append_left _ (List.mem_map_of_mem ht)) hR.1,
        hR.2⟩
    numericFilters := forall₂_imp_of_mem h.numericFilters fun _ hs _ ht hR =>
      ⟨hS _ (List.mem_append_right _ (List.mem_map_of_mem hs)) _ (List.mem_append_right _ (List.mem_map_of_mem ht)) hR.1,
        hR.2⟩ }

theorem Value.Respelled.imp {v w : Value} (h : v.Respelled R w)
    (hS : ∀ s ∈ v.spellings, ∀ t ∈ w.spellings, R s t → S s t) : v.Respelled S w := by
  rcases h with rfl | ⟨s, t, rfl, rfl, hR⟩
  · exact .inl rfl
  · exact .inr ⟨s, t, rfl, rfl, hS s List.mem_cons_self t List.mem_cons_self hR⟩

theorem Inquiry.Respelled.imp {q r : Inquiry} (h : q.Respelled R r)
    (hS : ∀ s ∈ q.spellings, ∀ t ∈ r.spellings, R s t → S s t) : q.Respelled S r := by
  cases h with
  | search h => exact .search (h.imp hS)
  | extraction h =>
    simp only [spellings, List.mem_append] at hS
    exact .extraction { h with
      inner := h.inner.imp fun s hs t ht => hS s (by simp [hs]) t (by simp [ht])
      outer := h.outer.imp fun s hs t ht => hS s (by simp [hs]) t (by simp [ht])
      entityColumn := h.entityColumn.imp fun s hs t ht => hS s (by simp [hs]) t (by simp [ht])
      startColumn := h.startColumn.imp fun s hs t ht => hS s (by simp [hs]) t (by simp [ht])
      endColumn := h.endColumn.imp fun s hs t ht => hS s (by simp [hs]) t (by simp [ht]) }
  | lookup identifiers limit => exact .lookup identifiers limit

end

/-- Inquiries that differ in the spelling of the table and of columns have the same statement or the same error, unless
one of the spellings is that of no name: then each inquiry may be refused for its spelling, as it was given. -/
theorem compile_of_respelled (catalog : Catalog) {s t : String} (hst : Name.Respelled s t) {q r : Inquiry}
    (h : q.Respelled Name.Respelled r) :
    q.compile catalog (.text s) = r.compile catalog (.text t) ∨
      ∃ m ∈ s :: q.spellings, ∃ n ∈ t :: r.spellings, Name.Respelled m n ∧ ¬Name.IsSpelling m ∧ ¬Name.IsSpelling n ∧
        q.compile catalog (.text s) = .error (.schema (.name (.text m))) ∧
        r.compile catalog (.text t) = .error (.schema (.name (.text n))) := by
  let Given (m n : String) : Prop := Name.Respelled m n ∧ m ∈ s :: q.spellings ∧ n ∈ t :: r.spellings
  have hvalue : (Value.text s).Respelled Given (.text t) :=
    .inr ⟨s, t, rfl, rfl, hst, List.mem_cons_self, List.mem_cons_self⟩
  have hgiven : q.Respelled Given r :=
    h.imp fun m hm n hn hmn => ⟨hmn, List.mem_cons_of_mem _ hm, List.mem_cons_of_mem _ hn⟩
  rcases Inquiry.compile_alike (fun _ _ h => h.1) catalog hvalue hgiven with heq | ⟨m, n, hmn, hm, hn, hq, hr⟩
  · exact .inl heq
  · exact .inr ⟨m, hmn.2.1, n, hmn.2.2, hmn.1, hm, hn, hq, hr⟩

/-! ### A search by a name in capitals, and a table whose name begins with a digit -/

/-- The search by a name, with the column in capitals. -/
def Inquiry.byCapitalName : Inquiry := .search { Criteria.byName with columnFilters := [("NAME", [.text "O'Hara; --"])] }

theorem compile_byCapitalName : Name.Respelled " People " "PEOPLE" ∧
    Inquiry.byName.Respelled Name.Respelled .byCapitalName ∧
    Inquiry.byName.compile .people (.text " People ") = Inquiry.byCapitalName.compile .people (.text "PEOPLE") := by
  have htable : Name.Respelled " People " "PEOPLE" := by decide
  have hcolumn : Name.Respelled "Name" "NAME" := by decide
  have hq : Inquiry.byName.Respelled Name.Respelled .byCapitalName :=
    .search ⟨rfl, rfl, .cons ⟨hcolumn, rfl⟩ .nil, .nil, rfl, rfl, rfl⟩
  refine ⟨htable, hq, ?_⟩
  rcases compile_of_respelled .people htable hq with heq | ⟨m, hm, _, -, -, hno, -⟩
  · exact heq
  · have hall : ∀ m ∈ [" People ", "Name"], Name.IsSpelling m := by decide
    exact absurd (hall m hm) hno

/-- What is no name of a table is refused as it is spelled. -/
theorem Inquiry.compile_of_not_isSpelling (catalog : Catalog) {s : String} (h : ¬Name.IsSpelling s) (q : Inquiry) :
    q.compile catalog (.text s) = .error (.schema (.name (.text s))) := by
  have hcheck : Name.check (.text s) = .error (.schema (.name (.text s))) := if_neg h
  have hkey : Name.tableAndKey catalog (.text s) = .error (.schema (.name (.text s))) := by
    simp only [Name.tableAndKey, Name.table, hcheck, bind, Except.bind]
  cases q with
  | search c => simp only [compile, Search.compile, Selection.ofCriteria, hkey, bind, Except.bind]
  | extraction e =>
    simp only [compile, Extraction.compile, Extraction.prepare, Extraction.names, hkey, bind, Except.bind]
  | lookup identifiers limit => simp only [compile, Lookup.compile, hkey, bind, Except.bind]

theorem compile_digitFirst : Name.Respelled "2024_EVENTS" "2024_events" ∧
    Inquiry.byName.compile .people (.text "2024_EVENTS") ≠ Inquiry.byName.compile .people (.text "2024_events") := by
  refine ⟨by decide +kernel, ?_⟩
  rw [Inquiry.compile_of_not_isSpelling _ (by decide +kernel), Inquiry.compile_of_not_isSpelling _ (by decide +kernel)]
  simp

end FacetSearch

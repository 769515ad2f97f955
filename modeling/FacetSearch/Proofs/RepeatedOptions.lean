import FacetSearch.Command.Run
import FacetSearch.Proofs.NormalForm
import FacetSearch.Proofs.Windows
/-!
# Options that are repeated

The command may be given values for a column several times, and numbers for it as well. Values are gathered: each of them
is among the literals of the filter on the column. Numbers are not, although both options are repeated in the same way: of
the arguments that name a column the last one alone decides on the centres of its numeric filter
(`kept_of_build`), and the numbers of those before are lost (`lost_repeatedNumber`).
-/

namespace FacetSearch

namespace Command

/-! ## Arguments that name a column -/

/-- The argument gives a text for a column, whose name stands in front of the first equals sign. -/
def Gives (argument : Option String) (column text : String) : Prop :=
  ∃ name, argument = some (name ++ "=" ++ text) ∧ '=' ∉ name.toList ∧ Text.strip name = column

theorem equation_eq_some {argument : Option String} {name text : String} :
    equation argument = some (name, text) ↔ argument = some (name ++ "=" ++ text) ∧ '=' ∉ name.toList := by
  constructor
  · intro h
    obtain ⟨s, rfl, h⟩ := Option.bind_eq_some_iff.1 h
    obtain ⟨⟨before, behind⟩, hsplit, h⟩ := Option.map_eq_some_iff.1 h
    obtain ⟨rfl, rfl⟩ := Prod.mk.inj h
    refine ⟨congrArg some (String.toList_injective ?_), ?_⟩
    · simp [Text.eq_of_splitFirst hsplit]
    · rw [String.toList_ofList]
      exact Text.notMem_of_splitFirst hsplit
  · rintro ⟨rfl, hname⟩
    have hchars : (name ++ "=" ++ text).toList = name.toList ++ '=' :: text.toList := by simp
    rw [equation, Option.bind_some, Text.splitOnce, hchars, Text.splitFirst_append hname]
    simp

/-- The text that an argument gives for a column. -/
def textFor (column : String) (argument : Option String) : Option String :=
  (equation argument).bind fun (name, text) => if Text.strip name = column then some text else none

theorem textFor_of_gives {argument : Option String} {column text : String} (h : Gives argument column text)
    (other : String) : textFor other argument = if column = other then some text else none := by
  obtain ⟨name, rfl, hname, rfl⟩ := h
  rw [textFor, equation_eq_some.2 ⟨rfl, hname⟩, Option.bind_some]

theorem Gives.of_textFor {argument : Option String} {column text : String} (h : textFor column argument = some text) :
    Gives argument column text := by
  obtain ⟨⟨name, t⟩, hequation, h⟩ := Option.bind_eq_some_iff.1 h
  obtain ⟨hname, ht⟩ := Option.ite_none_right_eq_some.1 h
  obtain rfl := Option.some.inj ht
  obtain ⟨hargument, hmem⟩ := equation_eq_some.1 hequation
  exact ⟨name, hargument, hmem, hname⟩

/-- An argument gives one text for one column. -/
theorem Gives.unique {argument : Option String} {column text column' text' : String} (h : Gives argument column text)
    (h' : Gives argument column' text') : column = column' ∧ text = text' := by
  have hsome := textFor_of_gives h column'
  rw [textFor_of_gives h' column', if_pos rfl, eq_comm, Option.ite_none_right_eq_some] at hsome
  exact ⟨hsome.1, Option.some.inj hsome.2⟩

theorem Gives.strip_column {argument : Option String} {column text : String} (h : Gives argument column text) :
    Text.strip column = column := by
  obtain ⟨name, -, -, rfl⟩ := h
  exact Text.strip_strip name

/-! ## One more argument -/

/-- The texts of each column after one more argument. -/
abbrev Adding := List (String × List String) → Option String → Except Error (List (String × List String))

/-- An argument that is added gives a text for a column, and under the column stands then what comes of this text and of
what stood there before. Nothing else changes. -/
def Combines (add : Adding) (combine : Option (List String) → String → List String) : Prop :=
  ∀ es argument fs, add es argument = .ok fs →
    ∃ column text, Gives argument column text ∧ fs = Keyed.put es column (combine (Keyed.get? es column) text)

/-- A value is put behind those that are there. -/
theorem combines_addColumn : Combines addColumn fun before text => before.getD [] ++ [text] := by
  intro es argument fs h
  unfold addColumn at h
  split at h
  · cases h
  · rename_i name text hequation
    obtain ⟨hargument, hname⟩ := equation_eq_some.1 hequation
    exact ⟨Text.strip name, text, ⟨name, hargument, hname, rfl⟩, (Except.ok.inj h).symm⟩

/-- Numbers are put in the place of those that are there. -/
theorem combines_addNumeric : Combines addNumeric fun _ text => numbersOf text := by
  intro es argument fs h
  unfold addNumeric at h
  split at h
  · cases h
  · rename_i name text hequation
    obtain ⟨hargument, hname⟩ := equation_eq_some.1 hequation
    exact ⟨Text.strip name, text, ⟨name, hargument, hname, rfl⟩, (Except.ok.inj h).symm⟩

/-! ## All arguments -/

theorem foldlM_concat_eq_ok {ε α β : Type} {f : β → α → Except ε β} {as : List α} {a : α} {b c : β} :
    (as ++ [a]).foldlM f b = .ok c ↔ ∃ d, as.foldlM f b = .ok d ∧ f d a = .ok c := by
  rw [List.foldlM_append, bind_eq_ok]
  simp only [List.foldlM_cons, List.foldlM_nil, bind_pure]

/-- Each column stands once in a list, under its name without white space around it. -/
structure IsGathered (es : List (String × List String)) : Prop where
  nodup : (es.map Prod.fst).Nodup
  stripped : ∀ column ∈ es.map Prod.fst, Text.strip column = column

theorem IsGathered.put {es : List (String × List String)} (h : IsGathered es) {column : String}
    (hcolumn : Text.strip column = column) (texts : List String) : IsGathered (Keyed.put es column texts) where
  nodup := Keyed.nodup_keys_put h.nodup column texts
  stripped k hk := by
    rcases (Keyed.mem_keys_put es column texts k).1 hk with hk | rfl
    · exact h.stripped k hk
    · exact hcolumn

section

variable {add : Adding} {combine : Option (List String) → String → List String} (hadd : Combines add combine)
  {arguments : List (Option String)} {es : List (String × List String)} (h : arguments.foldlM add [] = .ok es)

include hadd h

/-- All arguments name columns, which are told apart. -/
theorem isGathered_of_run : IsGathered es ∧ ∀ argument ∈ arguments, ∃ column text, Gives argument column text := by
  induction arguments using List.reverseRecOn generalizing es with
  | nil =>
    obtain rfl := pure_eq_ok.1 h
    exact ⟨⟨List.nodup_nil, fun _ hk => nomatch hk⟩, fun _ ha => nomatch ha⟩
  | append_singleton arguments argument ih =>
    obtain ⟨fs, hfs, h⟩ := foldlM_concat_eq_ok.1 h
    obtain ⟨hgathered, hgiven⟩ := ih hfs
    obtain ⟨column, text, hgives, rfl⟩ := hadd _ _ _ h
    refine ⟨hgathered.put hgives.strip_column _, fun a ha => ?_⟩
    rcases List.mem_append.1 ha with ha | ha
    · exact hgiven a ha
    · obtain rfl := List.mem_singleton.1 ha
      exact ⟨column, text, hgives⟩

/-- What stands under a column comes of the texts of all arguments that name it, one after the other. -/
theorem get?_of_run (column : String) : Keyed.get? es column =
    (arguments.filterMap (textFor column)).foldl (fun before text => some (combine before text)) none := by
  induction arguments using List.reverseRecOn generalizing es with
  | nil =>
    obtain rfl := pure_eq_ok.1 h
    rfl
  | append_singleton arguments argument ih =>
    obtain ⟨fs, hfs, h⟩ := foldlM_concat_eq_ok.1 h
    obtain ⟨named, text, hgives, rfl⟩ := hadd _ _ _ h
    rw [List.filterMap_append, List.foldl_append, ← ih hfs]
    by_cases hnamed : named = column
    · subst hnamed
      rw [Keyed.get?_put_self, List.filterMap_cons_some (textFor_of_gives hgives named ▸ if_pos rfl)]
      rfl
    · rw [Keyed.get?_put_of_ne _ _ hnamed, List.filterMap_cons_none (textFor_of_gives hgives column ▸ if_neg hnamed)]
      rfl

end

/-- A column has the texts of all arguments that name it. -/
theorem getD_columnsOf {arguments : List (Option String)} {es : List (String × List String)}
    (h : columnsOf arguments = .ok es) (column : String) :
    (Keyed.get? es column).getD [] = arguments.filterMap (textFor column) := by
  rw [get?_of_run combines_addColumn h]
  generalize arguments.filterMap (textFor column) = texts
  induction texts using List.reverseRecOn with
  | nil => rfl
  | append_singleton texts text ih => rw [List.foldl_concat, Option.getD_some, ih]

/-- A column has the numbers of the last argument that names it. -/
theorem get?_numericOf {arguments : List (Option String)} {es : List (String × List String)}
    (h : numericOf arguments = .ok es) (column : String) :
    Keyed.get? es column = (arguments.filterMap (textFor column)).getLast?.map numbersOf := by
  rw [get?_of_run combines_addNumeric h]
  generalize arguments.filterMap (textFor column) = texts
  induction texts using List.reverseRecOn with
  | nil => rfl
  | append_singleton texts text ih => rw [List.foldl_concat, List.getLast?_concat, Option.map_some]

end Command

/-! ## Criteria from arguments -/

namespace Criteria

open Command

theorem filters_entriesValue {α : Type} (f : α → Value) (es : List (String × α)) :
    (entriesValue f es).filters = es.map fun e => (.text e.1, f e.2) := by
  cases es with
  | nil => rfl
  | cons e es => rfl

/-- The values that are gathered for a column are its literals, of equal ones the first. -/
theorem get?_of_gatheredColumns {es : List (String × List String)} (hes : IsGathered es)
    {fs : List (String × List Value)} (h : readColumns (entriesValue valuesValue es) = .ok fs) {column : String}
    {texts : List String} (htexts : Keyed.get? es column = some texts) :
    Keyed.get? fs column = some ((firstsBy (· == ·) texts).map .text) := by
  have hfs : fs = Keyed.ofList (es.map fun e => (e.1, Value.firsts (e.2.map .text))) := by
    rw [readColumns_eq_ok h, filters_entriesValue, List.map_map]
    congr 1
    refine List.map_congr_left fun e he => Prod.ext ?_ rfl
    exact hes.stripped e.1 (List.mem_map_of_mem he)
  rw [hfs, ← Value.firsts_texts]
  refine Keyed.get?_ofList_of_nodup ?_ (List.mem_map.2 ⟨_, Keyed.mem_of_get? htexts, rfl⟩)
  rw [List.map_map]
  exact hes.nodup

/-- The numbers of a column are read as its numeric filter. -/
theorem get?_of_gatheredNumeric {es : List (String × List String)} (hes : IsGathered es) {range : Option (Double × Double)}
    {tolerance : Value} {fs : List (String × NumericFilter)}
    (h : readNumeric tolerance (entriesValue (numericValue range) es) = .ok fs) {column : String} {numbers : List String}
    (hnumbers : Keyed.get? es column = some numbers) :
    ∃ f, Keyed.get? fs column = some f ∧ numericFilter tolerance column (numericValue range numbers) = .ok f := by
  obtain ⟨pairs, hread, rfl⟩ := members_of_readNumeric h
  have hkeys : pairs.map Prod.fst = es.map Prod.fst := by
    rw [keys_of_forall₂ (hread.imp fun e p hp => hp.1), filters_entriesValue, List.map_map]
    exact List.map_congr_left fun e he => hes.stripped e.1 (List.mem_map_of_mem he)
  have hmem : (Value.text column, numericValue range numbers) ∈ (entriesValue (numericValue range) es).filters := by
    rw [filters_entriesValue]
    exact List.mem_map.2 ⟨_, Keyed.mem_of_get? hnumbers, rfl⟩
  obtain ⟨p, hp, hname, hf⟩ := exists_of_mem_left hread hmem
  have hcolumn : p.1 = column := (columnName_eq_ok hname).trans
    (hes.stripped column (List.mem_map_of_mem (Keyed.mem_of_get? hnumbers)))
  exact ⟨p.2, hcolumn ▸ Keyed.get?_ofList_of_nodup (hkeys ▸ hes.nodup) hp, hf⟩

/-- The centres of a filter are the numbers that texts spell, of equal ones the first. -/
structure IsCentred (f : NumericFilter) (numbers : List String) : Prop where
  kept : ∀ number ∈ numbers, ∃ x d : Double, Numeral.double? number.toList = some x ∧ .float d ∈ f.centres ∧
    Value.same (.float d) (.float x) = true
  given : ∀ centre ∈ f.centres, ∃ number ∈ numbers, ∃ x, Numeral.double? number.toList = some x ∧ centre = .float x

theorem double?_of_finite {role : NumberRole} {column s : String} {d : Double} (h : finite role column (.text s) = .ok d) :
    Numeral.double? s.toList = some d := by
  simp only [finite, Value.double?] at h
  split at h
  · cases h
  · rename_i x hx
    split at h
    · rw [hx, Except.ok.inj h]
    · cases h

theorem isCentred_of_numericFilter {tolerance : Value} {column : String} {range : Option (Double × Double)}
    {numbers : List String} {f : NumericFilter}
    (h : numericFilter tolerance column (numericValue range numbers) = .ok f) : IsCentred f numbers := by
  obtain ⟨ds, b, hds, -, rfl⟩ := numericFilter_eq_ok (fun _ _ _ hfilter => by cases hfilter) h
  have hvalues : centreValues (centresAndBounds (numericValue range numbers)).1 = numbers.map .text := rfl
  rw [hvalues, List.forall₂_map_left_iff] at hds
  refine ⟨fun number hnumber => ?_, fun centre hcentre => ?_⟩
  · obtain ⟨x, hx, hread⟩ := exists_of_mem_left hds hnumber
    obtain ⟨d, hd, hsame⟩ := exists_same_kept hx
    exact ⟨x, d, double?_of_finite hread, hd, hsame⟩
  · obtain ⟨x, hx, rfl⟩ := List.mem_map.1 (mem_of_mem_firstsBy hcentre)
    obtain ⟨number, hnumber, hread⟩ := exists_of_mem_right hds hx
    exact ⟨number, hnumber, x, double?_of_finite hread, rfl⟩

end Criteria

namespace Command

open Criteria

/-- What becomes of the arguments of the two options. -/
theorem parts_eq_ok {a : Arguments} {p : Parts} (h : a.parts = .ok p) : ∃ columns numeric,
    columnsOf a.columns = .ok columns ∧ numericOf a.numeric = .ok numeric ∧
      p.columns = entriesValue valuesValue columns ∧ p.numeric = entriesValue (numericValue a.range) numeric := by
  obtain ⟨_, -, h⟩ := bind_eq_ok.1 h
  obtain ⟨_, -, h⟩ := bind_eq_ok.1 h
  obtain ⟨columns, hcolumns, h⟩ := bind_eq_ok.1 h
  obtain ⟨numeric, hnumeric, h⟩ := bind_eq_ok.1 h
  obtain rfl := pure_eq_ok.1 h
  exact ⟨columns, numeric, hcolumns, hnumeric, rfl, rfl⟩

/-- The value that an argument gives for a column is among the literals of the filter on the column. -/
theorem exists_literal {arguments : List (Option String)} {es : List (String × List String)}
    (hes : columnsOf arguments = .ok es) {fs : List (String × List Value)}
    (hfs : readColumns (entriesValue valuesValue es) = .ok fs) {argument : Option String} (h : argument ∈ arguments) :
    ∃ column text literals, Gives argument column text ∧ Keyed.get? fs column = some literals ∧ .text text ∈ literals := by
  obtain ⟨hgathered, hgiven⟩ := isGathered_of_run combines_addColumn hes
  obtain ⟨column, text, hgives⟩ := hgiven argument h
  have htext : text ∈ (Keyed.get? es column).getD [] := by
    rw [getD_columnsOf hes, List.mem_filterMap]
    exact ⟨argument, h, textFor_of_gives hgives column ▸ if_pos rfl⟩
  cases hget : Keyed.get? es column with
  | none =>
    rw [hget] at htext
    cases htext
  | some texts =>
    rw [hget, Option.getD_some] at htext
    refine ⟨column, text, _, hgives, get?_of_gatheredColumns hgathered hfs hget, List.mem_map_of_mem ?_⟩
    obtain ⟨t, ht, hsame⟩ := exists_mem_firstsBy beq_self_eq_true htext
    exact beq_iff_eq.1 hsame ▸ ht

/-- The column that an argument with numbers names has a numeric filter, whose centres are these numbers if no later
argument names the column. -/
theorem exists_numericFilter {front back : List (Option String)} {argument : Option String}
    {es : List (String × List String)} (hes : numericOf (front ++ argument :: back) = .ok es)
    {range : Option (Double × Double)} {tolerance : Value} {fs : List (String × NumericFilter)}
    (hfs : readNumeric tolerance (entriesValue (numericValue range) es) = .ok fs) :
    ∃ column text f, Gives argument column text ∧ Keyed.get? fs column = some f ∧
      ((∀ later ∈ back, ∀ t, ¬ Gives later column t) → IsCentred f (numbersOf text)) := by
  obtain ⟨hgathered, hgiven⟩ := isGathered_of_run combines_addNumeric hes
  obtain ⟨column, text, hgives⟩ := hgiven argument (List.mem_append_right _ List.mem_cons_self)
  have hlast : Keyed.get? es column = ((text :: back.filterMap (textFor column)).getLast?).map numbersOf := by
    rw [get?_numericOf hes, List.filterMap_append,
      List.filterMap_cons_some (textFor_of_gives hgives column ▸ if_pos rfl),
      List.getLast?_append_of_ne_nil _ (List.cons_ne_nil _ _)]
  obtain ⟨f, hf, hfilter⟩ := get?_of_gatheredNumeric hgathered hfs
    (hlast.trans (congrArg _ (List.getLast?_eq_some_getLast (List.cons_ne_nil _ _))))
  refine ⟨column, text, f, hgives, hf, fun hback => ?_⟩
  have hnone : back.filterMap (textFor column) = [] := by
    rw [List.filterMap_eq_nil_iff]
    intro later hlater
    rw [Option.eq_none_iff_forall_ne_some]
    exact fun t ht => hback later hlater t (.of_textFor ht)
  rw [hnone] at hfilter
  exact isCentred_of_numericFilter hfilter

/-- Of every argument with a value for a column, the value is among the literals of the filter on that column. Every
argument with numbers names a column with a numeric filter, and the centres of this filter are the numbers of the last
argument that names the column. -/
theorem kept_of_build {a : Arguments} {p : Parts} (hp : a.parts = .ok p) {tolerance : Value} {c : Criteria}
    (hc : Criteria.build { p with tolerance } = .ok c) :
    (∀ argument ∈ a.columns, ∃ column text literals, Gives argument column text ∧
      Keyed.get? c.columnFilters column = some literals ∧ .text text ∈ literals) ∧
    ∀ front argument back, a.numeric = front ++ argument :: back → ∃ column text f, Gives argument column text ∧
      Keyed.get? c.numericFilters column = some f ∧
      ((∀ later ∈ back, ∀ t, ¬ Gives later column t) → IsCentred f (numbersOf text)) := by
  obtain ⟨columns, numeric, hcolumns, hnumeric, hpc, hpn⟩ := parts_eq_ok hp
  obtain ⟨-, -, hreadColumns, hreadNumeric⟩ := build_eq_ok hc
  refine ⟨fun argument hargument => ?_, fun front argument back harguments => ?_⟩
  · exact exists_literal hcolumns (hpc ▸ hreadColumns) hargument
  · exact exists_numericFilter (harguments ▸ hnumeric) (hpn ▸ hreadNumeric)

/-! ### Two values and two lists of numbers for one column -/

/-- The arguments of a search that names each of two columns twice. -/
def Arguments.repeated : Arguments where
  table := .value "events"
  columns := [some "event_tag=walk", some " event_tag =run=fast"]
  numeric := [some "event_count=1", some "event_count=5, 7"]

/-- The criteria of these arguments, and whether one is none of the centres. -/
theorem build_repeated : ∃ p c f, Arguments.repeated.parts = .ok p ∧
    Criteria.build { p with tolerance := .float (Double.zero false) } = .ok c ∧
    Keyed.get? c.numericFilters "event_count" = some f ∧
    (f.centres.all fun centre => (Numeral.double? "1".toList).all fun x => !centre.same (.float x)) = true := by
  have hrun : (do
      let p ← Arguments.repeated.parts
      let c ← Criteria.build { p with tolerance := .float (Double.zero false) }
      return (Keyed.get? c.numericFilters "event_count").map fun f => f.centres.all fun centre =>
        (Numeral.double? "1".toList).all fun x => !centre.same (.float x) : Except Error (Option Bool)).toOption =
          some (some true) := by
    decide +kernel
  obtain ⟨p, hp, hrun⟩ := bind_eq_ok.1 (toOption_eq_some.1 hrun)
  obtain ⟨c, hc, hrun⟩ := bind_eq_ok.1 hrun
  obtain ⟨f, hf, hcentres⟩ := Option.map_eq_some_iff.1 (pure_eq_ok.1 hrun)
  exact ⟨p, c, f, hp, hc, hf, hcentres⟩

/-- Both values are literals, and the numbers of the second argument are centres. -/
theorem kept_repeated : ∃ p c f literals, Arguments.repeated.parts = .ok p ∧
    Criteria.build { p with tolerance := .float (Double.zero false) } = .ok c ∧
    Keyed.get? c.columnFilters "event_tag" = some literals ∧ .text "run=fast" ∈ literals ∧
    Keyed.get? c.numericFilters "event_count" = some f ∧ IsCentred f ["5", "7"] := by
  obtain ⟨p, c, -, hp, hc, -, -⟩ := build_repeated
  obtain ⟨hcolumns, hnumeric⟩ := kept_of_build hp hc
  obtain ⟨column, text, literals, hgives, hliterals, htext⟩ :=
    hcolumns (some " event_tag =run=fast") (by simp [Arguments.repeated])
  have htag : Gives (some " event_tag =run=fast") "event_tag" "run=fast" := ⟨" event_tag ", by decide, by decide, by decide⟩
  obtain ⟨rfl, rfl⟩ := hgives.unique htag
  obtain ⟨column, text, f, hgives, hf, hcentred⟩ := hnumeric [some "event_count=1"] (some "event_count=5, 7") [] rfl
  have hcount : Gives (some "event_count=5, 7") "event_count" "5, 7" := ⟨"event_count", by decide, by decide, by decide⟩
  obtain ⟨rfl, rfl⟩ := hgives.unique hcount
  exact ⟨p, c, f, literals, hp, hc, hliterals, htext, hf, hcentred (by simp)⟩

/-- The number of the first argument is no centre. -/
theorem lost_repeatedNumber : ∃ p c f, Arguments.repeated.parts = .ok p ∧
    Criteria.build { p with tolerance := .float (Double.zero false) } = .ok c ∧
    some "event_count=1" ∈ Arguments.repeated.numeric ∧ Gives (some "event_count=1") "event_count" "1" ∧
    "1" ∈ numbersOf "1" ∧ Keyed.get? c.numericFilters "event_count" = some f ∧
    ∀ x, Numeral.double? "1".toList = some x → ∀ centre ∈ f.centres, centre.same (.float x) = false := by
  obtain ⟨p, c, f, hp, hc, hf, hcentres⟩ := build_repeated
  refine ⟨p, c, f, hp, hc, List.mem_cons_self, ⟨"event_count", by decide, by decide, by decide⟩, by decide, hf, ?_⟩
  intro x hx centre hcentre
  have hdiffers := List.all_eq_true.1 hcentres centre hcentre
  rw [hx, Option.all_some, Bool.not_eq_true'] at hdiffers
  exact hdiffers

end Command

end FacetSearch

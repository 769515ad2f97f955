import FacetSearch.Proofs.Answers
import FacetSearch.Proofs.Defects
import FacetSearch.Proofs.GroupPattern
import FacetSearch.Proofs.Regex.Groups
/-!
# Groups of regular expressions

Where literals are regular expressions, those of a group are joined into one. Each of them is read in the joined
expression as it is read alone, so that the joined one is an expression too, and it is found in those texts in which one
of its members is (`found_joined_iff`). A group then selects what its members select together.
-/

namespace FacetSearch

open Sql Regex

/-- The text is an expression whose bracket expressions are such that may stand there. -/
def Regex.IsExpression (isBracket : List Char → Prop) (text : String) (e : Expression) : Prop :=
  Expression.read text.toList = some e ∧ ∀ inside ∈ e.insides, isBracket inside

/-- A server that compares characters in a way matches texts, and nothing else, by looking for expressions in them. -/
def Sql.Server.Searches (s : Server) (k : Comparison) : Prop := ∀ v pattern e, Expression.read pattern.toList = some e →
  (s.isMatch v (.text pattern) = true ↔ ∃ text : String, v = .text text ∧ k.Found e text.toList)

/-! ## Joined expressions -/

section

variable {patterns : List String} {isBracket : List Char → Prop}

/-- Joined expressions are an expression, which is found where one of them is. -/
theorem joined_of_expressions (hne : patterns ≠ []) (h : ∀ p ∈ patterns, ∃ e, IsExpression isBracket p e) :
    ∃ e, IsExpression isBracket (Pattern.joined patterns) e ∧ ∀ (k : Comparison) (text : List Char),
      k.Found e text ↔ ∃ p ∈ patterns, ∃ a, Expression.read p.toList = some a ∧ k.Found a text := by
  obtain ⟨es, hes⟩ := exists_forall₂ h
  have hread : List.Forall₂ (fun t e => Expression.read t = some e) (patterns.map String.toList) es :=
    List.forall₂_map_left_iff.2 (hes.imp fun p e he => he.1)
  have hne' : es ≠ [] := by
    rintro rfl
    exact hne (List.forall₂_nil_right_iff.1 hes)
  refine ⟨.joined es, ⟨?_, ?_⟩, ?_⟩
  · rw [Pattern.joined, String.toList_ofList, read_joined hne' hread]
  · intro inside hinside
    rw [Expression.insides_joined] at hinside
    obtain ⟨e, he, hinside⟩ := List.mem_flatMap.1 hinside
    obtain ⟨p, -, hp⟩ := exists_of_mem_right hes he
    exact hp.2 inside hinside
  · intro k text
    rw [Comparison.found_joined hne']
    refine (exists_mem_iff hes fun p e he => ?_).symm
    simp [he.1]

theorem isMatch_joined (hne : patterns ≠ []) (h : ∀ p ∈ patterns, ∃ e, IsExpression isBracket p e) {s : Server}
    {k : Comparison} (hs : s.Searches k) (v : Value) :
    s.isMatch v (.text (Pattern.joined patterns)) = true ↔ ∃ p ∈ patterns, s.isMatch v (.text p) = true := by
  obtain ⟨e, he, hfound⟩ := joined_of_expressions hne h
  rw [hs v _ e he.1]
  constructor
  · rintro ⟨text, rfl, ht⟩
    obtain ⟨p, hp, a, ha, ht⟩ := (hfound k text.toList).1 ht
    exact ⟨p, hp, (hs _ p a ha).2 ⟨text, rfl, ht⟩⟩
  · rintro ⟨p, hp, hm⟩
    obtain ⟨a, ha⟩ := h p hp
    obtain ⟨text, rfl, ht⟩ := (hs v p a ha.1).1 hm
    exact ⟨text, rfl, (hfound k text.toList).2 ⟨p, hp, a, ha.1, ht⟩⟩

end

/-! ## Selections of groups -/

namespace Selection

/-- The fragment of a selection is a statement of its own. -/
theorem answer_proper {sel : Selection} (h : sel.Proper) (s : Server) (db : Sql.Database) :
    sel.fragment.answer s db = some ((Query.ofSelection sel).rows s db []) := by
  have hends : Test.Ends [] := ends_limitTokens none
  have hread {n : Nat} (hn : 3 * sel.fragment.tokens.length ≤ n) : Query.readSelect n sel.fragment.tokens =
      some (.select (.term (.ofSource sel.source) .nil) (.ofSource sel.source) (.ofCondition sel.condition), []) := by
    simpa using Sql.Selection.readSelect_fragment h hn hends
  obtain ⟨n, hn⟩ : ∃ n, 4 * sel.fragment.tokens.length = n + 1 := by
    cases htokens : sel.fragment.tokens with
    | nil =>
      -- nothing is no selection
      have hnone := hread (n := 0) (by simp [htokens])
      rw [htokens] at hnone
      simp [Query.readSelect] at hnone
    | cons t ts => exact ⟨4 * ts.length + 3, by simp only [List.length_cons]; omega⟩
  have hquery : Query.read (n + 1) sel.fragment.tokens = some (Query.ofSelection sel, []) := by
    rw [Query.read, hread (by omega)]
    rfl
  rw [Fragment.answer, Statement.read, hn, hquery]
  rfl

/-- The selection of a group of expressions. -/
def ofExpressions (kind : GroupKind) (table : Value) (group : Group) : Selection :=
  ⟨.group kind, .both (.matching kind.valueColumn (textParam (Pattern.joined group)))
    (.foldedEqual kind.classColumn ⟨table, .string⟩)⟩

theorem ofGroup_regex {catalog : Catalog} {kind : GroupKind} {table : Value} {group : Group} {mode : Option MatchMode}
    {sel : Selection} (h : ofGroup catalog kind table (.list (group.map .text)) mode true = .ok sel) :
    sel = ofExpressions kind table group := by
  obtain ⟨-, c, hc, rfl⟩ := ofGroup_eq_ok h
  cases kind with
  | tags | attributes =>
    cases hc
    rfl

/-- What a server answers to the selection of a group of expressions. -/
theorem answer_ofGroup_regex {catalog : Catalog} {kind : GroupKind} {table : Value} {group : Group}
    {mode : Option MatchMode} {sel : Selection} (h : ofGroup catalog kind table (.list (group.map .text)) mode true = .ok sel)
    (s : Server) (db : Sql.Database) :
    sel.fragment.answer s db = some ((Query.ofSelection (ofExpressions kind table group)).rows s db []) := by
  rw [answer_proper (proper_of_ofGroup h), ofGroup_regex h]

theorem answer_ofGroup_expression {catalog : Catalog} {kind : GroupKind} {table : Value} {p : String}
    {mode : Option MatchMode} {sel : Selection} (h : ofGroup catalog kind table (.list [.text p]) mode true = .ok sel)
    (s : Server) (db : Sql.Database) :
    sel.fragment.answer s db = some ((Query.ofSelection (ofExpressions kind table [p])).rows s db []) := by
  have hgroup : ofGroup catalog kind table (.list ([p].map .text)) mode true = .ok sel := h
  exact answer_ofGroup_regex hgroup s db

/-- A group of expressions can be selected by if each of its members can. -/
theorem exists_ofGroup_regex {catalog : Catalog} {kind : GroupKind} {table : Value} {group : Group}
    {mode : Option MatchMode} (hne : group ≠ []) :
    (∃ sel, ofGroup catalog kind table (.list (group.map .text)) mode true = .ok sel) ↔
      ∀ p ∈ group, ∃ one, ofGroup catalog kind table (.list [.text p]) mode true = .ok one := by
  have hall (group : Group) := (ofGroup_reports catalog kind table group mode true).exists_ok_iff
  have hone (p : String) := hall [p]
  simp only [List.map_cons, List.map_nil] at hone
  simp only [hall, hone, Criteria.groupDefects, List.forall_mem_append, List.forall_mem_map, List.forall_mem_singleton,
    List.isEmpty_cons, List.isEmpty_eq_false_iff]
  constructor
  · rintro ⟨⟨-, hblank⟩, hrest⟩ p hp
    exact ⟨⟨trivial, hblank p hp⟩, hrest⟩
  · intro h
    obtain ⟨p, hp⟩ := List.exists_mem_of_ne_nil group hne
    exact ⟨⟨hne, fun p hp => (h p hp).1.2⟩, (h p hp).2⟩

/-- The rows of a group are those of its members. -/
theorem mem_rows_ofExpressions {patterns : List String} {isBracket : List Char → Prop} (hne : patterns ≠ [])
    (h : ∀ p ∈ patterns, ∃ e, IsExpression isBracket p e) {s : Server} {k : Comparison} (hs : s.Searches k)
    (db : Sql.Database) (kind : GroupKind) (table : Value) (row : Row) :
    row ∈ (Query.ofSelection (ofExpressions kind table patterns)).rows s db [] ↔
      ∃ p ∈ patterns, row ∈ (Query.ofSelection (ofExpressions kind table [p])).rows s db [] := by
  have hholds (scope : Scope) : (Test.ofCondition (ofExpressions kind table patterns).condition).holds s db scope = true ↔
      ∃ p ∈ patterns, (Test.ofCondition (ofExpressions kind table [p]).condition).holds s db scope = true := by
    have hone (p : String) : Pattern.joined [p] = p := String.ofList_toList
    simp only [ofExpressions, Test.ofCondition, Test.holds, Term.eval, textParam, Server.compare, Bool.and_eq_true,
      hone, isMatch_joined hne h hs]
    constructor
    · rintro ⟨⟨hv, p, hp, hm⟩, hclass⟩
      exact ⟨p, hp, ⟨hv, hm⟩, hclass⟩
    · rintro ⟨p, hp, ⟨hv, hm⟩, hclass⟩
      exact ⟨⟨hv, p, hp, hm⟩, hclass⟩
  simp only [Query.ofSelection, Query.rows, arranged, List.isEmpty_nil, if_true, List.mem_map, List.mem_filter, hholds]
  constructor
  · rintro ⟨frame, ⟨hframe, p, hp, ht⟩, rfl⟩
    exact ⟨p, hp, frame, ⟨hframe, ht⟩, rfl⟩
  · rintro ⟨p, hp, frame, ⟨hframe, ht⟩, rfl⟩
    exact ⟨frame, ⟨hframe, p, hp, ht⟩, rfl⟩

end Selection

/-- Expressions that are joined are an expression, and it is found in just those texts in which one of them is. A group of
expressions can be selected by if each of its members can, and selects the rows that one of them selects. -/
theorem found_joined_iff {patterns : List String} {isBracket : List Char → Prop} (hne : patterns ≠ [])
    (h : ∀ p ∈ patterns, ∃ e, IsExpression isBracket p e) :
    (∃ e, IsExpression isBracket (Pattern.joined patterns) e ∧ ∀ (k : Comparison) (text : List Char),
      k.Found e text ↔ ∃ p ∈ patterns, ∃ a, Expression.read p.toList = some a ∧ k.Found a text) ∧
    ∀ (catalog : Catalog) (kind : GroupKind) (table : Value) (mode : Option MatchMode),
      ((∃ sel, Selection.ofGroup catalog kind table (.list (patterns.map .text)) mode true = .ok sel) ↔
        ∀ p ∈ patterns, ∃ one, Selection.ofGroup catalog kind table (.list [.text p]) mode true = .ok one) ∧
      ∀ sel, Selection.ofGroup catalog kind table (.list (patterns.map .text)) mode true = .ok sel →
        ∀ (k : Comparison) (s : Server), s.Searches k → ∀ db : Sql.Database,
          ∃ rows, sel.fragment.answer s db = some rows ∧ ∀ row, row ∈ rows ↔
            ∃ p ∈ patterns, ∃ one alone, Selection.ofGroup catalog kind table (.list [.text p]) mode true = .ok one ∧
              one.fragment.answer s db = some alone ∧ row ∈ alone := by
  refine ⟨joined_of_expressions hne h, fun catalog kind table mode => ⟨Selection.exists_ofGroup_regex hne, ?_⟩⟩
  intro sel hsel k s hs db
  refine ⟨_, Selection.answer_ofGroup_regex hsel s db, fun row => ?_⟩
  rw [Selection.mem_rows_ofExpressions hne h hs]
  constructor
  · rintro ⟨p, hp, hrow⟩
    obtain ⟨one, hone⟩ := (Selection.exists_ofGroup_regex hne).1 ⟨sel, hsel⟩ p hp
    exact ⟨p, hp, one, _, hone, Selection.answer_ofGroup_expression hone s db, hrow⟩
  · rintro ⟨p, hp, one, alone, hone, halone, hrow⟩
    rw [Selection.answer_ofGroup_expression hone, Option.some.injEq] at halone
    exact ⟨p, hp, halone ▸ hrow⟩

/-! ### Bars, brackets and a parenthesis -/

open Classical in
/-- A server that finds expressions in texts, with letters of both cases for the same. -/
noncomputable def Sql.Server.searching : Server :=
  { Server.byText with
    isMatch := fun v p => decide (∃ text pattern e, v = .text text ∧ p = .text pattern ∧
      Expression.read pattern.toList = some e ∧ Pattern.caseless.Found e text.toList) }

theorem Sql.Server.searches_searching : Server.searching.Searches Pattern.caseless := by
  intro v pattern e he
  simp only [Server.searching, decide_eq_true_eq]
  constructor
  · rintro ⟨text, pattern', e', rfl, hp, he', hfound⟩
    obtain rfl := Value.text.inj hp
    obtain rfl := Option.some.inj (he.symm.trans he')
    exact ⟨text, rfl, hfound⟩
  · rintro ⟨text, rfl, hfound⟩
    exact ⟨text, pattern, e, rfl, rfl, he, hfound⟩

/-- A catalog of attributes. -/
def Catalog.noted : Catalog :=
  .ofLists [("attributes", [("attribute_entity_uuid", some .uuid), ("attribute_entity_class", some .string),
    ("attribute_value", some .string)])] []

/-- A database of one attribute. -/
def Sql.Database.noted : Database where
  rows
    | "attributes" => [[("attribute_entity_uuid", .text "1"), ("attribute_entity_class", .text "events"),
        ("attribute_value", .text "zB")]]
    | _ => []

/-- Expressions with a bar of their own, with brackets around a bar and a parenthesis, and with an escaped one. -/
def Pattern.noted : List String := ["^a|b", "[|)]x\\("]

theorem found_noted : (∃ e, IsExpression (· ≠ []) (Pattern.joined Pattern.noted) e ∧
      Pattern.caseless.Found e "zB".toList ∧ ¬Pattern.caseless.Found e []) ∧
    ∃ sel rows, Selection.ofGroup .noted .attributes (.text "events") (.list (Pattern.noted.map .text)) none true = .ok sel ∧
      sel.fragment.answer .searching .noted = some rows ∧ [("attribute_entity_uuid", .text "1")] ∈ rows := by
  have ha : Expression.read "^a|b".toList =
      some (.either (.cat (.cat .nothing .start) (.char 'a')) (.cat .nothing (.char 'b'))) := rfl
  have hb : Expression.read "[|)]x\\(".toList =
      some (.cat (.cat (.cat .nothing (.brackets ['|', ')'])) (.char 'x')) (.char '(')) := rfl
  have hall : ∀ p ∈ Pattern.noted, ∃ e, IsExpression (· ≠ []) p e := by
    intro p hp
    rcases List.mem_pair.1 hp with rfl | rfl
    · exact ⟨_, ha, by simp [Expression.insides]⟩
    · exact ⟨_, hb, by simp [Expression.insides]⟩
  obtain ⟨⟨e, he, hfound⟩, hgroup⟩ := found_joined_iff (show Pattern.noted ≠ [] by simp [Pattern.noted]) hall
  have hzb : Pattern.caseless.Found (.either (.cat (.cat .nothing .start) (.char 'a')) (.cat .nothing (.char 'b')))
      "zB".toList :=
    ⟨['z'], ['B'], [], rfl, .inr (Comparison.matches_nothing_cat.2 ⟨'B', rfl, rfl⟩)⟩
  refine ⟨⟨e, he, ?_, ?_⟩, ?_⟩
  · exact (hfound _ _).2 ⟨"^a|b", List.mem_cons_self, _, ha, hzb⟩
  · rw [hfound]
    rintro ⟨p, hp, c, hc, pre, mid, post, htext, hmatch⟩
    obtain ⟨rfl, rfl, rfl⟩ : pre = [] ∧ mid = [] ∧ post = [] := by simpa using htext
    rcases List.mem_pair.1 hp with rfl | rfl
    · obtain rfl := Option.some.inj (ha.symm.trans hc)
      simp [Comparison.Matches] at hmatch
    · obtain rfl := Option.some.inj (hb.symm.trans hc)
      simp [Comparison.Matches] at hmatch
  · obtain ⟨sel, hsel⟩ : ∃ sel, Selection.ofGroup .noted .attributes (.text "events")
        (.list (Pattern.noted.map .text)) none true = .ok sel := ⟨_, rfl⟩
    obtain ⟨rows, hrows, hmem⟩ := (hgroup .noted .attributes (.text "events") none).2 sel hsel _ _
      Server.searches_searching .noted
    obtain ⟨one, hone⟩ : ∃ one, Selection.ofGroup .noted .attributes (.text "events") (.list [.text "^a|b"]) none true =
      .ok one := ⟨_, rfl⟩
    refine ⟨sel, rows, hsel, hrows, (hmem _).2 ⟨"^a|b", List.mem_cons_self, one, _, hone,
      Selection.answer_ofGroup_expression hone _ _, ?_⟩⟩
    have hmatch : Server.searching.isMatch (.text "zB") (.text "^a|b") = true :=
      (Server.searches_searching _ _ _ ha).2 ⟨"zB", rfl, hzb⟩
    simp only [Query.ofSelection, Query.rows, arranged, List.isEmpty_nil, if_true, List.mem_map, List.mem_filter]
    refine ⟨_, ⟨List.mem_map_of_mem List.mem_cons_self, ?_⟩, rfl⟩
    exact Bool.and_eq_true_iff.2 ⟨hmatch, rfl⟩

end FacetSearch

import FacetSearch.Proofs.Sql.Reading.Search
/-!
# Extractions are read as what they are meant to be

An extraction is a selection from selected base rows, each of which has the keys of its related rows beside it
(`Query.related` inside `Query.base` inside `Statement.ofExtraction`). Its text is cut into its clauses
(`tokens_extraction`), and these are read from the inside out (`read_extraction`).
-/

namespace FacetSearch.Sql

open FacetSearch.Extraction

/-! ## What extractions are meant to be -/

/-- The test that a row is related to a base row: another row of the same entity that starts in the window. -/
def Test.relation (n : Names) (lower upper : Value) : Test :=
  .and (.differ (.ofTable "related" n.key) (.ofTable "base" n.key))
    (.and (.equal (.ofTable "related" n.entity) (.ofTable "base" n.entity))
      (.between (.ofTable "related" n.start) (.sum (.ofTable "base" n.start) (.value lower))
        (.sum (.ofTable "base" n.stop) (.value upper))))

/-- The test for related rows that are in all of several selections. -/
def Test.related (n : Names) (outer : List Selection) (lower upper : Value) : Test :=
  match outer with
  | [] => .relation n lower upper
  | s :: ss => .and (.within (.ofTable "related" n.key) (.ofSelections s ss)) (.relation n lower upper)

/-- The keys of the rows that are related to a base row, in the order in which they start. -/
def Query.related (n : Names) (outer : List Selection) (lower upper : Value) : Query :=
  .select (.term (.ofTable "related" n.key) .nil) (.table n.table "related") (.related n outer lower upper)
    [.ofTable "related" n.start]

/-- The base rows with the keys of their related rows. -/
def Query.base (n : Names) (inner outer : List Selection) (lower upper : Value) : Query :=
  .select (.allOf "base" (.array (.related n outer lower upper) "extracted" .nil)) (.table n.table "base")
    (.inSelections (.ofTable "base" n.key) inner) []

/-- The statement that an extraction is. -/
def Statement.ofExtraction (n : Names) (inner outer : List Selection) (lower upper : Value) (limit : Option Value) :
    Statement where
  query := .select (.all .nil) (.query (.base n inner outer lower upper) "extraction")
    (.above (.cardinality (.column "extracted")) (.value (.int 0))) [.column n.entity, .column n.start]
  limit := limit.map .value

/-! ## Tokens of extractions -/

/-- The tokens in front of the test for related rows. -/
def openingTokens (n : Names) : List Token :=
  [.keyword .select, .sign .star, .keyword .from, .sign .left, .keyword .select, .name "base", .sign .dot,
    .sign .star, .sign .comma, .keyword .array, .sign .left, .keyword .select, .name "related", .sign .dot,
    .name n.key, .keyword .from, .name n.table, .keyword .as, .name "related", .keyword .where]

/-- The tokens of the relation to a base row. -/
def relationTokens (n : Names) (lower upper : Value) : List Token :=
  [.name "related", .sign .dot, .name n.key, .sign .less, .sign .greater, .name "base", .sign .dot, .name n.key,
    .keyword .and, .name "related", .sign .dot, .name n.entity, .sign .equal, .name "base", .sign .dot, .name n.entity,
    .keyword .and, .name "related", .sign .dot, .name n.start, .keyword .between,
    .name "base", .sign .dot, .name n.start, .sign .plus, .value lower, .keyword .and,
    .name "base", .sign .dot, .name n.stop, .sign .plus, .value upper]

/-- The tokens of the test for related rows. -/
def relatedTokens (n : Names) (outer : List Selection) (lower upper : Value) : List Token :=
  restrictionTokens [.name "related", .sign .dot, .name n.key, .keyword .in, .sign .left] [.sign .right, .keyword .and]
    outer ++ relationTokens n lower upper

/-- The tokens between the test for related rows and that for base rows. -/
def sourceTokens (n : Names) : List Token :=
  [.keyword .order, .keyword .by, .name "related", .sign .dot, .name n.start, .sign .right, .keyword .as,
    .name "extracted", .keyword .from, .name n.table, .keyword .as, .name "base"]

/-- The tokens of the test for base rows. -/
def baseTokens (n : Names) (inner : List Selection) : List Token :=
  restrictionTokens [.keyword .where, .name "base", .sign .dot, .name n.key, .keyword .in, .sign .left] [.sign .right]
    inner

/-- The tokens behind the test for base rows. -/
def closingTokens (n : Names) : List Token :=
  [.sign .right, .keyword .as, .name "extraction", .keyword .where, .name "cardinality", .sign .left,
    .name "extracted", .sign .right, .sign .greater, .number 0, .keyword .order, .keyword .by, .name n.entity,
    .sign .comma, .name n.start]

/-- A name with text around it. -/
theorem tokens_around {before name after : String} (h : IsName name) (hb : endsWord before = false)
    (ha : startsWord after = false) : tokens (before ++ name ++ after) = tokens before ++ .name name :: tokens after := by
  rw [tokens_append (.inr ha), tokens_append (.inl hb), tokens_name h, List.append_assoc]
  rfl

theorem endsWord_append_restriction {text closing : String} (ht : endsWord text = false) (hc : endsWord closing = false)
    (opening : String) (sets : List Fragment) :
    endsWord (text ++ (Fragment.restriction opening sets closing).text) = false := by
  unfold Fragment.restriction
  split
  · simpa [Fragment.empty] using ht
  · exact endsWord_append _ (endsWord_append _ hc)

section

variable {n : Names} (hn : n.Proper)

include hn

theorem tokens_opening : tokens ("SELECT * FROM (SELECT base.*, ARRAY(SELECT related." ++ n.key ++ " FROM " ++ n.table ++
    " AS related WHERE ") = openingTokens n := by
  rw [tokens_around hn.table (endsWord_append _ rfl) rfl, tokens_around hn.key rfl rfl]
  rfl

theorem tokens_source : tokens (" ORDER BY related." ++ n.start ++ ") AS extracted FROM " ++ n.table ++ " AS base") =
    sourceTokens n := by
  rw [tokens_around hn.table (endsWord_append _ rfl) rfl, tokens_around hn.start rfl rfl]
  rfl

theorem tokens_closing : tokens (") AS extraction WHERE cardinality(extracted) > 0 ORDER BY " ++ n.entity ++ ", " ++
    n.start) = closingTokens n := by
  rw [tokens_append (.inl (endsWord_append _ rfl)), tokens_around hn.entity rfl rfl, tokens_name hn.start]
  rfl

theorem tokens_relation (lower upper : Param) :
    (Fragment.mk (relation n) [lower, upper]).tokens = relationTokens n lower.value upper.value := by
  have htext : tokens (relation n) =
      [.name "related", .sign .dot, .name n.key, .sign .less, .sign .greater, .name "base", .sign .dot, .name n.key,
        .keyword .and, .name "related", .sign .dot, .name n.entity, .sign .equal, .name "base", .sign .dot,
        .name n.entity, .keyword .and, .name "related", .sign .dot, .name n.start, .keyword .between,
        .name "base", .sign .dot, .name n.start, .sign .plus, .mark, .keyword .and,
        .name "base", .sign .dot, .name n.stop, .sign .plus, .mark] := by
    -- names alternate with the texts around them
    unfold relation
    rw [tokens_around hn.stop (endsWord_append _ rfl) rfl, tokens_around hn.start (endsWord_append _ rfl) rfl,
      tokens_around hn.start (endsWord_append _ rfl) rfl, tokens_around hn.entity (endsWord_append _ rfl) rfl,
      tokens_around hn.entity (endsWord_append _ rfl) rfl, tokens_around hn.key (endsWord_append _ rfl) rfl,
      tokens_around hn.key rfl rfl]
    rfl
  rw [Fragment.tokens_mk, htext]
  rfl

theorem tokens_keyIn {before : String} (hb : endsWord before = false) :
    tokens (before ++ n.key ++ " IN (") = tokens before ++ [.name n.key, .keyword .in, .sign .left] := by
  rw [tokens_around hn.key hb rfl]
  rfl

/-- The tokens of an extraction, clause by clause. -/
theorem tokens_extraction {inner outer : List Selection} (hi : ∀ s ∈ inner, s.Proper) (ho : ∀ s ∈ outer, s.Proper)
    (lower upper : Value) (limit : Option Value) :
    (fragment n (inner.map Selection.fragment) (outer.map Selection.fragment) lower upper limit).tokens =
      openingTokens n ++ (relatedTokens n outer lower upper ++ (sourceTokens n ++ (baseTokens n inner ++
        (closingTokens n ++ limitTokens limit)))) := by
  have hwi : ∀ f ∈ inner.map Selection.fragment, f.WellFormed := AllProper.wellFormed ⟨inner, hi, rfl⟩
  have hwo : ∀ f ∈ outer.map Selection.fragment, f.WellFormed := AllProper.wellFormed ⟨outer, ho, rfl⟩
  have hrelated : Fragment.placeholders ("related." ++ n.key ++ " IN (") = 0 := placeholders_keyIn hn rfl
  have hbase : Fragment.placeholders (" WHERE base." ++ n.key ++ " IN (") = 0 := placeholders_keyIn hn rfl
  have hopening := Fragment.wellFormed_ofText (placeholders_opening hn)
  have houter := Fragment.wellFormed_restriction hrelated (show Fragment.placeholders ") AND " = 0 from rfl) hwo
  have hinner := Fragment.wellFormed_restriction hbase (show Fragment.placeholders ")" = 0 from rfl) hwi
  have hrelation : (Fragment.mk (relation n) [⟨lower, .double⟩, ⟨upper, .double⟩]).WellFormed :=
    Fragment.wellFormed_mk (placeholders_relation hn)
  have hsource := Fragment.wellFormed_ofText (placeholders_source hn)
  have hclosing := Fragment.wellFormed_ofText (placeholders_closing hn)
  -- what a clause begins or ends with keeps its words apart from those of its neighbours
  have hopens : endsWord ("SELECT * FROM (SELECT base.*, ARRAY(SELECT related." ++ n.key ++ " FROM " ++ n.table ++
      " AS related WHERE ") = false := endsWord_append _ rfl
  have horder : startsWord (" ORDER BY related." ++ n.start ++ ") AS extracted FROM " ++ n.table ++ " AS base") =
      false := by
    rw [String.append_assoc, String.append_assoc, String.append_assoc, startsWord_append (by decide)]
    rfl
  have hwhere : startsWord (" WHERE base." ++ n.key ++ " IN (") = false := by
    rw [String.append_assoc, startsWord_append (by decide)]
    rfl
  have hne : " WHERE base." ++ n.key ++ " IN (" ≠ "" := by
    intro he
    simpa using congrArg String.toList he
  have hcloses : startsWord (") AS extraction WHERE cardinality(extracted) > 0 ORDER BY " ++ n.entity ++ ", " ++
      n.start) = false := by
    rw [String.append_assoc, String.append_assoc, startsWord_append (by decide)]
    rfl
  have hbefore := hopening.append houter
  have hbetween := (hbefore.append hrelation).append hsource
  rw [fragment, Fragment.tokens_append ((hbetween.append hinner).append hclosing) (.inr (startsWord_limitClause limit)),
    Fragment.tokens_append_ofText (hbetween.append hinner) hcloses,
    Fragment.tokens_append hbetween (.inr (startsWord_restriction hne hwhere _ _)),
    Fragment.tokens_append_ofText (hbefore.append hrelation) horder,
    Fragment.tokens_append hbefore (.inl (endsWord_append_restriction hopens rfl _ _)),
    Fragment.tokens_ofText_append hopening hopens, tokens_restriction hrelated rfl (endsWord_append _ rfl) ho,
    tokens_restriction hbase rfl (endsWord_append _ rfl) hi, tokens_opening hn, tokens_relation hn, tokens_source hn,
    tokens_closing hn, tokens_limitClause, tokens_keyIn hn rfl, tokens_keyIn hn rfl, relatedTokens, baseTokens]
  simp only [List.append_assoc]
  rfl

end

/-! ## Reading clauses -/

theorem Term.read_sum (t c : String) (v : Value) (rest : List Token) :
    read (.name t :: .sign .dot :: .name c :: .sign .plus :: .value v :: rest) =
      some (.sum (.ofTable t c) (.value v), rest) := by
  simp only [read, readFactor_ofTable, Option.bind_eq_bind, Option.bind_some]
  rfl

theorem Term.readList_one {ts rest : List Token} {e : Term} (h : read ts = some (e, rest))
    (hr : ∀ r, rest ≠ .sign .comma :: r) (n : Nat) : readList (n + 1) ts = some ([e], rest) := by
  simp only [readList, h, Option.bind_eq_bind, Option.bind_some]

theorem Term.readList_cons {ts ts' rest : List Token} {e : Term} {es : List Term} {n : Nat}
    (h : read ts = some (e, .sign .comma :: ts')) (hs : readList n ts' = some (es, rest)) :
    readList (n + 1) ts = some (e :: es, rest) := by
  simp only [readList, h, hs, Option.bind_eq_bind, Option.bind_some]

theorem Test.readOne_ofTable (t c : String) (n : Nat) {rest : List Token} (hr : Apart rest) :
    readOne (n + 1) (.name t :: .sign .dot :: .name c :: rest) = readOf n (.ofTable t c) rest := by
  simp only [readOne, Term.read_ofTable t c hr, Option.bind_eq_bind, Option.bind_some]

theorem Test.readBoth_and {n : Nat} {ts ts' rest : List Token} {a b : Test}
    (ha : readOne n ts = some (a, .keyword .and :: ts')) (hb : readBoth n ts' = some (b, rest)) :
    readBoth (n + 1) ts = some (.and a b, rest) := by
  simp only [readBoth, ha, hb, Option.bind_eq_bind, Option.bind_some]

/-- A query between parentheses as the last column. -/
theorem Items.read_array {n : Nat} {ts rest : List Token} {q : Query} {name : String} {k : Keyword}
    (h : Query.read (n + 1) ts = some (q, .sign .right :: .keyword .as :: .name name :: .keyword k :: rest)) :
    Items.read (n + 2) (.keyword .array :: .sign .left :: ts) = some (.array q name .nil, .keyword k :: rest) := by
  simp only [Items.read, h, Option.bind_eq_bind, Option.bind_some, Items.readMore_keyword]

theorem Items.read_allOf {n : Nat} {t : String} {ts rest : List Token} {items : Items}
    (h : Items.read n ts = some (items, rest)) :
    Items.read (n + 2) (.name t :: .sign .dot :: .sign .star :: .sign .comma :: ts) = some (.allOf t items, rest) := by
  simp only [Items.read, Items.readMore, h, Option.bind_eq_bind, Option.bind_some]

theorem Tables.read_of_readOne {n : Nat} {ts rest : List Token} {t : Tables} (h : readOne n ts = some (t, rest))
    (hr : ∀ r, rest ≠ .keyword .inner :: r) : read (n + 1) ts = some (t, rest) := by
  rw [read, h, Option.bind_eq_bind, Option.bind_some]
  dsimp only
  split
  · exact absurd rfl (hr _)
  · rfl

/-- A query between parentheses under a name. -/
theorem Tables.read_query {n : Nat} {ts rest : List Token} {q : Query} {name : String}
    (h : Query.read n ts = some (q, .sign .right :: .keyword .as :: .name name :: rest))
    (hr : ∀ r, rest ≠ .keyword .inner :: r) : Tables.read (n + 2) (.sign .left :: ts) = some (.query q name, rest) := by
  refine read_of_readOne ?_ hr
  simp only [readOne, h, Option.bind_eq_bind, Option.bind_some]

theorem Query.read_ordered {n : Nat} {ts ts' rest : List Token} {q : List Term → Query} {es : List Term}
    (h : readSelect n ts = some (q, .keyword .order :: .keyword .by :: ts')) (ho : Term.readList n ts' = some (es, rest)) :
    Query.read (n + 1) ts = some (q es, rest) := by
  simp only [Query.read, h, ho, Option.bind_eq_bind, Option.bind_some]

theorem Query.read_selected {n : Nat} {ts rest : List Token} {q : List Term → Query}
    (h : readSelect n ts = some (q, .sign .right :: rest)) : Query.read (n + 1) ts = some (q [], .sign .right :: rest) := by
  simp only [Query.read, h, Option.bind_eq_bind, Option.bind_some]

/-! ## Reading extractions -/

section

variable {n : Names} (lower upper : Value)

/-- The relation to a base row is read to its end. -/
theorem Test.readBoth_relation (m : Nat) {rest : List Token} (hr : Ends rest) :
    readBoth (m + 5) (relationTokens n lower upper ++ rest) = some (.relation n lower upper, rest) := by
  have hbetween (m : Nat) : readOne (m + 2) (.name "related" :: .sign .dot :: .name n.start :: .keyword .between ::
      .name "base" :: .sign .dot :: .name n.start :: .sign .plus :: .value lower :: .keyword .and ::
      .name "base" :: .sign .dot :: .name n.stop :: .sign .plus :: .value upper :: rest) =
        some (.between (.ofTable "related" n.start) (.sum (.ofTable "base" n.start) (.value lower))
          (.sum (.ofTable "base" n.stop) (.value upper)), rest) := by
    rw [readOne_ofTable _ _ _ (apart_keyword _ _)]
    simp only [readOf, Term.read_sum, Option.bind_eq_bind, Option.bind_some]
  have hequal (m : Nat) (r : List Token) : readOne (m + 2) (.name "related" :: .sign .dot :: .name n.entity ::
      .sign .equal :: .name "base" :: .sign .dot :: .name n.entity :: .keyword .and :: r) =
        some (.equal (.ofTable "related" n.entity) (.ofTable "base" n.entity), .keyword .and :: r) := by
    rw [readOne_ofTable _ _ _ (apart_sign (by decide) _)]
    simp only [readOf, Term.read_ofTable _ _ (apart_keyword _ _), Option.bind_eq_bind, Option.bind_some]
  have hdiffer (m : Nat) (r : List Token) : readOne (m + 2) (.name "related" :: .sign .dot :: .name n.key ::
      .sign .less :: .sign .greater :: .name "base" :: .sign .dot :: .name n.key :: .keyword .and :: r) =
        some (.differ (.ofTable "related" n.key) (.ofTable "base" n.key), .keyword .and :: r) := by
    rw [readOne_ofTable _ _ _ (apart_sign (by decide) _)]
    simp only [readOf, Term.read_ofTable _ _ (apart_keyword _ _), Option.bind_eq_bind, Option.bind_some]
  exact readBoth_and (hdiffer _ _) (readBoth_and (hequal _ _) (readBoth_of_readOne (hbetween _) hr.and))

/-- The test that there are related rows is read up to the order behind it. -/
theorem Test.read_extracted (m : Nat) (rest : List Token) :
    Test.read (m + 6) (.name "cardinality" :: .sign .left :: .name "extracted" :: .sign .right :: .sign .greater ::
      .number 0 :: .keyword .order :: rest) =
        some (.above (.cardinality (.column "extracted")) (.value (.int 0)), .keyword .order :: rest) := by
  have hfactor : Term.readFactor (.name "cardinality" :: .sign .left :: .name "extracted" :: .sign .right ::
      .sign .greater :: .number 0 :: .keyword .order :: rest) =
        some (.cardinality (.column "extracted"), .sign .greater :: .number 0 :: .keyword .order :: rest) := rfl
  have hzero : Term.read (.number 0 :: .keyword .order :: rest) = some (.value (.int 0), .keyword .order :: rest) := rfl
  have hone : Test.readOne (m + 4) (.name "cardinality" :: .sign .left :: .name "extracted" :: .sign .right ::
      .sign .greater :: .number 0 :: .keyword .order :: rest) =
        some (.above (.cardinality (.column "extracted")) (.value (.int 0)), .keyword .order :: rest) := by
    simp only [readOne, Term.read_of_readFactor hfactor (apart_sign (by decide) _), Option.bind_eq_bind,
      Option.bind_some, readOf, hzero]
  have hboth := readBoth_of_readOne hone (by simp)
  exact read_of_readBoth hboth (by simp)

/-- What the answer is ordered by is read up to the limit. -/
theorem Term.readList_order (a b : String) (limit : Option Value) (m : Nat) :
    readList (m + 2) (.name a :: .sign .comma :: .name b :: limitTokens limit) =
      some ([.column a, .column b], limitTokens limit) := by
  have hcomma : ∀ r, limitTokens limit ≠ .sign .comma :: r := by cases limit <;> simp [limitTokens]
  have hlast := readList_one (read_column b (ends_limitTokens limit).apart) hcomma m
  exact readList_cons (read_column a (apart_sign (by decide) _)) hlast

variable (hn : n.Proper) {inner outer : List Selection} (hi : ∀ s ∈ inner, s.Proper) (ho : ∀ s ∈ outer, s.Proper)

include hn ho

/-- The test for related rows is read, its selections first. -/
theorem Test.read_related {m : Nat} (hm : 3 * (relatedTokens n outer lower upper).length + 7 ≤ m) {rest : List Token}
    (hr : Ends rest) :
    Test.read m (relatedTokens n outer lower upper ++ rest) = some (.related n outer lower upper, rest) := by
  obtain ⟨m, rfl⟩ : ∃ k, m = k + 7 := ⟨m - 7, by omega⟩
  cases outer with
  | nil => exact Test.read_of_readBoth (Test.readBoth_relation lower upper _ hr) hr.or
  | cons s ss =>
    have href : IsReference ("related" ++ "." ++ n.key) := .ofTable (by decide) hn.key
    have hterm : Term.reference ("related" ++ "." ++ n.key) = .ofTable "related" n.key :=
      IsName.reference_ofTable (by decide) _
    simp only [relatedTokens, restrictionTokens, List.length_append, List.length_cons] at hm
    have hwithin := Selection.readOne_within href ho (n := m + 5) (by simp; omega)
      (.keyword .and :: (relationTokens n lower upper ++ rest))
    rw [hterm] at hwithin
    simp only [relatedTokens, restrictionTokens, List.append_assoc, List.cons_append, List.nil_append]
    exact Test.read_of_readBoth (Test.readBoth_and hwithin (Test.readBoth_relation lower upper _ hr)) hr.or

/-- The keys of related rows are read up to the parenthesis behind them. -/
theorem Query.read_related {m : Nat} (hm : 3 * (relatedTokens n outer lower upper).length + 9 ≤ m) (rest : List Token) :
    Query.read m (.keyword .select :: .name "related" :: .sign .dot :: .name n.key :: .keyword .from :: .name n.table ::
      .keyword .as :: .name "related" :: .keyword .where :: (relatedTokens n outer lower upper ++
        .keyword .order :: .keyword .by :: .name "related" :: .sign .dot :: .name n.start :: .sign .right :: rest)) =
      some (.related n outer lower upper, .sign .right :: rest) := by
  obtain ⟨m, rfl⟩ : ∃ k, m = k + 4 := ⟨m - 4, by omega⟩
  have hends (r : List Token) : Test.Ends (.keyword .order :: r) := ⟨apart_keyword _ _, by simp, by simp⟩
  have htest := Test.read_related lower upper hn ho (m := m + 2) (by omega) (hends
    (.keyword .by :: .name "related" :: .sign .dot :: .name n.start :: .sign .right :: rest))
  have htable (r : List Token) : Tables.read (m + 2) (.name n.table :: .keyword .as :: .name "related" ::
      .keyword .where :: r) = some (.table n.table "related", .keyword .where :: r) :=
    Tables.read_of_readOne (by rw [Tables.readOne]) (by simp)
  have horder : Term.readList (m + 3) (.name "related" :: .sign .dot :: .name n.start :: .sign .right :: rest) =
      some ([.ofTable "related" n.start], .sign .right :: rest) :=
    Term.readList_one (Term.read_ofTable _ _ (apart_sign (by decide) _)) (by simp) _
  exact Query.read_ordered (Query.readSelect_where (Items.read_ofTable _ _ _ _ _) (htable _) htest) horder

include hi

/-- The base rows are read up to the parenthesis behind them. -/
theorem Query.read_base {m : Nat} (hm : 3 * (relatedTokens n outer lower upper).length + 3 * (baseTokens n inner).length +
      16 ≤ m) (rest : List Token) :
    Query.read m (.keyword .select :: .name "base" :: .sign .dot :: .sign .star :: .sign .comma :: .keyword .array ::
      .sign .left :: .keyword .select :: .name "related" :: .sign .dot :: .name n.key :: .keyword .from :: .name n.table ::
      .keyword .as :: .name "related" :: .keyword .where :: (relatedTokens n outer lower upper ++ (sourceTokens n ++
        (baseTokens n inner ++ .sign .right :: rest)))) =
      some (.base n inner outer lower upper, .sign .right :: rest) := by
  obtain ⟨m, rfl⟩ : ∃ k, m = k + 7 := ⟨m - 7, by omega⟩
  have hitems (r : List Token) : Items.read (m + 5) (.name "base" :: .sign .dot :: .sign .star :: .sign .comma ::
      .keyword .array :: .sign .left :: .keyword .select :: .name "related" :: .sign .dot :: .name n.key ::
      .keyword .from :: .name n.table :: .keyword .as :: .name "related" :: .keyword .where ::
      (relatedTokens n outer lower upper ++ (sourceTokens n ++ r))) =
      some (.allOf "base" (.array (.related n outer lower upper) "extracted" .nil),
        .keyword .from :: .name n.table :: .keyword .as :: .name "base" :: r) :=
    Items.read_allOf (Items.read_array (Query.read_related lower upper hn ho (by omega) _))
  have htable : ∀ k r, baseTokens n inner ++ .sign .right :: rest = .keyword k :: r → k ≠ .inner := by
    cases inner with
    | nil => rintro k r ⟨⟩
    | cons s ss =>
      rintro k r ⟨⟩
      decide
  have href : IsReference ("base" ++ "." ++ n.key) := .ofTable (by decide) hn.key
  have hterm : Term.reference ("base" ++ "." ++ n.key) = .ofTable "base" n.key :=
    IsName.reference_ofTable (by decide) _
  have hends : Test.Ends (.sign .right :: rest) := ⟨apart_sign (by decide) _, by simp, by simp⟩
  rw [baseTokens] at hm
  exact Query.read_selected (Query.readSelect_restricted href hterm hi (by simp [Term.tokens]; omega) (hitems _)
    (Tables.read_of_readOne (by rw [Tables.readOne]; rfl) fun r hr => htable _ _ hr rfl) hends (by simp))

/-- An extraction is read as what it is meant to be. -/
theorem read_extraction (limit : Option Value) :
    Statement.read (fragment n (inner.map Selection.fragment) (outer.map Selection.fragment) lower upper limit).tokens =
      some (.ofExtraction n inner outer lower upper limit) := by
  rw [tokens_extraction hn hi ho, Statement.read]
  -- the fuel depends on all tokens, and has to stay the same when they are taken apart
  generalize hlen : 4 * List.length _ = m
  simp only [List.length_append] at hlen
  obtain ⟨m, rfl⟩ : ∃ k, m = k + 8 := ⟨m - 8, by simp [openingTokens] at hlen; omega⟩
  have hbase := Query.read_base lower upper hn hi ho (m := m + 4) (by
    simp [openingTokens] at hlen
    simp
    omega) (.keyword .as :: .name "extraction" :: .keyword .where :: .name "cardinality" :: .sign .left ::
      .name "extracted" :: .sign .right :: .sign .greater :: .number 0 :: .keyword .order :: .keyword .by ::
      .name n.entity :: .sign .comma :: .name n.start :: limitTokens limit)
  have hread := Query.read_ordered (Query.readSelect_where (Items.read_all _ _ _) (Tables.read_query hbase (by simp))
    (Test.read_extracted m _)) (Term.readList_order n.entity n.start limit (m + 5))
  simp only [openingTokens, closingTokens, List.cons_append, List.nil_append]
  rw [hread]
  cases limit with
  | none => rfl
  | some v => rfl

end

end FacetSearch.Sql

import FacetSearch.Proofs.Sql.Reading.Condition
/-!
# Searches are read as what they are meant to be

Selections and searches have a place in the syntax of statements (`Query.ofSelection`, `Statement.ofSearch`), and their
texts, with values in the places of placeholders, are read as just that (`read_search`).
-/

namespace FacetSearch.Sql

/-! ## Reading selections -/

/-- What a selection takes its rows from. -/
def Tables.ofSource : Source → Tables
  | .group .tags => .join (.table "tag_entities" "tag_entities") (.table "tags" "tags")
      (.equal (.ofTable "tag_entities" "tag_entity_tag_uuid") (.ofTable "tags" "tag_uuid"))
  | .group .attributes => .table "attributes" "attributes"
  | .rows t _ => .table t t

/-- The identifier of a row of a source. -/
def Term.ofSource : Source → Term
  | .group .tags => .ofTable "tag_entities" "tag_entity_uuid"
  | .group .attributes => .ofTable "attributes" "attribute_entity_uuid"
  | .rows _ key => .column key

/-- The query that a selection is. -/
def Query.ofSelection (s : Selection) : Query :=
  .select (.term (.ofSource s.source) .nil) (.ofSource s.source) (.ofCondition s.condition) []

namespace Selection

theorem tokens_rows {table key : String} (ht : IsName table) (hk : IsName key) :
    Sql.tokens (Source.rows table key).head =
      [.keyword .select, .name key, .keyword .from, .name table, .keyword .where] := by
  rw [Source.head, tokens_append (.inr rfl), tokens_append (.inl (endsWord_append _ rfl)), tokens_append (.inr rfl),
    tokens_append (.inl rfl), tokens_name ht, tokens_name hk]
  rfl

theorem isReference_link : IsReference ("tag_entities" ++ "." ++ "tag_entity_tag_uuid") :=
  .ofTable (by decide) (by decide)

theorem isReference_tag : IsReference ("tags" ++ "." ++ "tag_uuid") :=
  .ofTable (by decide) (by decide)

theorem reference_link : Term.reference ("tag_entities" ++ "." ++ "tag_entity_tag_uuid") =
    .ofTable "tag_entities" "tag_entity_tag_uuid" :=
  IsName.reference_ofTable (by decide) _

theorem reference_tag : Term.reference ("tags" ++ "." ++ "tag_uuid") = .ofTable "tags" "tag_uuid" :=
  IsName.reference_ofTable (by decide) _

/-- The text of the join is long, so it is cut at its references. -/
theorem tokens_join : Sql.tokens " INNER JOIN tags ON tag_entities.tag_entity_tag_uuid = tags.tag_uuid" =
    [.keyword .inner, .keyword .join, .name "tags", .keyword .on, .name "tag_entities", .sign .dot,
      .name "tag_entity_tag_uuid", .sign .equal, .name "tags", .sign .dot, .name "tag_uuid"] := by
  have hequal := endsWord_append (" INNER JOIN tags ON " ++ ("tag_entities" ++ "." ++ "tag_entity_tag_uuid"))
    (show endsWord " = " = false from rfl)
  have hcut := tokens_append (t := "tags" ++ "." ++ "tag_uuid") (.inl hequal)
  rw [isReference_link.tokens_around rfl rfl, isReference_tag.tokens_eq, reference_link, reference_tag] at hcut
  exact hcut

theorem tokens_tags : Sql.tokens (Source.group .tags).head =
    [.keyword .select, .name "tag_entities", .sign .dot, .name "tag_entity_uuid", .keyword .from, .name "tag_entities",
      .keyword .inner, .keyword .join, .name "tags", .keyword .on, .name "tag_entities", .sign .dot,
      .name "tag_entity_tag_uuid", .sign .equal, .name "tags", .sign .dot, .name "tag_uuid", .keyword .where] := by
  have hselect : Sql.tokens "SELECT tag_entities.tag_entity_uuid FROM tag_entities" =
      [.keyword .select, .name "tag_entities", .sign .dot, .name "tag_entity_uuid", .keyword .from,
        .name "tag_entities"] := by rfl
  have hwhere : startsWord " WHERE " = false := rfl
  have hinner : startsWord " INNER JOIN tags ON tag_entities.tag_entity_tag_uuid = tags.tag_uuid" = false := rfl
  have hcut := tokens_append (s := "SELECT tag_entities.tag_entity_uuid FROM tag_entities") (.inr hinner)
  rw [hselect, tokens_join] at hcut
  exact (tokens_append (.inr hwhere)).trans (congrArg (· ++ Sql.tokens " WHERE ") hcut)

theorem tokens_attributes : Sql.tokens (Source.group .attributes).head =
    [.keyword .select, .name "attributes", .sign .dot, .name "attribute_entity_uuid", .keyword .from,
      .name "attributes", .keyword .where] := by
  rfl

theorem tokens_fragment {s : Selection} (h : s.Proper) :
    s.fragment.tokens = Sql.tokens s.source.head ++ s.condition.fragment.tokens := by
  have hends : endsWord s.source.head = false := by
    cases s.source with
    | group kind => cases kind <;> exact endsWord_append _ rfl
    | rows table key => exact endsWord_append _ rfl
  have hhead := Fragment.wellFormed_ofText (Selection.no_placeholder_head h.source)
  rw [Selection.fragment_eq, Fragment.tokens_ofText_append hhead hends]

end Selection

theorem Items.readMore_keyword (n : Nat) (f : Items → Items) (k : Keyword) (r : List Token) :
    Items.readMore (n + 1) f (.keyword k :: r) = some (f .nil, .keyword k :: r) := by
  rw [Items.readMore]
  simp

theorem Items.read_column (n : Nat) (c : String) (k : Keyword) (r : List Token) :
    Items.read (n + 2) (.name c :: .keyword k :: r) = some (.term (.column c) .nil, .keyword k :: r) := by
  rw [Items.read, Term.read_column c (apart_keyword k r)]
  · exact Items.readMore_keyword n _ k r
  all_goals simp

theorem Items.read_ofTable (n : Nat) (t c : String) (k : Keyword) (r : List Token) :
    Items.read (n + 2) (.name t :: .sign .dot :: .name c :: .keyword k :: r) =
      some (.term (.ofTable t c) .nil, .keyword k :: r) := by
  rw [Items.read, Term.read_ofTable t c (apart_keyword k r)]
  · exact Items.readMore_keyword n _ k r
  all_goals simp

theorem Items.read_all (n : Nat) (k : Keyword) (r : List Token) :
    Items.read (n + 2) (.sign .star :: .keyword k :: r) = some (.all .nil, .keyword k :: r) := by
  rw [Items.read]
  exact Items.readMore_keyword n _ k r

theorem Tables.read_table (n : Nat) (t : String) {rest : List Token}
    (h : ∀ k r, rest = .keyword k :: r → k ≠ .as ∧ k ≠ .inner) :
    Tables.read (n + 2) (.name t :: rest) = some (.table t t, rest) := by
  have hone : Tables.readOne (n + 1) (.name t :: rest) = some (.table t t, rest) := by
    rw [Tables.readOne]
    rintro s r rfl
    exact (h .as _ rfl).1 rfl
  rw [Tables.read, hone, Option.bind_eq_bind, Option.bind_some]
  dsimp only
  split
  · exact absurd rfl (h .inner _ rfl).2
  · rfl

theorem Query.readSelect_where {n : Nat} {items : Items} {source : Tables} {test : Test} {ts ts' ts'' rest : List Token}
    (hi : Items.read n ts = some (items, .keyword .from :: ts'))
    (hs : Tables.read n ts' = some (source, .keyword .where :: ts''))
    (ht : Test.read n ts'' = some (test, rest)) :
    Query.readSelect (n + 1) (.keyword .select :: ts) = some (.select items source test, rest) := by
  simp only [Query.readSelect, hi, hs, ht, Option.bind_eq_bind, Option.bind_some]

namespace Selection

theorem read_link (n : Nat) (r : List Token) :
    Test.read (n + 4) (.name "tag_entities" :: .sign .dot :: .name "tag_entity_tag_uuid" :: .sign .equal ::
        .name "tags" :: .sign .dot :: .name "tag_uuid" :: .keyword .where :: r) =
      some (.equal (.ofTable "tag_entities" "tag_entity_tag_uuid") (.ofTable "tags" "tag_uuid"),
        .keyword .where :: r) := by
  have hread : Test.readOne (n + 2) (.name "tag_entities" :: .sign .dot :: .name "tag_entity_tag_uuid" ::
        .sign .equal :: .name "tags" :: .sign .dot :: .name "tag_uuid" :: .keyword .where :: r) =
      some (.equal (.ofTable "tag_entities" "tag_entity_tag_uuid") (.ofTable "tags" "tag_uuid"),
        .keyword .where :: r) := by
    have hlink := Test.readOne_reference isReference_link (n + 1) (apart_sign (x := .equal) (by decide)
      (.name "tags" :: .sign .dot :: .name "tag_uuid" :: .keyword .where :: r))
    rw [reference_link] at hlink
    refine hlink.trans ?_
    simp only [Test.readOf, Term.read_ofTable _ _ (apart_keyword _ _), Option.bind_eq_bind, Option.bind_some]
  exact Test.read_of_readBoth (Test.readBoth_of_readOne hread (by simp)) (by simp)

theorem read_tables (n : Nat) (r : List Token) :
    Tables.read (n + 5) (.name "tag_entities" :: .keyword .inner :: .keyword .join :: .name "tags" :: .keyword .on ::
        .name "tag_entities" :: .sign .dot :: .name "tag_entity_tag_uuid" :: .sign .equal :: .name "tags" ::
        .sign .dot :: .name "tag_uuid" :: .keyword .where :: r) =
      some (.ofSource (.group .tags), .keyword .where :: r) := by
  simp only [Tables.read, Tables.readOne, read_link, Option.bind_eq_bind, Option.bind_some, Tables.ofSource]

theorem tokens_eq_select {s : Selection} (h : s.Proper) : ∃ ts, s.fragment.tokens = .keyword .select :: ts := by
  rw [tokens_fragment h]
  cases hs : s.source with
  | group kind =>
    cases kind with
    | tags => exact ⟨_, by rw [tokens_tags]; rfl⟩
    | attributes => exact ⟨_, by rw [tokens_attributes]; rfl⟩
  | rows table key =>
    obtain ⟨ht, hk⟩ := h.source table key hs
    exact ⟨_, by rw [tokens_rows ht hk]; rfl⟩

/-- A selection is read as its query, which has no order yet. -/
theorem readSelect_fragment {s : Selection} (h : s.Proper) {n : Nat} (hn : 3 * s.fragment.tokens.length ≤ n)
    {rest : List Token} (hr : Test.Ends rest) :
    Query.readSelect n (s.fragment.tokens ++ rest) =
      some (.select (.term (.ofSource s.source) .nil) (.ofSource s.source) (.ofCondition s.condition), rest) := by
  rw [tokens_fragment h] at hn ⊢
  simp only [List.length_append] at hn
  have hlen : 5 ≤ (Sql.tokens s.source.head).length := by
    cases hs : s.source with
    | group kind =>
      cases kind with
      | tags => simp [tokens_tags]
      | attributes => simp [tokens_attributes]
    | rows table key =>
      obtain ⟨ht, hk⟩ := h.source table key hs
      simp [tokens_rows ht hk]
  -- the source alone takes more fuel than the readers above the test, so that enough is left for the condition
  obtain ⟨n, rfl⟩ : ∃ m, n = m + 6 := ⟨n - 6, by omega⟩
  have htest : Test.read (n + 5) (s.condition.fragment.tokens ++ rest) = some (.ofCondition s.condition, rest) :=
    Test.read_of_readBoth ((Test.reads_of_proper h.condition).2 _ _ (by omega) hr.apart hr.and) hr.or
  cases hs : s.source with
  | group kind =>
    cases kind with
    | tags =>
      simp only [tokens_tags, List.cons_append, List.nil_append]
      exact Query.readSelect_where (Items.read_ofTable _ _ _ _ _) (read_tables _ _) htest
    | attributes =>
      simp only [tokens_attributes, List.cons_append, List.nil_append]
      exact Query.readSelect_where (Items.read_ofTable _ _ _ _ _) (Tables.read_table _ _ (by simp)) htest
  | rows table key =>
    obtain ⟨ht, hk⟩ := h.source table key hs
    simp only [tokens_rows ht hk, List.cons_append, List.nil_append]
    exact Query.readSelect_where (Items.read_column _ _ _ _) (Tables.read_table _ _ (by simp)) htest

end Selection

/-! ## Reading searches -/

/-- The query that intersected selections are. -/
def Query.ofSelections (s : Selection) (ss : List Selection) : Query :=
  ss.foldl (fun q s => .intersect q (.ofSelection s)) (.ofSelection s)

/-- The test that a key is in all of several selections. -/
def Test.ofSelections (key : String) : List Selection → Test
  | [] => .always
  | s :: ss => .within (.column key) (.ofSelections s ss)

/-- The test that the value of a term is in all of several selections. -/
def Test.inSelections (e : Term) : List Selection → Test
  | [] => .always
  | s :: ss => .within e (.ofSelections s ss)

theorem Test.ofSelections_eq (key : String) (ss : List Selection) : ofSelections key ss = inSelections (.column key) ss := by
  cases ss <;> rfl

/-- The statement that a search is. -/
def Statement.ofSearch (table key : String) (ss : List Selection) (limit : Option Value) : Statement where
  query := .select (.all .nil) (.table table table) (.ofSelections key ss) []
  limit := limit.map .value

theorem intercalate_cons (sep ts : List Token) (tss : List (List Token)) :
    List.intercalate sep (ts :: tss) = ts ++ tss.flatMap (sep ++ ·) := by
  induction tss generalizing ts with
  | nil => simp
  | cons us tss ih => rw [List.intercalate_cons_cons, ih, List.flatMap_cons, List.append_assoc, List.append_assoc]

namespace Selection

/-- The tokens of selections that are intersected with what is in front of them. -/
def moreTokens (ss : List Selection) : List Token := ss.flatMap fun s => .keyword .intersect :: s.fragment.tokens

theorem ends_moreTokens (ss : List Selection) (rest : List Token) :
    Test.Ends (moreTokens ss ++ .sign .right :: rest) := by
  cases ss with
  | nil => exact ⟨apart_sign (by decide) rest, by simp [moreTokens], by simp [moreTokens]⟩
  | cons s ss =>
    simp only [moreTokens, List.flatMap_cons, List.cons_append]
    exact ⟨apart_keyword _ _, by simp, by simp⟩

theorem readMore_moreTokens {ss : List Selection} (h : ∀ s ∈ ss, s.Proper) (q : Query) {n : Nat}
    (hn : 3 * (moreTokens ss).length + 1 ≤ n) (rest : List Token) :
    Query.readMore n q (moreTokens ss ++ .sign .right :: rest) =
      some (ss.foldl (fun q s => .intersect q (.ofSelection s)) q, .sign .right :: rest) := by
  induction ss generalizing q n with
  | nil =>
    obtain ⟨n, rfl⟩ : ∃ m, n = m + 1 := ⟨n - 1, by omega⟩
    simp only [moreTokens, List.flatMap_nil, List.nil_append, Query.readMore, List.foldl_nil]
  | cons s ss ih =>
    have hcons : moreTokens (s :: ss) = .keyword .intersect :: (s.fragment.tokens ++ moreTokens ss) := by
      simp [moreTokens]
    rw [hcons] at hn ⊢
    simp only [List.length_cons, List.length_append] at hn
    obtain ⟨n, rfl⟩ : ∃ m, n = m + 1 := ⟨n - 1, by omega⟩
    have hselect := readSelect_fragment (h s (by simp)) (n := n) (by omega) (ends_moreTokens ss rest)
    have hmore := ih (fun x hx => h x (by simp [hx])) (.intersect q (.ofSelection s)) (n := n) (by omega)
    simp only [List.cons_append, List.append_assoc, Query.readMore, hselect, Option.bind_eq_bind, Option.bind_some]
    exact hmore

theorem read_selections {s : Selection} {ss : List Selection} (h : ∀ x ∈ s :: ss, x.Proper) {n : Nat}
    (hn : 3 * (s.fragment.tokens ++ moreTokens ss).length + 2 ≤ n) (rest : List Token) :
    Query.read n (s.fragment.tokens ++ (moreTokens ss ++ .sign .right :: rest)) =
      some (.ofSelections s ss, .sign .right :: rest) := by
  simp only [List.length_append] at hn
  obtain ⟨n, rfl⟩ : ∃ m, n = m + 1 := ⟨n - 1, by omega⟩
  have hselect := readSelect_fragment (h s (by simp)) (n := n) (by omega) (ends_moreTokens ss rest)
  have hmore := readMore_moreTokens (fun x hx => h x (List.mem_cons_of_mem s hx)) (.ofSelection s) (n := n)
    (by omega) rest
  rw [Query.read, hselect, Option.bind_eq_bind, Option.bind_some]
  cases ss with
  | nil => rfl
  | cons s' ss =>
    simp only [moreTokens, List.flatMap_cons, List.cons_append] at hmore ⊢
    exact hmore

end Selection

/-- The tokens of a limit. -/
def limitTokens : Option Value → List Token
  | none => []
  | some v => [.keyword .limit, .value v]

theorem tokens_limitClause (limit : Option Value) : (Fragment.limitClause limit).tokens = limitTokens limit := by
  cases limit with
  | none => rfl
  | some v =>
    rw [Fragment.limitClause, Fragment.tokens_mk]
    rfl

theorem ends_limitTokens (limit : Option Value) : Test.Ends (limitTokens limit) := by
  cases limit with
  | none => exact ⟨by rintro x r ⟨⟩, by simp [limitTokens], by simp [limitTokens]⟩
  | some v => exact ⟨apart_keyword _ _, by simp [limitTokens], by simp [limitTokens]⟩

/-- The tokens of a restriction. -/
def restrictionTokens (opening closing : List Token) : List Selection → List Token
  | [] => []
  | s :: ss => opening ++ (s.fragment.tokens ++ (Selection.moreTokens ss ++ closing))

theorem tokens_restriction {opening closing : String} (hp : Fragment.placeholders opening = 0)
    (hc : startsWord closing = false) (ho : endsWord opening = false) {ss : List Selection} (h : ∀ s ∈ ss, s.Proper) :
    (Fragment.restriction opening (ss.map Selection.fragment) closing).tokens =
      restrictionTokens (tokens opening) (tokens closing) ss := by
  have hw : ∀ f ∈ ss.map Selection.fragment, f.WellFormed := AllProper.wellFormed ⟨ss, h, rfl⟩
  have hopen : (Fragment.ofText opening).WellFormed := Fragment.wellFormed_ofText hp
  cases ss with
  | nil => rfl
  | cons s ss =>
    rw [Fragment.restriction, if_neg (by simp),
      Fragment.tokens_append_ofText (hopen.append (Fragment.wellFormed_joined rfl hw)) hc,
      Fragment.tokens_ofText_append hopen ho, Fragment.tokens_joined rfl rfl rfl hw, List.map_cons, List.map_cons,
      intercalate_cons, List.map_map, List.flatMap_map, List.append_assoc, List.append_assoc]
    rfl

theorem startsWord_restriction {opening : String} (hne : opening ≠ "") (h : startsWord opening = false)
    (closing : String) (sets : List Fragment) :
    startsWord (Fragment.restriction opening sets closing).text = false := by
  unfold Fragment.restriction
  split
  · rfl
  · rw [Fragment.append_assoc, Fragment.text_append, Fragment.text_ofText, startsWord_append hne, h]

theorem startsWord_limitClause (limit : Option Value) : startsWord (Fragment.limitClause limit).text = false := by
  cases limit with
  | none => rfl
  | some v => exact (show startsWord " LIMIT ?" = false from rfl)

theorem tokens_search {table key : String} (ht : IsName table) (hk : IsName key) {ss : List Selection}
    (h : ∀ s ∈ ss, s.Proper) (limit : Option Value) :
    (Search.fragment table key (ss.map Selection.fragment) limit).tokens =
      [.keyword .select, .sign .star, .keyword .from, .name table] ++
        (restrictionTokens [.keyword .where, .name key, .keyword .in, .sign .left] [.sign .right] ss ++
          limitTokens limit) := by
  have hw : ∀ f ∈ ss.map Selection.fragment, f.WellFormed := AllProper.wellFormed ⟨ss, h, rfl⟩
  have hwhere : Fragment.placeholders (" WHERE " ++ key ++ " IN (") = 0 := by
    rw [Fragment.placeholders_append, Fragment.placeholders_append, hk.placeholders_eq]
    rfl
  have hfrom : (Fragment.ofText ("SELECT * FROM " ++ table)).WellFormed := by
    apply Fragment.wellFormed_ofText
    rw [Fragment.placeholders_append, ht.placeholders_eq]
    rfl
  have hstarts : startsWord (" WHERE " ++ key ++ " IN (") = false := by
    rw [String.append_assoc, startsWord_append (by decide)]
    rfl
  have hopening : tokens (" WHERE " ++ key ++ " IN (") = [.keyword .where, .name key, .keyword .in, .sign .left] := by
    rw [tokens_append (.inr rfl), tokens_append (.inl rfl), tokens_name hk]
    rfl
  have htable : tokens ("SELECT * FROM " ++ table) =
      [.keyword .select, .sign .star, .keyword .from, .name table] := by
    rw [tokens_append (.inl rfl), tokens_name ht]
    rfl
  have hne : " WHERE " ++ key ++ " IN (" ≠ "" := by
    intro he
    simpa using congrArg String.toList he
  rw [Search.fragment, Fragment.tokens_append (hfrom.append (Fragment.wellFormed_restriction hwhere rfl hw))
    (.inr (startsWord_limitClause limit)), Fragment.tokens_append hfrom (.inr (startsWord_restriction hne hstarts _ _)),
    tokens_restriction hwhere rfl (endsWord_append _ rfl) h, Fragment.tokens_ofText, hopening, htable,
    tokens_limitClause, List.append_assoc]
  rfl

theorem Test.readOf_query (e : Term) {n : Nat} {ts rest : List Token} {q : Query}
    (h : Query.read n (.keyword .select :: ts) = some (q, .sign .right :: rest)) :
    readOf (n + 1) e (.keyword .in :: .sign .left :: .keyword .select :: ts) = some (.within e q, rest) := by
  simp only [readOf, h, Option.bind_eq_bind, Option.bind_some]

/-- A reference that has to be in all of several selections. -/
theorem Selection.readOne_within {r : String} (hr : IsReference r) {s : Selection} {ss : List Selection}
    (h : ∀ x ∈ s :: ss, x.Proper) {n : Nat} (hn : 3 * (s.fragment.tokens ++ moreTokens ss).length + 4 ≤ n)
    (rest : List Token) :
    Test.readOne n ((Term.reference r).tokens ++ .keyword .in :: .sign .left ::
        (s.fragment.tokens ++ (moreTokens ss ++ .sign .right :: rest))) =
      some (.within (Term.reference r) (.ofSelections s ss), rest) := by
  obtain ⟨n, rfl⟩ : ∃ m, n = m + 2 := ⟨n - 2, by omega⟩
  obtain ⟨ts, hts⟩ := tokens_eq_select (h s (by simp))
  have hquery := read_selections h (n := n) (by omega) rest
  rw [hts, List.cons_append] at hquery ⊢
  rw [Test.readOne_reference hr _ (apart_keyword _ _)]
  exact Test.readOf_query _ hquery

/-- A selection whose rows are restricted by a reference that has to be in all of several selections. -/
theorem Query.readSelect_restricted {r : String} (hr : IsReference r) {e : Term} (he : Term.reference r = e)
    {ss : List Selection} (h : ∀ s ∈ ss, s.Proper) {n : Nat}
    (hn : 3 * (restrictionTokens (.keyword .where :: (e.tokens ++ [.keyword .in, .sign .left])) [.sign .right] ss).length +
      8 ≤ n) {items : Items} {source : Tables} {ts ts' rest : List Token}
    (hi : Items.read n ts = some (items, .keyword .from :: ts'))
    (hs : Tables.read n ts' = some (source, restrictionTokens
      (.keyword .where :: (e.tokens ++ [.keyword .in, .sign .left])) [.sign .right] ss ++ rest))
    (hrest : Test.Ends rest) (hwhere : ∀ r, rest ≠ .keyword .where :: r) :
    Query.readSelect (n + 1) (.keyword .select :: ts) = some (.select items source (.inSelections e ss), rest) := by
  subst he
  cases ss with
  | nil =>
    rw [restrictionTokens, List.nil_append] at hs
    simp only [Query.readSelect, hi, hs, Option.bind_eq_bind, Option.bind_some]
    rfl
  | cons s ss =>
    simp only [restrictionTokens, List.cons_append, List.append_assoc, List.nil_append] at hs
    simp only [restrictionTokens, List.length_append, List.length_cons] at hn
    obtain ⟨n, rfl⟩ : ∃ m, n = m + 2 := ⟨n - 2, by omega⟩
    have hwithin := Selection.readOne_within hr h (n := n) (by simp; omega) rest
    exact Query.readSelect_where hi hs (Test.read_of_readBoth (Test.readBoth_of_readOne hwithin hrest.and) hrest.or)

/-- What is behind the first table of a search is its test. -/
theorem readSelect_search {key : String} (hk : IsName key) {ss : List Selection} (h : ∀ s ∈ ss, s.Proper) (t : String) {n : Nat}
    (hn : 3 * (restrictionTokens [.keyword .where, .name key, .keyword .in, .sign .left] [.sign .right] ss).length + 9 ≤ n)
    {rest : List Token} (hr : Test.Ends rest)
    (hrest : ∀ k r, rest = .keyword k :: r → k ≠ .as ∧ k ≠ .inner ∧ k ≠ .where) :
    Query.readSelect n (.keyword .select :: .sign .star :: .keyword .from :: .name t ::
        (restrictionTokens [.keyword .where, .name key, .keyword .in, .sign .left] [.sign .right] ss ++ rest)) =
      some (.select (.all .nil) (.table t t) (.ofSelections key ss), rest) := by
  obtain ⟨n, rfl⟩ : ∃ m, n = m + 3 := ⟨n - 3, by omega⟩
  have htable : ∀ k r, restrictionTokens [.keyword .where, .name key, .keyword .in, .sign .left] [.sign .right] ss ++ rest =
      .keyword k :: r → k ≠ .as ∧ k ≠ .inner := by
    cases ss with
    | nil => exact fun k r hk => ⟨(hrest k r hk).1, (hrest k r hk).2.1⟩
    | cons s ss =>
      rintro k r ⟨⟩
      decide
  rw [Test.ofSelections_eq]
  exact Query.readSelect_restricted (.column hk) hk.reference_eq h (n := n + 2) (Nat.le_of_succ_le_succ hn)
    (Items.read_all n .from _) (Tables.read_table n t htable) hr fun r hk => (hrest _ _ hk).2.2 rfl

/-- A search is read as what it is meant to be. -/
theorem read_search {table key : String} (ht : IsName table) (hk : IsName key) {ss : List Selection}
    (h : ∀ s ∈ ss, s.Proper) (limit : Option Value) :
    Statement.read (Search.fragment table key (ss.map Selection.fragment) limit).tokens =
      some (.ofSearch table key ss limit) := by
  have hends := ends_limitTokens limit
  have hrest : ∀ k r, limitTokens limit = .keyword k :: r → k ≠ .as ∧ k ≠ .inner ∧ k ≠ .where := by
    cases limit <;> simp [limitTokens]
  rw [tokens_search ht hk h limit, Statement.read]
  -- the fuel depends on all tokens, and has to stay the same when they are taken apart
  generalize hlen : 4 * List.length _ = n
  obtain ⟨n, rfl⟩ : ∃ m, n = m + 1 := ⟨n - 1, by simp at hlen; omega⟩
  have hselect := readSelect_search hk h table (n := n) (by simp at hlen ⊢; omega) hends hrest
  simp only [List.cons_append, List.nil_append]
  rw [Query.read, hselect]
  cases limit with
  | none => rfl
  | some v => rfl

end FacetSearch.Sql

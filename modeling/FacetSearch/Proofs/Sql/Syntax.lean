import FacetSearch.Proofs.Sql.Token
/-!
# The syntax of statements

The statements that a database is given here are built from few parts, and `Statement.read` reads them from their
tokens by recursive descent. `AND` binds more tightly than `OR`, the `AND` of a `BETWEEN` belongs to it, and
`INTERSECT` takes what is in front of it together. The fuel of the readers is what parentheses and lists may nest;
a statement is read with more of it than its tokens can use up.
-/

namespace FacetSearch.Sql

/-- A value that is computed from the columns of rows. -/
inductive Term where
  | column (c : String)
  | ofTable (t c : String)
  | value (v : Value)
  | upper (e : Term)
  | cardinality (e : Term)
  | sum (a b : Term)

mutual

/-- Rows that are selected from others. -/
inductive Query where
  | select (items : Items) (source : Tables) (test : Test) (order : List Term)
  | intersect (first second : Query)

/-- The columns of selected rows. -/
inductive Items where
  | nil
  | all (rest : Items)
  | allOf (t : String) (rest : Items)
  | term (e : Term) (rest : Items)
  | array (q : Query) (name : String) (rest : Items)

/-- What rows are selected from, each table under a name of its own. -/
inductive Tables where
  | table (t name : String)
  | query (q : Query) (name : String)
  | join (first second : Tables) (test : Test)

/-- What selected rows have to meet. -/
inductive Test where
  | always
  | isMatch (e pattern : Term)
  | equal (a b : Term)
  | differ (a b : Term)
  | above (a b : Term)
  | between (e low high : Term)
  | among (e : Term) (es : List Term)
  | within (e : Term) (q : Query)
  | and (a b : Test)
  | or (a b : Test)

end

/-- A query and how many of its rows are wanted. -/
structure Statement where
  query : Query
  limit : Option Term

/-! ## Terms -/

namespace Term

/-- A column or a value. -/
def readSimple : List Token → Option (Term × List Token)
  | .name t :: .sign .dot :: .name c :: ts => some (.ofTable t c, ts)
  | .name c :: ts => some (.column c, ts)
  | .value v :: ts => some (.value v, ts)
  | .number n :: ts => some (.value (.int n), ts)
  | _ => none

/-- What is between parentheses. -/
def readArgument (f : Term → Term) (ts : List Token) : Option (Term × List Token) := do
  let (e, ts) ← readSimple ts
  match ts with
  | .sign .right :: ts => some (f e, ts)
  | _ => none

/-- A column, a value or a function of one. -/
def readFactor : List Token → Option (Term × List Token)
  | .keyword .upper :: .sign .left :: ts => readArgument .upper ts
  | .name "cardinality" :: .sign .left :: ts => readArgument .cardinality ts
  | ts => readSimple ts

/-- A sum of one or two. -/
def read (ts : List Token) : Option (Term × List Token) := do
  let (a, ts) ← readFactor ts
  match ts with
  | .sign .plus :: ts => do
    let (b, ts) ← readFactor ts
    some (.sum a b, ts)
  | ts => some (a, ts)

/-- Terms with commas between them. -/
def readList : Nat → List Token → Option (List Term × List Token)
  | 0, _ => none
  | n + 1, ts => do
    let (e, ts) ← read ts
    match ts with
    | .sign .comma :: ts => do
      let (es, ts) ← readList n ts
      some (e :: es, ts)
    | ts => some ([e], ts)

end Term

/-! ## Queries -/

mutual

/-- Selections that are intersected, or a single one with an order. -/
def Query.read : Nat → List Token → Option (Query × List Token)
  | 0, _ => none
  | n + 1, ts => do
    let (items, ts) ← Query.readSelect n ts
    match ts with
    | .keyword .intersect :: _ => Query.readMore n (items []) ts
    | .keyword .order :: .keyword .by :: ts => do
      let (es, ts) ← Term.readList n ts
      some (items es, ts)
    | ts => some (items [], ts)

/-- Selections that are intersected with what is in front of them. -/
def Query.readMore : Nat → Query → List Token → Option (Query × List Token)
  | 0, _, _ => none
  | n + 1, q, .keyword .intersect :: ts => do
    let (select, ts) ← Query.readSelect n ts
    Query.readMore n (.intersect q (select [])) ts
  | _ + 1, q, ts => some (q, ts)

/-- A selection but for its order. -/
def Query.readSelect : Nat → List Token → Option ((List Term → Query) × List Token)
  | n + 1, .keyword .select :: ts => do
    let (items, ts) ← Items.read n ts
    match ts with
    | .keyword .from :: ts => do
      let (source, ts) ← Tables.read n ts
      match ts with
      | .keyword .where :: ts => do
        let (test, ts) ← Test.read n ts
        some (.select items source test, ts)
      | ts => some (.select items source .always, ts)
    | _ => none
  | _, _ => none

/-- The columns of a selection. -/
def Items.read : Nat → List Token → Option (Items × List Token)
  | n + 1, .sign .star :: ts => Items.readMore n .all ts
  | n + 1, .name t :: .sign .dot :: .sign .star :: ts => Items.readMore n (.allOf t) ts
  | n + 1, .keyword .array :: .sign .left :: ts => do
    let (q, ts) ← Query.read n ts
    match ts with
    | .sign .right :: .keyword .as :: .name s :: ts => Items.readMore n (.array q s) ts
    | _ => none
  | n + 1, ts => do
    let (e, ts) ← Term.read ts
    Items.readMore n (.term e) ts
  | 0, _ => none

/-- Columns behind others. -/
def Items.readMore : Nat → (Items → Items) → List Token → Option (Items × List Token)
  | n + 1, f, .sign .comma :: ts => do
    let (rest, ts) ← Items.read n ts
    some (f rest, ts)
  | _ + 1, f, ts => some (f .nil, ts)
  | 0, _, _ => none

/-- The tables of a selection. -/
def Tables.read : Nat → List Token → Option (Tables × List Token)
  | n + 1, ts => do
    let (first, ts) ← Tables.readOne n ts
    match ts with
    | .keyword .inner :: .keyword .join :: ts => do
      let (second, ts) ← Tables.readOne n ts
      match ts with
      | .keyword .on :: ts => do
        let (test, ts) ← Test.read n ts
        some (.join first second test, ts)
      | _ => none
    | ts => some (first, ts)
  | 0, _ => none

/-- A table under its own name or another one. -/
def Tables.readOne : Nat → List Token → Option (Tables × List Token)
  | _ + 1, .name t :: .keyword .as :: .name s :: ts => some (.table t s, ts)
  | _ + 1, .name t :: ts => some (.table t t, ts)
  | n + 1, .sign .left :: ts => do
    let (q, ts) ← Query.read n ts
    match ts with
    | .sign .right :: .keyword .as :: .name s :: ts => some (.query q s, ts)
    | _ => none
  | _, _ => none

/-- Tests with `OR` between them. -/
def Test.read : Nat → List Token → Option (Test × List Token)
  | n + 1, ts => do
    let (a, ts) ← Test.readBoth n ts
    match ts with
    | .keyword .or :: ts => do
      let (b, ts) ← Test.read n ts
      some (.or a b, ts)
    | ts => some (a, ts)
  | 0, _ => none

/-- Tests with `AND` between them. -/
def Test.readBoth : Nat → List Token → Option (Test × List Token)
  | n + 1, ts => do
    let (a, ts) ← Test.readOne n ts
    match ts with
    | .keyword .and :: ts => do
      let (b, ts) ← Test.readBoth n ts
      some (.and a b, ts)
    | ts => some (a, ts)
  | 0, _ => none

/-- A test in parentheses, or one of a term. -/
def Test.readOne : Nat → List Token → Option (Test × List Token)
  | n + 1, .sign .left :: ts => do
    let (a, ts) ← Test.read n ts
    match ts with
    | .sign .right :: ts => some (a, ts)
    | _ => none
  | n + 1, ts => do
    let (e, ts) ← Term.read ts
    Test.readOf n e ts
  | 0, _ => none

/-- What a term is tested for. -/
def Test.readOf : Nat → Term → List Token → Option (Test × List Token)
  | _ + 1, e, .sign .tilde :: .sign .star :: ts => do
    let (p, ts) ← Term.read ts
    some (.isMatch e p, ts)
  | _ + 1, e, .sign .equal :: ts => do
    let (b, ts) ← Term.read ts
    some (.equal e b, ts)
  | _ + 1, e, .sign .less :: .sign .greater :: ts => do
    let (b, ts) ← Term.read ts
    some (.differ e b, ts)
  | _ + 1, e, .sign .greater :: ts => do
    let (b, ts) ← Term.read ts
    some (.above e b, ts)
  | _ + 1, e, .keyword .between :: ts => do
    let (low, ts) ← Term.read ts
    match ts with
    | .keyword .and :: ts => do
      let (high, ts) ← Term.read ts
      some (.between e low high, ts)
    | _ => none
  | n + 1, e, .keyword .in :: .sign .left :: .keyword .select :: ts => do
    let (q, ts) ← Query.read n (.keyword .select :: ts)
    match ts with
    | .sign .right :: ts => some (.within e q, ts)
    | _ => none
  | n + 1, e, .keyword .in :: .sign .left :: ts => do
    let (es, ts) ← Term.readList n ts
    match ts with
    | .sign .right :: ts => some (.among e es, ts)
    | _ => none
  | _, _, _ => none

end

/-- The statement that tokens are, if they are one. -/
def Statement.read (ts : List Token) : Option Statement := do
  let (query, ts) ← Query.read (4 * ts.length) ts
  match ts with
  | [] => some ⟨query, none⟩
  | .keyword .limit :: ts =>
    match ← Term.read ts with
    | (limit, []) => some ⟨query, some limit⟩
    | _ => none
  | _ => none

end FacetSearch.Sql

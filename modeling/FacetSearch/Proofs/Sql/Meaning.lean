import FacetSearch.Firsts
import FacetSearch.Proofs.Sql.Syntax
/-!
# The meaning of statements

What a database answers to a statement. How it compares values, matches patterns and brings texts into capitals is
its own affair and left open in `Server`; all that is known is that equality is one. A comparison with a missing
value is false. The rows of a table come in the order in which the database has them, and a limit keeps the first.
-/

namespace FacetSearch.Sql

/-- What a database does to values. -/
structure Server where
  upper : Value → Value
  isMatch : Value → Value → Bool
  equal : Value → Value → Bool
  atMost : Value → Value → Bool
  add : Value → Value → Value
  equal_refl : ∀ a, equal a a = true
  equal_symm : ∀ a b, equal a b = true → equal b a = true
  equal_trans : ∀ a b c, equal a b = true → equal b c = true → equal a c = true

/-- A row: its columns with their values. -/
abbrev Row := List (String × Value)

/-- The value of a column, missing if there is no such column. -/
def Row.cell (row : Row) (c : String) : Value := (row.lookup c).getD .null

/-- The value of the first column. -/
def Row.first (row : Row) : Value := (row.map Prod.snd).headD .null

/-- The rows of each table. -/
structure Database where
  rows : String → List Row

/-- The rows that columns are taken from, each under the name of its table, those of the innermost selection first. -/
abbrev Scope := List (String × Row)

namespace Server

variable (s : Server)

/-- A comparison, which is false for missing values. -/
def compare (f : Value → Value → Bool) (a b : Value) : Bool := !a.isNull && !b.isNull && f a b

/-- Both values are there and equal. -/
def same (a b : Value) : Bool := compare s.equal a b

/-- Both values are missing, or they are equal. -/
def alike (a b : Value) : Bool := a.isNull && b.isNull || s.same a b

/-- Both rows have the same values. -/
def alikeRows (a b : Row) : Bool :=
  a.length == b.length && (List.zip a b).all fun p => s.alike p.1.2 p.2.2

/-- A value in capitals. -/
def fold (v : Value) : Value := if v.isNull then .null else s.upper v

/-- The sum of two values. -/
def plus (a b : Value) : Value := if a.isNull || b.isNull then .null else s.add a b

/-- The first value is at most the second and that is not at most the first. -/
def less (a b : Value) : Bool := s.atMost a b && !s.atMost b a

/-- The first list of values comes no later than the second; the first values that differ decide. -/
def inOrder : List Value → List Value → Bool
  | a :: as, b :: bs => s.less a b || s.atMost a b && inOrder as bs
  | _, _ => true

end Server

/-- The number of members of a list, missing if it is none. -/
def cardinality : Value → Value
  | .list vs => .int vs.length
  | _ => .null

/-- The value of a term. A column that is named by itself is one of the first table of the selection. -/
def Term.eval (s : Server) (scope : Scope) : Term → Value
  | .column c => ((scope.head?.map Prod.snd).getD []).cell c
  | .ofTable t c => ((scope.lookup t).getD []).cell c
  | .value v => v
  | .upper e => s.fold (e.eval s scope)
  | .cardinality e => Sql.cardinality (e.eval s scope)
  | .sum a b => s.plus (a.eval s scope) (b.eval s scope)

/-- The name of the column that holds a term. -/
def Term.name : Term → String
  | .column c => c
  | .ofTable _ c => c
  | _ => ""

/-- Rows of tables in the order of terms; without terms they stay as they are. -/
def arranged (s : Server) (outer : Scope) (order : List Term) (frames : List Scope) : List Scope :=
  if order.isEmpty then frames
  else frames.mergeSort fun a b =>
    s.inOrder (order.map (Term.eval s (a ++ outer))) (order.map (Term.eval s (b ++ outer)))

mutual

/-- The rows of a query inside others. -/
def Query.rows (s : Server) (db : Database) (outer : Scope) : Query → List Row
  | .select items source test order =>
    let frames := (source.frames s db outer).filter fun frame => test.holds s db (frame ++ outer)
    (arranged s outer order frames).map fun frame => items.row s db frame (frame ++ outer)
  | .intersect first second =>
    let common := (first.rows s db outer).filter fun a => (second.rows s db outer).any fun b => s.alikeRows a b
    firstsBy s.alikeRows common

/-- The row of a selection. -/
def Items.row (s : Server) (db : Database) (frame scope : Scope) : Items → Row
  | .nil => []
  | .all rest => frame.flatMap Prod.snd ++ rest.row s db frame scope
  | .allOf t rest => (scope.lookup t).getD [] ++ rest.row s db frame scope
  | .term e rest => (e.name, e.eval s scope) :: rest.row s db frame scope
  | .array q name rest => (name, .list ((q.rows s db scope).map Row.first)) :: rest.row s db frame scope

/-- The rows of the tables of a selection, side by side. -/
def Tables.frames (s : Server) (db : Database) (outer : Scope) : Tables → List Scope
  | .table t name => (db.rows t).map fun row => [(name, row)]
  | .query q name => (q.rows s db outer).map fun row => [(name, row)]
  | .join first second test =>
    (first.frames s db outer).flatMap fun a => ((second.frames s db outer).map (a ++ ·)).filter fun frame =>
      test.holds s db (frame ++ outer)

/-- The test holds. -/
def Test.holds (s : Server) (db : Database) (scope : Scope) : Test → Bool
  | .always => true
  | .isMatch e p => Server.compare s.isMatch (e.eval s scope) (p.eval s scope)
  | .equal a b => s.same (a.eval s scope) (b.eval s scope)
  | .differ a b => Server.compare (fun x y => !s.equal x y) (a.eval s scope) (b.eval s scope)
  | .above a b => Server.compare (fun x y => s.less y x) (a.eval s scope) (b.eval s scope)
  | .between e low high =>
    Server.compare s.atMost (low.eval s scope) (e.eval s scope) &&
      Server.compare s.atMost (e.eval s scope) (high.eval s scope)
  | .among e es => es.any fun x => s.same (e.eval s scope) (x.eval s scope)
  | .within e q => (q.rows s db scope).any fun row => s.same (e.eval s scope) row.first
  | .and a b => a.holds s db scope && b.holds s db scope
  | .or a b => a.holds s db scope || b.holds s db scope

end

/-- The first rows, as many as a limit says; a limit is a number that is not negative. -/
def cut (limit : Value) (rows : List Row) : Option (List Row) :=
  match limit with
  | .null => some rows
  | .int n => if 0 ≤ n then some (rows.take n.toNat) else none
  | _ => none

/-- The rows that a statement selects. -/
def Statement.answer (s : Server) (db : Database) (st : Statement) : Option (List Row) :=
  let rows := st.query.rows s db []
  match st.limit with
  | none => some rows
  | some limit => cut (limit.eval s []) rows

end FacetSearch.Sql

namespace FacetSearch.Fragment

/-- The rows that a database answers to a fragment, if it is a statement. -/
def answer (s : Sql.Server) (db : Sql.Database) (f : Fragment) : Option (List Sql.Row) := do
  (← Sql.Statement.read f.tokens).answer s db

end FacetSearch.Fragment

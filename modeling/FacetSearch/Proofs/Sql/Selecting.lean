import FacetSearch.Proofs.Sql.Meaning
import FacetSearch.Proofs.Sql.Reading.Search
/-!
# What selections select

A selection yields a value if one of its rows has an equal one, and an intersection yields what all of its parts do
(`yields_intersect`). So a search answers the rows of its table whose keys are yielded by every selection
(`answer_ofSearch`), whatever its server makes of values.
-/

namespace FacetSearch.Sql

variable (s : Server) (db : Database)

/-! ## Equality -/

namespace Server

theorem compare_eq_true {f : Value → Value → Bool} {a b : Value} :
    compare f a b = true ↔ a.isNull = false ∧ b.isNull = false ∧ f a b = true := by
  simp [compare, and_assoc]

theorem same_symm {a b : Value} (h : s.same a b = true) : s.same b a = true := by
  obtain ⟨ha, hb, h⟩ := compare_eq_true.1 h
  exact compare_eq_true.2 ⟨hb, ha, s.equal_symm a b h⟩

theorem same_trans {a b c : Value} (h₁ : s.same a b = true) (h₂ : s.same b c = true) : s.same a c = true := by
  obtain ⟨ha, -, h₁⟩ := compare_eq_true.1 h₁
  obtain ⟨-, hc, h₂⟩ := compare_eq_true.1 h₂
  exact compare_eq_true.2 ⟨ha, hc, s.equal_trans a b c h₁ h₂⟩

theorem alike_refl (a : Value) : s.alike a a = true := by
  cases ha : a.isNull with
  | true => simp [alike, ha]
  | false => simp [alike, same, compare, ha, s.equal_refl]

/-- Next to a value that is there, alike is equal. -/
theorem alike_iff_same {a b : Value} (ha : a.isNull = false) : s.alike a b = true ↔ s.same a b = true := by
  simp [alike, ha]

theorem alikeRows_refl (a : Row) : s.alikeRows a a = true := by
  simp only [alikeRows, beq_self_eq_true, Bool.true_and, List.all_eq_true]
  intro p hp
  obtain ⟨i, hi, rfl⟩ := List.getElem_of_mem hp
  simp [s.alike_refl]

theorem alikeRows_of_length {a b : Row} (ha : a.length = 1) (hb : b.length = 1) :
    s.alikeRows a b = s.alike a.first b.first := by
  obtain ⟨p, rfl⟩ := List.length_eq_one_iff.1 ha
  obtain ⟨q, rfl⟩ := List.length_eq_one_iff.1 hb
  simp [alikeRows, Row.first]

end Server

/-! ## What queries yield -/

namespace Query

/-- The rows of a query have one column. -/
def IsSingle (scope : Scope) (q : Query) : Prop := ∀ row ∈ q.rows s db scope, row.length = 1

/-- The value is equal to one that the query selects. -/
def Yields (scope : Scope) (q : Query) (x : Value) : Prop := ∃ row ∈ q.rows s db scope, s.same x row.first = true

variable {s db} {scope : Scope}

theorem mem_rows_intersect {q r : Query} {row : Row} (h : row ∈ (intersect q r).rows s db scope) :
    row ∈ q.rows s db scope ∧ ∃ b ∈ r.rows s db scope, s.alikeRows row b = true := by
  rw [rows] at h
  have h := mem_of_mem_firstsBy h
  simpa using h

theorem IsSingle.intersect {q r : Query} (hq : q.IsSingle s db scope) : (intersect q r).IsSingle s db scope :=
  fun row h => hq row (mem_rows_intersect h).1

/-- An intersection yields what both of its parts do. -/
theorem yields_intersect {q r : Query} (hq : q.IsSingle s db scope) (hr : r.IsSingle s db scope) (x : Value) :
    (intersect q r).Yields s db scope x ↔ q.Yields s db scope x ∧ r.Yields s db scope x := by
  constructor
  · rintro ⟨row, hrow, hx⟩
    obtain ⟨hmem, b, hb, hab⟩ := mem_rows_intersect hrow
    refine ⟨⟨row, hmem, hx⟩, b, hb, s.same_trans hx ?_⟩
    rw [s.alikeRows_of_length (hq row hmem) (hr b hb)] at hab
    exact (s.alike_iff_same (Server.compare_eq_true.1 hx).2.1).1 hab
  · rintro ⟨⟨a, ha, hxa⟩, b, hb, hxb⟩
    have hab : s.alikeRows a b = true := by
      rw [s.alikeRows_of_length (hq a ha) (hr b hb), s.alike_iff_same (Server.compare_eq_true.1 hxa).2.1]
      exact s.same_trans (s.same_symm hxa) hxb
    have hcommon : a ∈ (q.rows s db scope).filter fun a => (r.rows s db scope).any fun b => s.alikeRows a b :=
      List.mem_filter.2 ⟨ha, List.any_eq_true.2 ⟨b, hb, hab⟩⟩
    -- of equal rows only the first is kept, and it need not be the one at hand
    obtain ⟨c, hc, hca⟩ := exists_mem_firstsBy s.alikeRows_refl hcommon
    have hmem := (List.mem_filter.1 (mem_of_mem_firstsBy hc)).1
    refine ⟨c, by rw [rows]; exact hc, ?_⟩
    rw [s.alikeRows_of_length (hq c hmem) (hq a ha)] at hca
    have hsame : s.same c.first a.first = true := by
      simpa [Server.alike, (Server.compare_eq_true.1 hxa).2.1] using hca
    exact s.same_trans hxa (s.same_symm hsame)

theorem isSingle_ofSelection (sel : Selection) : (ofSelection sel).IsSingle s db scope := by
  intro row h
  simp only [ofSelection, rows, arranged, List.isEmpty_nil, if_true, Items.row, List.mem_map] at h
  obtain ⟨frame, -, rfl⟩ := h
  rfl

/-- A selection yields the identifiers of those rows of its tables that meet its condition. -/
theorem yields_ofSelection (sel : Selection) (x : Value) : (ofSelection sel).Yields s db scope x ↔
    ∃ frame ∈ (Tables.ofSource sel.source).frames s db scope,
      (Test.ofCondition sel.condition).holds s db (frame ++ scope) = true ∧
      s.same x ((Term.ofSource sel.source).eval s (frame ++ scope)) = true := by
  simp only [Yields, ofSelection, rows, arranged, List.isEmpty_nil, if_true, Items.row, List.mem_map, List.mem_filter]
  constructor
  · rintro ⟨_, ⟨frame, ⟨hf, ht⟩, rfl⟩, hx⟩
    exact ⟨frame, hf, ht, hx⟩
  · rintro ⟨frame, hf, ht, hx⟩
    exact ⟨_, ⟨frame, ⟨hf, ht⟩, rfl⟩, hx⟩

/-- Intersected selections yield what all of them do. -/
theorem yields_ofSelections (sel : Selection) (ss : List Selection) (x : Value) :
    (ofSelections sel ss).Yields s db scope x ↔ ∀ y ∈ sel :: ss, (ofSelection y).Yields s db scope x := by
  have hfold : ∀ q : Query, q.IsSingle s db scope →
      ((ss.foldl (fun q y => .intersect q (.ofSelection y)) q).Yields s db scope x ↔
        q.Yields s db scope x ∧ ∀ y ∈ ss, (ofSelection y).Yields s db scope x) := by
    induction ss with
    | nil => simp
    | cons y ss ih =>
      intro q hq
      rw [List.foldl_cons, ih _ hq.intersect, yields_intersect hq (isSingle_ofSelection y), List.forall_mem_cons,
        and_assoc]
  rw [ofSelections, hfold _ (isSingle_ofSelection sel), List.forall_mem_cons]

end Query

/-! ## What searches answer -/

/-- The value of the term is yielded by all selections. -/
theorem holds_inSelections (e : Term) (scope : Scope) (ss : List Selection) :
    (Test.inSelections e ss).holds s db scope = true ↔
      ∀ sel ∈ ss, (Query.ofSelection sel).Yields s db scope (e.eval s scope) := by
  cases ss with
  | nil => simp [Test.inSelections, Test.holds]
  | cons sel ss =>
    rw [← Query.yields_ofSelections]
    simp [Test.inSelections, Test.holds, Query.Yields]

/-- The key of the row is yielded by all selections. -/
theorem holds_ofSelections (key t : String) (row : Row) (ss : List Selection) :
    (Test.ofSelections key ss).holds s db [(t, row)] = true ↔
      ∀ sel ∈ ss, (Query.ofSelection sel).Yields s db [(t, row)] (row.cell key) := by
  rw [Test.ofSelections_eq, holds_inSelections]
  rfl

theorem rows_ofSearch (table key : String) (ss : List Selection) (limit : Option Value) :
    (Statement.ofSearch table key ss limit).query.rows s db [] =
      (db.rows table).filter fun row => (Test.ofSelections key ss).holds s db [(table, row)] := by
  simp [Statement.ofSearch, Query.rows, Tables.frames, arranged, Items.row, List.filter_map, Function.comp_def]

/-- At most so many rows, the first ones. -/
def atMost (limit : Option Int) (rows : List Row) : List Row :=
  match limit with
  | none => rows
  | some n => rows.take n.toNat

/-- A search answers the rows whose keys are yielded by all selections, at most so many. -/
theorem answer_ofSearch (table key : String) (ss : List Selection) {limit : Option Int}
    (h : ∀ n, limit = some n → 0 < n) :
    (Statement.ofSearch table key ss (limit.map .int)).answer s db =
      some (atMost limit ((db.rows table).filter fun row => (Test.ofSelections key ss).holds s db [(table, row)])) := by
  rw [Statement.answer, rows_ofSearch]
  cases limit with
  | none => rfl
  | some n =>
    have hn : 0 ≤ n := Int.le_of_lt (h n rfl)
    simp [Statement.ofSearch, Term.eval, cut, hn, atMost]

end FacetSearch.Sql

import FacetSearch.Proofs.Limited
import FacetSearch.Proofs.Steps
import FacetSearch.Service.Search
/-!
# What is sent to the database

A session only ever adds to the statements that were sent. What is sent for a search, for an extraction and for the
rows that belong to it is the one statement that was made for each of them, so that it ends in the limit that was asked
for.
-/

namespace FacetSearch

/-- One session comes after another, and the statements that were sent in between have the property. -/
def Session.Sends (P : Bound → Prop) (s s' : Session) : Prop :=
  ∃ sent, s'.statements = s.statements ++ sent ∧ ∀ b ∈ sent, P b

namespace Session

variable {P : Bound → Prop} {s s' s'' : Session}

theorem Sends.of_statements_eq (h : s'.statements = s.statements) : Sends P s s' := ⟨[], by simpa using h, by simp⟩

theorem Sends.trans (h : Sends P s s') (h' : Sends P s' s'') : Sends P s s'' := by
  obtain ⟨sent, hs, hall⟩ := h
  obtain ⟨sent', hs', hall'⟩ := h'
  refine ⟨sent ++ sent', by rw [hs', hs, List.append_assoc], ?_⟩
  intro b hb
  rcases List.mem_append.1 hb with hb | hb
  · exact hall b hb
  · exact hall' b hb

instance : Std.Refl (Sends P) := ⟨fun _ => .of_statements_eq rfl⟩

instance : IsTrans Session (Sends P) := ⟨fun _ _ _ => Sends.trans⟩

@[simp] theorem record_statements (s : Session) (r : LogRecord) : (s.record r).statements = s.statements := by
  unfold record
  split <;> rfl

@[simp] theorem recordAll_statements (s : Session) (rs : List LogRecord) :
    (s.recordAll rs).statements = s.statements := by
  induction rs generalizing s with
  | nil => rfl
  | cons r rs ih => exact (ih (s.record r)).trans (record_statements s r)

theorem send_statements (s : Session) (b : Bound) : (s.send b).2.statements = s.statements ++ [b] := by
  simp only [send]
  split <;> rfl

end Session

namespace Exchange

variable {α : Type} {P : Bound → Prop}

theorem lift_obeys {x : Except Error α} : Obeys (Session.Sends P) (fun a => x = .ok a) (lift x) := by
  cases x with
  | ok a => exact .pure rfl
  | error e => exact .throw e

theorem report_obeys {level : LogLevel} {source : LogSource} {message : String} :
    Obeys (Session.Sends P) (fun _ => True) (report level source message) :=
  .modify fun s => .of_statements_eq (s.record_statements _)

theorem connect_obeys : Obeys (Session.Sends P) (fun _ => True) connect := by
  refine .get_bind fun s => ?_
  cases s.database.refusal with
  | some e => exact .throw e
  | none => exact .pure trivial

theorem execute_obeys {b : Bound} (hb : P b) : Obeys (Session.Sends P) (fun _ => True) (execute b) := by
  have hsend : Obeys (Session.Sends P) (fun _ => True) (modifyGet fun s => s.send b : Exchange Reply) := by
    intro s
    refine ⟨⟨[b], s.send_statements b, ?_⟩, fun _ _ => trivial⟩
    simpa using hb
  refine .bind hsend fun reply _ => ?_
  cases reply with
  | rows rows => exact .pure trivial
  | failure e => exact .throw e

theorem reflect_obeys : Obeys (Session.Sends P) (fun _ => True) reflect := by
  refine .bind (.modify fun s => .of_statements_eq rfl) fun _ _ => .get_bind fun s => .bind lift_obeys ?_
  rintro ⟨catalog, records⟩ -
  exact .bind (.modify fun s => .of_statements_eq (s.recordAll_statements records)) fun _ _ => .pure trivial

theorem ping_obeys (h : P pingStatement) : Obeys (Session.Sends P) (fun _ => True) ping :=
  .tryCatch (.bind connect_obeys fun _ _ => .bind (execute_obeys h) fun _ _ => .pure trivial)
    fun _ => .bind report_obeys fun _ _ => .pure trivial

theorem resolve_obeys {catalog : Option Catalog} : Obeys (Session.Sends P) (fun _ => True) (resolve catalog) := by
  cases catalog with
  | some c => exact .pure trivial
  | none => exact reflect_obeys

theorem selections_obeys {catalog : Catalog} {table : Value} {c : Criteria} :
    Obeys (Session.Sends P) (fun _ => True) (selections catalog table c) :=
  .bind lift_obeys fun _ _ => .bind lift_obeys fun _ _ => .bind report_obeys fun _ _ => .pure trivial

/-! ## Statements with their limits -/

theorem searchStatement_obeys {catalog : Catalog} {table : Value} {c : Criteria} :
    Obeys (Session.Sends P) (·.IsLimited (c.limit.map .int)) (searchStatement catalog table c) :=
  .bind selections_obeys fun _ _ => .bind lift_obeys fun _ hf =>
    .bind report_obeys fun _ _ => .pure (Search.isLimited_of_compose hf)

theorem extractionStatement_obeys {catalog : Catalog} {table : Value} {e : Extraction} :
    Obeys (Session.Sends P) (·.IsLimited e.limit) (extractionStatement catalog table e) := by
  refine .bind lift_obeys ?_
  rintro ⟨n, lower, upper⟩ -
  exact .bind selections_obeys fun _ _ => .bind selections_obeys fun _ _ => .bind lift_obeys fun _ hf =>
    .bind report_obeys fun _ _ => .pure (Extraction.isLimited_of_statement hf)

/-- A statement with a limit is sent as one that ends in it. -/
theorem fetch_obeys {f : Fragment} {n : Int} (hf : f.IsLimited (some (.int n))) (hP : ∀ b, b.EndsInLimit n → P b) :
    Obeys (Session.Sends P) (fun _ => True) (fetch f) := by
  obtain ⟨g, rfl⟩ := hf
  have hbind : Obeys (Session.Sends P) (·.EndsInLimit n) (bind (g ++ Fragment.limitClause (some (.int n)))) :=
    .bind lift_obeys fun _ hb => .bind report_obeys fun _ _ => .pure (Bound.endsInLimit_of_ofFragment hb)
  refine .bind hbind fun b hb => ?_
  exact .bind connect_obeys fun _ _ => .bind (execute_obeys (hP b hb)) fun _ _ =>
    .bind report_obeys fun _ _ => .pure trivial

theorem searchRows_obeys {catalog : Option Catalog} {table : Value} {c : Criteria} {n : Int} (hc : c.limit = some n)
    (hP : ∀ b, b.EndsInLimit n → P b) : Obeys (Session.Sends P) (fun _ => True) (searchRows catalog table c) := by
  refine .bind resolve_obeys fun _ _ => .bind searchStatement_obeys fun f hf => ?_
  rw [hc] at hf
  exact .bind (fetch_obeys hf hP) fun _ _ => .bind report_obeys fun _ _ => .pure trivial

theorem extractRows_obeys {catalog : Option Catalog} {table : Value} {e : Extraction} {n : Int}
    (he : e.limit = some (.int n)) (hP : ∀ b, b.EndsInLimit n → P b) :
    Obeys (Session.Sends P) (fun _ => True) (extractRows catalog table e) := by
  refine .bind resolve_obeys fun _ _ => .bind extractionStatement_obeys fun f hf => ?_
  rw [he] at hf
  exact .bind (fetch_obeys hf hP) fun _ _ => .bind report_obeys fun _ _ => .pure trivial

theorem uniqueRows_obeys {catalog : Option Catalog} {table : Value} {rows : List Value} {n : Int}
    (hP : ∀ b, b.EndsInLimit n → P b) :
    Obeys (Session.Sends P) (fun _ => True) (uniqueRows catalog table rows (some (.int n))) := by
  refine .bind lift_obeys fun identifiers _ => ?_
  by_cases hnone : identifiers.isEmpty
  · simp only [hnone]
    exact .pure trivial
  · simp only [hnone]
    exact .bind resolve_obeys fun _ _ => .bind lift_obeys fun _ hf =>
      .bind (fetch_obeys (Lookup.isLimited_of_compile hf) hP) fun _ _ =>
        .bind report_obeys fun _ _ => .pure trivial

end Exchange

end FacetSearch

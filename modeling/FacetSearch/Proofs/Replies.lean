import FacetSearch.Proofs.Exchanges
import FacetSearch.Proofs.Rebinding
/-!
# What comes of asking the database

Rows are asked for with one statement, and only when that is made and bound: either nothing is sent at all, or one
statement is, and what comes of it is the reply (`Session.Asked`). For the rows that belong to an extraction the
statement is made of the identifiers that came back. As the extraction was compiled and bound already, nothing can go
wrong with it but that identifiers are no literals of the key (`uniqueRows_ends`).
-/

namespace FacetSearch

/-- The error is not reported to whoever searches. -/
def Error.Unreported (e : Error) : Prop := e.report? = none

namespace Session

/-- In between nothing was sent, and the database stayed as it was. -/
structure Still (s s' : Session) : Prop where
  statements : s'.statements = s.statements
  database : s'.database = s.database

/-- In between the statement was sent, and the database has given its reply. -/
structure Sent (s : Session) (b : Bound) (s' : Session) : Prop where
  statements : s'.statements = s.statements ++ [b]
  database : s'.database = { s.database with replies := s.database.replies.tail }

/-- The reply to the next statement; without a reply there are no rows. -/
def nextReply (s : Session) : Reply := s.database.replies.headD (.rows [])

/-- What comes of asking for rows: an error before anything is sent, or what the database replies to a statement. -/
inductive Asked (P : Bound → Prop) (U : Error → Prop) (s : Session) : Except Error (List Value) → Session → Prop
  | unsent {e s'} (he : U e) (h : s.Still s') : Asked P U s (.error e) s'
  | failed {b e s'} (hb : P b) (h : s.Sent b s') (hreply : s.nextReply = .failure e) : Asked P U s (.error e) s'
  | answered {b rows s'} (hb : P b) (hopen : s.database.refusal = none) (h : s.Sent b s')
    (hreply : s.nextReply = .rows rows) : Asked P U s (.ok rows) s'

variable {s s' s'' : Session}

instance : Std.Refl Still := ⟨fun _ => ⟨rfl, rfl⟩⟩

theorem Still.trans (h : s.Still s') (h' : s'.Still s'') : s.Still s'' :=
  ⟨h'.statements.trans h.statements, h'.database.trans h.database⟩

instance : IsTrans Session Still := ⟨fun _ _ _ => Still.trans⟩

theorem still_record (s : Session) (r : LogRecord) : s.Still (s.record r) := by
  unfold record
  split <;> exact ⟨rfl, rfl⟩

theorem still_recordAll (s : Session) (rs : List LogRecord) : s.Still (s.recordAll rs) := by
  induction rs generalizing s with
  | nil => exact ⟨rfl, rfl⟩
  | cons r rs ih => exact (still_record s r).trans (ih (s.record r))

theorem Still.sent {b : Bound} (h : s.Still s') (h' : s'.Sent b s'') : s.Sent b s'' :=
  ⟨h.statements ▸ h'.statements, h.database ▸ h'.database⟩

theorem Sent.still {b : Bound} (h : s.Sent b s') (h' : s'.Still s'') : s.Sent b s'' :=
  ⟨h'.statements.trans h.statements, h'.database.trans h.database⟩

theorem Sent.statements_trans {b b' : Bound} (h : s.Sent b s') (h' : s'.Sent b' s'') :
    s''.statements = s.statements ++ [b, b'] := by
  rw [h'.statements, h.statements, List.append_assoc]
  rfl

theorem sent_send (s : Session) (b : Bound) : s.Sent b (s.send b).2 := by
  rcases s with ⟨⟨inspector, refusal, _ | ⟨reply, replies⟩⟩, thresholds, statements, reflections, log⟩ <;>
    exact ⟨rfl, rfl⟩

theorem mem_replies {e : Error} (h : s.nextReply = .failure e) : .failure e ∈ s.database.replies := by
  unfold nextReply at h
  cases hreplies : s.database.replies with
  | nil => cases hreplies ▸ h
  | cons reply replies =>
    rw [hreplies] at h
    exact h ▸ List.mem_cons_self

theorem Still.nextReply (h : s.Still s') : s'.nextReply = s.nextReply := by
  rw [Session.nextReply, Session.nextReply, h.database]

theorem Still.asked {P : Bound → Prop} {U : Error → Prop} {r : Except Error (List Value)} (h : s.Still s')
    (ha : Asked P U s' r s'') : Asked P U s r s'' := by
  cases ha with
  | unsent he hs => exact .unsent he (h.trans hs)
  | failed hb hs hr => exact .failed hb (h.sent hs) (h.nextReply ▸ hr)
  | answered hb hopen hs hr => exact .answered hb (h.database ▸ hopen) (h.sent hs) (h.nextReply ▸ hr)

theorem Asked.still {P : Bound → Prop} {U : Error → Prop} {r : Except Error (List Value)} (h : Asked P U s r s')
    (hs : s'.Still s'') : Asked P U s r s'' := by
  cases h with
  | unsent he h => exact .unsent he (h.trans hs)
  | failed hb h hr => exact .failed hb (h.still hs) hr
  | answered hb hopen h hr => exact .answered hb hopen (h.still hs) hr

theorem Asked.mono {P P' : Bound → Prop} {U U' : Error → Prop} {r : Except Error (List Value)} (hP : ∀ b, P b → P' b)
    (hU : ∀ e, U e → U' e) (h : Asked P U s r s') : Asked P' U' s r s' := by
  cases h with
  | unsent he h => exact .unsent (hU _ he) h
  | failed hb h hr => exact .failed (hP _ hb) h hr
  | answered hb hopen h hr => exact .answered (hP _ hb) hopen h hr

end Session

/-- The bound statement is that of the fragment that was compiled. -/
def Bound.From (compiled : Except Error Fragment) (b : Bound) : Prop := ∃ f, compiled = .ok f ∧ Bound.ofFragment f = .ok b

namespace Exchange

open Session

variable {α : Type} {P : Bound → Prop} {U : Error → Prop} {s : Session}

/-! ## Steps that send nothing -/

theorem lift_still {x : Except Error α} : Obeys Still (fun a => x = .ok a) (lift x) := by
  cases x with
  | ok a => exact .pure rfl
  | error e => exact .throw e

theorem report_still {level : LogLevel} {source : LogSource} {message : String} :
    Obeys Still (fun _ => True) (report level source message) := .modify fun s => s.still_record _

theorem reflect_still : Obeys Still (fun _ => True) reflect := by
  refine .bind (.modify fun s => ⟨rfl, rfl⟩) fun _ _ => .get_bind fun s => .bind lift_still ?_
  rintro ⟨catalog, records⟩ -
  exact .bind (.modify fun s => s.still_recordAll records) fun _ _ => .pure trivial

theorem selections_still {catalog : Catalog} {table : Value} {c : Criteria} :
    Obeys Still (fun ss => Selection.ofCriteria catalog table c = .ok ss) (selections catalog table c) :=
  .bind lift_still fun _ hs => .bind lift_still fun _ _ => .bind report_still fun _ _ => .pure hs

theorem searchStatement_still {catalog : Catalog} {table : Value} {c : Criteria} :
    Obeys Still (fun f => Search.compile catalog table c = .ok f) (searchStatement catalog table c) :=
  .bind selections_still fun _ hs => .bind lift_still fun _ hf => .bind report_still fun _ _ =>
    .pure (bind_eq_ok.2 ⟨_, hs, hf⟩)

theorem extractionStatement_still {catalog : Catalog} {table : Value} {e : Extraction} :
    Obeys Still (fun f => Extraction.compile catalog table e = .ok f) (extractionStatement catalog table e) := by
  refine .bind lift_still ?_
  rintro ⟨n, lower, upper⟩ hp
  exact .bind selections_still fun _ hi => .bind selections_still fun _ ho => .bind lift_still fun _ hf =>
    .bind report_still fun _ _ => .pure (bind_eq_ok.2 ⟨_, hp, bind_eq_ok.2 ⟨_, hi, bind_eq_ok.2 ⟨_, ho, hf⟩⟩⟩)

/-! ## Asking for rows -/

/-- What is done before anything is sent may fail in any way. -/
theorem asked_bind {Q : α → Prop} {x : Exchange α} {f : α → Exchange (List Value)} (hx : Obeys Still Q x)
    (hf : ∀ a, Q a → ∀ s, Ends (Asked P (fun _ => True) s) s (f a)) : Ends (Asked P (fun _ => True) s) s (x >>= f) := by
  refine .bind (hx.ends s) ?_ ?_
  · rintro a s' ⟨hs, ha⟩
    exact (hf a (ha a rfl) s').mono fun _ _ h => hs.asked h
  · rintro e s' ⟨hs, -⟩
    exact .unsent trivial hs

/-- What is lifted fails in a way that is known. -/
theorem asked_lift_bind {x : Except Error α} {f : α → Exchange (List Value)} (hx : FailsOnly U x)
    (hf : ∀ a, x = .ok a → Ends (Asked P U s) s (f a)) : Ends (Asked P U s) s (lift x >>= f) := by
  cases x with
  | ok a => exact hf a rfl
  | error e => exact .unsent (hx e rfl) ⟨rfl, rfl⟩

theorem asked_report_bind {level : LogLevel} {source : LogSource} {message : String} {f : PUnit → Exchange (List Value)}
    (h : ∀ s', s.Still s' → Ends (Asked P U s') s' (f ⟨⟩)) : Ends (Asked P U s) s (report level source message >>= f) :=
  (h _ (s.still_record _)).mono fun _ _ h => (s.still_record _).asked h

/-- What is reported about rows changes nothing. -/
theorem asked_bind_report {x : Exchange (List Value)} (h : Ends (Asked P U s) s x) {level : LogLevel}
    {source : LogSource} {message : List Value → String} :
    Ends (Asked P U s) s (do
      let rows ← x
      report level source (message rows)
      return rows) :=
  .bind h (fun _ s' hs => hs.still (s'.still_record _)) fun _ _ hs => hs

theorem connect_open (h : s.database.refusal = none) : connect.run.run s = (.ok ⟨⟩, s) := by
  obtain ⟨⟨inspector, refusal, replies⟩, thresholds, statements, reflections, log⟩ := s
  subst h
  rfl

theorem connect_refused {e : Error} (h : s.database.refusal = some e) : connect.run.run s = (.error e, s) := by
  obtain ⟨⟨inspector, refusal, replies⟩, thresholds, statements, reflections, log⟩ := s
  subst h
  rfl

theorem execute_rows {b : Bound} {rows : List Value} (h : s.nextReply = .rows rows) :
    (execute b).run.run s = (.ok rows, (s.send b).2) := by
  obtain ⟨⟨inspector, refusal, _ | ⟨reply, replies⟩⟩, thresholds, statements, reflections, log⟩ := s
  · cases h
    rfl
  · subst h
    rfl

theorem execute_failure {b : Bound} {e : Error} (h : s.nextReply = .failure e) :
    (execute b).run.run s = (.error e, (s.send b).2) := by
  obtain ⟨⟨inspector, refusal, _ | ⟨reply, replies⟩⟩, thresholds, statements, reflections, log⟩ := s
  · cases h
  · subst h
    rfl

theorem execute_ends {b : Bound} (hb : P b) (hopen : s.database.refusal = none) :
    Ends (Asked P U s) s (execute b) := by
  unfold Ends
  cases hreply : s.nextReply with
  | rows rows =>
    rw [execute_rows hreply]
    exact .answered hb hopen (s.sent_send b) hreply
  | failure e =>
    rw [execute_failure hreply]
    exact .failed hb (s.sent_send b) hreply

theorem asked_connect_bind {f : PUnit → Exchange (List Value)} (hrefusal : ∀ e, s.database.refusal = some e → U e)
    (hf : s.database.refusal = none → Ends (Asked P U s) s (f ⟨⟩)) : Ends (Asked P U s) s (connect >>= f) := by
  cases h : s.database.refusal with
  | some e => exact .bind_of_error (connect_refused h) (.unsent (hrefusal e h) ⟨rfl, rfl⟩)
  | none => exact .bind_of_ok (connect_open h) (hf h)

theorem fetch_eq (f : Fragment) : fetch f = (do
    let b ← lift (Bound.ofFragment f)
    report .debug .binder ("bound " ++ toString b.params.length ++ " parameters")
    rowsOf b) := by
  simp only [fetch, bind, bind_assoc, pure_bind]

/-- The statement that is bound is sent, unless the database cannot be connected to. -/
theorem fetch_ends {f : Fragment} (hb : FailsOnly U (Bound.ofFragment f))
    (hrefusal : ∀ e, s.database.refusal = some e → U e) :
    Ends (Asked (fun b => Bound.ofFragment f = .ok b) U s) s (fetch f) := by
  rw [fetch_eq]
  refine asked_lift_bind hb fun b hbound => ?_
  refine asked_report_bind fun s' hs => asked_connect_bind (hs.database ▸ hrefusal) fun hopen => ?_
  exact asked_bind_report (execute_ends hbound hopen)

/-! ## The rows that are asked for -/

/-- Whatever goes wrong with a statement before it is sent, nothing is sent then. -/
theorem fetch_of_compile {x : Except Error Fragment} {f : Fragment} (hf : x = .ok f) :
    Ends (Asked (Bound.From x) (fun _ => True) s) s (fetch f) :=
  (fetch_ends (fun _ _ => trivial) fun _ _ => trivial).mono fun _ _ h => h.mono (fun _ hb => ⟨f, hf, hb⟩) fun _ h => h

theorem searchRows_ends (catalog : Catalog) (table : Value) (c : Criteria) :
    Ends (Asked (Bound.From (Search.compile catalog table c)) (fun _ => True) s) s
      (searchRows (some catalog) table c) := by
  simp only [searchRows, resolve, pure_bind, reportRows]
  exact asked_bind searchStatement_still fun _ hf _ => asked_bind_report (fetch_of_compile hf)

theorem extractRows_ends (catalog : Catalog) (table : Value) (e : Extraction) :
    Ends (Asked (Bound.From (Extraction.compile catalog table e)) (fun _ => True) s) s
      (extractRows (some catalog) table e) := by
  simp only [extractRows, resolve, pure_bind, reportRows]
  exact asked_bind extractionStatement_still fun _ hf _ => asked_bind_report (fetch_of_compile hf)

end Exchange

/-! ## Rows that belong to an extraction -/

/-- The parameter can be bound. -/
def Param.Binds (p : Param) : Prop := ∃ v type, p.type.coerce p.value none = .ok v ∧ p.type.bindType? = some type

theorem Param.Settled.binds {p : Param} (h : p.Settled) : p.Binds := by
  obtain ⟨type, htype⟩ := ColumnType.exists_bindType h
  exact ⟨p.value, type, ColumnType.coerce_eq_ok.2 h, htype⟩

namespace Bound

theorem bindParam_succeeds {i : Nat} {p : Param} : (∃ b, bindParam i p = .ok b) ↔ p.Binds := by
  constructor
  · rintro ⟨b, h⟩
    obtain ⟨v, hv, h⟩ := bind_eq_ok.1 h
    cases htype : p.type.bindType? with
    | some type => exact ⟨v, type, hv, htype⟩
    | none => cases htype ▸ h
  · rintro ⟨v, type, hv, htype⟩
    refine ⟨⟨paramName i, v, type⟩, bind_eq_ok.2 ⟨v, hv, ?_⟩⟩
    rw [htype]
    rfl

/-- Parameters are bound if each of them can be. -/
theorem bindParams_succeeds {i : Nat} {ps : List Param} : (∃ bs, bindParams i ps = .ok bs) ↔ ∀ p ∈ ps, p.Binds := by
  induction ps generalizing i with
  | nil => exact iff_of_true ⟨[], rfl⟩ nofun
  | cons p ps ih =>
    rw [List.forall_mem_cons, ← ih (i := i + 1), ← bindParam_succeeds (i := i)]
    constructor
    · rintro ⟨bs, h⟩
      obtain ⟨b, hb, h⟩ := bind_eq_ok.1 h
      obtain ⟨rest, hrest, -⟩ := bind_eq_ok.1 h
      exact ⟨⟨b, hb⟩, ⟨rest, hrest⟩⟩
    · rintro ⟨⟨b, hb⟩, rest, hrest⟩
      exact ⟨b :: rest, bind_eq_ok.2 ⟨b, hb, bind_eq_ok.2 ⟨rest, hrest, rfl⟩⟩⟩

end Bound

/-- Some identifier that rows hold is no literal of the key column; this is the error. -/
def Lookup.Mistyped (catalog : Catalog) (table : Value) (rows : List Value) (e : Error) : Prop :=
  ∃ name key identifiers id, Name.tableAndKey catalog table = .ok (name, key) ∧
    uniqueIdentifiers extractedColumn rows = .ok identifiers ∧ id ∈ identifiers ∧
    ((catalog.columnType? name key).getD .string).coerce id (some (.text key)) = .error e

namespace Lookup

theorem uniqueIdentifiers_failsOnly (rows : List Value) :
    FailsOnly Error.Unreported (uniqueIdentifiers extractedColumn rows) := by
  refine .bind (.mapM fun row _ => ?_) fun _ _ => .ok _
  unfold identifiersOf
  split
  · refine .ite (fun _ => .ok _) fun _ => ?_
    split
    · exact .ite (fun _ => .ok _) fun _ => .error rfl
    · exact .error rfl
  · exact .error rfl

variable {catalog : Catalog} {table : Value} {limit : Option Value}

/-- For a table with a key, nothing but the identifiers can be wrong with a lookup. -/
theorem compile_failsOnly {name key : String} (hk : Name.tableAndKey catalog table = .ok (name, key))
    {rows ids : List Value} (hids : uniqueIdentifiers extractedColumn rows = .ok ids) (hne : ids ≠ []) :
    FailsOnly (Mistyped catalog table rows) (compile catalog table (.list ids) limit) := by
  have hitems : Selection.itemsOf (.list ids) .noIdentifiers = .ok ids := Selection.itemsOf_of_ne_nil hne
  refine .bind (.of_eq_ok hk) fun p hp => .bind (.of_eq_ok hitems) fun items hi => ?_
  obtain rfl := Except.ok.inj (hk.symm.trans hp)
  obtain rfl := Except.ok.inj (hitems.symm.trans hi)
  refine .bind (.mapM fun id hid e he => ⟨name, key, ids, id, hk, hids, hid, he⟩) fun bound hbound => ?_
  obtain ⟨htable, hkey⟩ := Name.isName_of_tableAndKey hk
  exact .bind (.of_eq_ok (append_opening htable hkey (params_ne_nil hne hbound))) fun g _ =>
    .of_eq_ok (Fragment.limited_eq g limit)

/-- A lookup is bound if its limit can be. -/
theorem ofFragment_of_compile {identifiers : Value} {f : Fragment} (h : compile catalog table identifiers limit = .ok f)
    (hlimit : ∀ p ∈ (Fragment.limitClause limit).params, p.Binds) : ∃ b, Bound.ofFragment f = .ok b := by
  have hstatement := Inquiry.statement_of_compile (q := .lookup identifiers limit) h
  obtain ⟨name, key, items, bound, -, -, hbound, rfl⟩ := compile_eq_ok h
  have hall : ∀ p ∈ (fragment name key (bound.map fun v => ⟨v, (catalog.columnType? name key).getD .string⟩) limit).params,
      p.Binds := by
    intro p hp
    rcases List.mem_append.1 hp with hp | hp
    · obtain ⟨v, hv, rfl⟩ := List.mem_map.1 hp
      obtain ⟨id, -, hid⟩ := exists_of_mem_right (mapM_eq_ok.1 hbound) hv
      exact Param.Settled.binds (ColumnType.literal?_of_literal? (ColumnType.coerce_eq_ok.1 hid))
    · exact hlimit p hp
  obtain ⟨bs, hbs⟩ := Bound.bindParams_succeeds.2 hall
  exact ⟨_, Bound.ofFragment_of_bindParams hstatement.wellFormed hstatement.accepted hbs⟩

end Lookup

/-- The limit of an extraction that was bound can be bound again. -/
theorem Extraction.limit_binds {catalog : Catalog} {table : Value} {e : Extraction} {b : Bound}
    (h : b.From (compile catalog table e)) : ∀ p ∈ (Fragment.limitClause e.limit).params, p.Binds := by
  obtain ⟨f, hf, hb⟩ := h
  obtain ⟨-, hparams⟩ := Bound.ofFragment_eq_ok hb
  have hall := Bound.bindParams_succeeds.1 ⟨_, hparams⟩
  obtain ⟨n, lower, upper, inner, outer, -, -, -, rfl⟩ := compile_eq_ok hf
  exact fun p hp => hall p (List.mem_append_right _ hp)

theorem Extraction.tableAndKey_of_compile {catalog : Catalog} {table : Value} {e : Extraction} {f : Fragment}
    (h : compile catalog table e = .ok f) : ∃ name key, Name.tableAndKey catalog table = .ok (name, key) := by
  obtain ⟨⟨n, lower, upper⟩, hprepare, -⟩ := bind_eq_ok.1 h
  obtain ⟨n, hnames, -⟩ := bind_eq_ok.1 hprepare
  obtain ⟨⟨name, key⟩, hk, -⟩ := bind_eq_ok.1 hnames
  exact ⟨name, key, hk⟩

namespace Exchange

open Session

/-- After an extraction its rows are looked up. Either there is nothing to look up, or one statement is made of the
identifiers that came back, unless one of these is no literal of the key. -/
theorem uniqueRows_ends {s : Session} {catalog : Catalog} {table : Value} {e : Extraction} {b : Bound}
    (hb : b.From (Extraction.compile catalog table e)) (hopen : s.database.refusal = none) (rows : List Value) :
    Ends (fun r s' => (r = .ok [] ∧ s.Still s') ∨
        Asked (fun _ => True) (fun err => err.Unreported ∨ Lookup.Mistyped catalog table rows err) s r s') s
      (uniqueRows (some catalog) table rows e.limit) := by
  obtain ⟨name, key, hk⟩ := Extraction.tableAndKey_of_compile hb.choose_spec.1
  cases hids : uniqueIdentifiers extractedColumn rows with
  | error err =>
    simp only [uniqueRows, hids]
    exact .inr (.unsent (.inl (Lookup.uniqueIdentifiers_failsOnly rows err hids)) ⟨rfl, rfl⟩)
  | ok ids =>
    cases ids with
    | nil =>
      simp only [uniqueRows, hids]
      exact .inl ⟨rfl, rfl, rfl⟩
    | cons id ids =>
      have hrows : uniqueRows (some catalog) table rows e.limit = (do
          let f ← lift (Lookup.compile catalog table (.list (id :: ids)) e.limit)
          let found ← fetch f
          reportRows "unique extraction" table found
          return found) := by
        simp only [uniqueRows, hids]
        rfl
      rw [hrows]
      have hcompiles : FailsOnly (Lookup.Mistyped catalog table rows)
          (Lookup.compile catalog table (.list (id :: ids)) e.limit) :=
        Lookup.compile_failsOnly hk hids (List.cons_ne_nil id ids)
      refine (asked_lift_bind (fun err h => .inr (hcompiles err h)) fun f hf => ?_).mono fun _ _ => .inr
      obtain ⟨lookup, hlookup⟩ := Lookup.ofFragment_of_compile hf (Extraction.limit_binds hb)
      refine asked_bind_report ?_
      refine (fetch_ends (.of_eq_ok hlookup) ?_).mono fun _ _ h => h.mono (fun _ _ => trivial) fun _ h => h
      rw [hopen]
      exact nofun

/-! ## What an extraction comes to

Where everything goes well up to the reply, what follows is run with it.
-/

section

variable {α β : Type} {s : Session} {P : Except Error α → Session → Prop}

theorem lift_ok_bind {x : Except Error β} {b : β} {f : β → Exchange α} (h : x = .ok b) (hf : Ends P s (f b)) :
    Ends P s (lift x >>= f) := by
  subst h
  exact hf

theorem report_bind {level : LogLevel} {source : LogSource} {message : String} {f : PUnit → Exchange α}
    (h : ∀ s', s.Still s' → Ends P s' (f ⟨⟩)) : Ends P s (report level source message >>= f) := h _ (s.still_record _)

theorem selections_bind {catalog : Catalog} {table : Value} {c : Criteria} {ss : List Selection}
    {f : List Selection → Exchange α} (h : Selection.ofCriteria catalog table c = .ok ss)
    (hf : ∀ s', s.Still s' → Ends P s' (f ss)) : Ends P s (selections catalog table c >>= f) := by
  obtain ⟨name, key, _, _, _, _, hk, -⟩ := Selection.ofCriteria_eq_ok h
  simp only [selections, bind_assoc]
  exact lift_ok_bind h (lift_ok_bind hk (report_bind hf))

theorem extractionStatement_bind {catalog : Catalog} {table : Value} {e : Extraction} {f : Fragment}
    {g : Fragment → Exchange α} (h : Extraction.compile catalog table e = .ok f)
    (hg : ∀ s', s.Still s' → Ends P s' (g f)) : Ends P s (extractionStatement catalog table e >>= g) := by
  obtain ⟨⟨n, lower, upper⟩, hprepare, h⟩ := bind_eq_ok.1 h
  obtain ⟨inner, hinner, h⟩ := bind_eq_ok.1 h
  obtain ⟨outer, houter, hf⟩ := bind_eq_ok.1 h
  simp only [extractionStatement, bind_assoc]
  refine lift_ok_bind hprepare (selections_bind hinner fun s₁ h₁ => selections_bind houter fun s₂ h₂ => ?_)
  exact lift_ok_bind hf (report_bind fun s₃ h₃ => hg s₃ ((h₁.trans h₂).trans h₃))

theorem fetch_bind {f : Fragment} {b : Bound} {rows : List Value} {g : List Value → Exchange α}
    (hb : Bound.ofFragment f = .ok b) (hopen : s.database.refusal = none) (hreply : s.nextReply = .rows rows)
    (hg : ∀ s', s.Sent b s' → Ends P s' (g rows)) : Ends P s (fetch f >>= g) := by
  simp only [fetch_eq, rowsOf, bind_assoc, pure_bind]
  refine lift_ok_bind hb (report_bind fun s₁ h₁ => .bind_of_ok (connect_open (h₁.database ▸ hopen)) ?_)
  refine .bind_of_ok (execute_rows (h₁.nextReply ▸ hreply)) (report_bind fun s₃ h₃ => hg s₃ ?_)
  exact (h₁.sent (s₁.sent_send b)).still h₃

/-- An extraction that is compiled and bound is sent, and comes to the rows that the database replies. -/
theorem extractRows_rows {catalog : Catalog} {table : Value} {e : Extraction} {b : Bound} {rows : List Value}
    (hb : b.From (Extraction.compile catalog table e)) (hopen : s.database.refusal = none)
    (hreply : s.nextReply = .rows rows) :
    Ends (fun r s' => r = .ok rows ∧ s.Sent b s') s (extractRows (some catalog) table e) := by
  obtain ⟨f, hf, hb⟩ := hb
  simp only [extractRows, resolve, pure_bind, reportRows]
  refine extractionStatement_bind hf fun s₁ h₁ => ?_
  refine fetch_bind hb (h₁.database ▸ hopen) (h₁.nextReply ▸ hreply) fun s₂ h₂ => report_bind fun s₃ h₃ => .pure ?_
  exact ⟨rfl, (h₁.sent h₂).still h₃⟩

/-- Identifiers that are no literals of the key are not looked up. -/
theorem uniqueRows_error {catalog : Catalog} {table : Value} {rows ids : List Value} {limit : Option Value} {err : Error}
    (hids : uniqueIdentifiers extractedColumn rows = .ok ids) (hne : ids ≠ [])
    (h : Lookup.compile catalog table (.list ids) limit = .error err) :
    Ends (fun r s' => r = .error err ∧ s' = s) s (uniqueRows (some catalog) table rows limit) := by
  refine lift_ok_bind hids ?_
  rw [if_neg (by simpa using hne)]
  simp only [resolve, pure_bind, h]
  exact ⟨rfl, rfl⟩

end

end Exchange

end FacetSearch

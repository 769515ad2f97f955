import FacetSearch.Proofs.Replies
import FacetSearch.Proofs.RequestLimits
/-!
# Errors that are reported

A request is refused before anything is sent for it: if its response reports an error, no statement was sent
(`reported_of_handle`). There is one exception. The rows that belong to an extraction are looked up with the identifiers
that came back, and one of these may be no literal of the key; by then the statement of the extraction has been sent.
-/

namespace FacetSearch.Row

theorem putPairs_failsOnly (index : Nat) (entries : List (Value × Value)) (pairs : List Value) :
    FailsOnly Error.Unreported (putPairs index entries pairs) := by
  induction pairs generalizing index entries with
  | nil => exact .ok entries
  | cons p ps ih =>
    refine .bind ?_ fun entry _ => ih _ _
    unfold entryOf
    split
    · exact .error rfl
    · exact .ite (fun _ => .ok _) fun _ => .error rfl
    · exact .error rfl

theorem normalize_failsOnly (row : Value) : FailsOnly Error.Unreported (normalize row) := by
  refine .bind ?_ fun _ _ => .ok _
  unfold cells
  split
  · exact .ok _
  · split
    · exact .error rfl
    · exact putPairs_failsOnly _ _ _

end FacetSearch.Row

namespace FacetSearch.Http

/-! ## Responses that report an error -/

namespace Response

/-- The name of an error that the body of a response gives. -/
def errorName? (r : Response) : Option String :=
  match Json.read r.body.toList with
  | .ok v => match v.get? "error" with
    | some (.text name) => some name
    | _ => none
  | .error _ => none

/-- The response reports an error of this kind, by its status and by the name in its body. -/
def Reports (r : Response) (kind : ReportKind) : Prop := r.status = kind.httpStatus ∧ r.errorName? = some kind.name

theorem status_of_json? {s : Server} {status : Nat} {v : Value} {r : Response} (h : json? s status v = some r) :
    r.status = status := by
  obtain ⟨text, -, h⟩ := Option.bind_eq_some_iff.1 h
  exact (Option.some.inj h) ▸ rfl

theorem status_internalError (s : Server) : (internalError s).status = 500 := by
  unfold internalError
  cases h : json? s 500 (objectOf [("ok", .bool false), ("error", .text "Internal Server Error")]) with
  | some r => exact status_of_json? h
  | none => rfl

theorem status_ofError (s : Server) (a : Arrival) (kind : ReportKind) (text : String) :
    (ofError s a kind text).status = kind.httpStatus ∨ (ofError s a kind text).status = 500 := by
  unfold ofError
  generalize objectOf _ = v
  cases h : json? s kind.httpStatus v with
  | some r => exact .inl (status_of_json? h)
  | none => exact .inr (status_internalError s)

theorem internalError_ne_ok (s : Server) : (internalError s).status ≠ 200 := by
  rw [status_internalError]
  decide

theorem ofError_ne_ok (s : Server) (a : Arrival) (kind : ReportKind) (text : String) :
    (ofError s a kind text).status ≠ 200 := by
  intro h
  rcases status_ofError s a kind text with hs | hs <;> rw [hs] at h
  · cases kind <;> cases h
  · cases h

theorem ofRejection_ne_ok (a : Arrival) (why : Rejection) : (ofRejection a why).status ≠ 200 := by
  cases why <;> exact nofun

theorem errorName_internalError (s : Server) : (internalError s).errorName? = some "Internal Server Error" := by
  have hlayout : internalError s = internalError { debug := s.debug } := rfl
  have hflat : (internalError {}).body = "\x7b\"error\":\"Internal Server Error\",\"ok\":false\x7d\n" := by decide +kernel
  have hlines : (internalError { debug := true }).body =
      "\x7b\n  \"error\": \"Internal Server Error\",\n  \"ok\": false\n\x7d\n" := by decide +kernel
  rw [hlayout, errorName?]
  cases s.debug with
  | false =>
    rw [hflat]
    cbv
  | true =>
    rw [hlines]
    cbv

/-- An error that is not reported is not taken for one that is. -/
theorem not_reports_internalError (s : Server) (kind : ReportKind) : ¬(internalError s).Reports kind := by
  have hname : some "Internal Server Error" ≠ some kind.name := by cases kind <;> decide
  exact fun h => hname ((errorName_internalError s).symm.trans h.2)

theorem not_reports_of_ok {r : Response} (h : r.status = 200) (kind : ReportKind) : ¬r.Reports kind := by
  rintro ⟨hs, -⟩
  rw [h] at hs
  cases kind <;> cases hs

end Response

/-! ## Searches and extractions -/

/-- The request asks for the rows that belong to an extraction. -/
def Request.IsUnique (r : Request) : Prop :=
  ∃ body, Handler.bodyObject r = .ok body ∧ ((body.get? "unique").getD .null).isTruthy = true

/-- The endpoint looks up what an extraction found, for this request. -/
def Endpoint.LooksUp (r : Request) : Endpoint → Prop
  | .extract _ => r.IsUnique
  | _ => False

namespace App

/-- The database answers the next statement with rows in which an identifier is no literal of the key of the table, by
the catalog that the application has then. -/
def Mistyped (app app' : App) (table : String) (e : Error) : Prop :=
  ∃ catalog rows, app'.catalog = some catalog ∧ app.session.nextReply = .rows rows ∧
    Lookup.Mistyped catalog (.text table) rows e

theorem Mistyped.typeMismatch {app app' : App} {table : String} {e : Error} (h : app.Mistyped app' table e) :
    (∃ f, e = .typeMismatch f) ∨ e = .value .integerText := by
  obtain ⟨_, _, -, -, _, _, _, _, -, -, -, he⟩ := h
  exact (Selection.coerce_eq_error he).imp_right And.right

/-- In between nothing was sent, and server and database stayed as they were. -/
structure Still (app app' : App) : Prop where
  server : app'.server = app.server
  session : app.session.Still app'.session

/-- What comes of an endpoint for a table: an error before anything is sent; an error that is not reported; an
identifier that is no literal of the key, after one statement; or rows. -/
inductive Served (looksUp : Prop) (table : String) (app : App) : Except Error Response → App → Prop
  | unsent {e app'} (hserver : app'.server = app.server)
    (h : app'.session.statements = app.session.statements) : Served looksUp table app (.error e) app'
  | silent {e app' sent} (hserver : app'.server = app.server)
    (h : app'.session.statements = app.session.statements ++ sent) (he : e.Unreported) :
    Served looksUp table app (.error e) app'
  | mistyped {e app' b} (hserver : app'.server = app.server)
    (h : app'.session.statements = app.session.statements ++ [b]) (hlooksUp : looksUp)
    (he : app.Mistyped app' table e) : Served looksUp table app (.error e) app'
  | done {response app' sent} (h : app'.session.statements = app.session.statements ++ sent)
    (hstatus : response.status = 200) (hone : ¬looksUp → sent.length = 1) :
    Served looksUp table app (.ok response) app'

variable {app app' : App} {looksUp : Prop} {table : String}

theorem Still.unsent {e : Error} (h : app.Still app') : Served looksUp table app (.error e) app' :=
  .unsent h.server h.session.statements

end App

namespace Handler

open App

variable {α : Type} {app : App} {looksUp : Prop} {table : String}

theorem lift_ok_bind {β : Type} {P : Except Error β → App → Prop} {x : Except Error α} {a : α} {f : α → Handler β}
    (h : x = .ok a) (hf : Ends P app (f a)) : Ends P app (lift x >>= f) := by
  subst h
  exact hf

theorem lift_bind {x : Except Error α} {f : α → Handler Response}
    (hf : ∀ a, x = .ok a → Ends (Served looksUp table app) app (f a)) :
    Ends (Served looksUp table app) app (lift x >>= f) := by
  cases x with
  | ok a => exact hf a rfl
  | error e => exact .unsent rfl rfl

theorem inSession_ends {P : Except Error α → Session → Prop} {x : Exchange α} (h : Ends P app.session x) :
    Ends (fun r app' => ∃ s, app' = { app with session := s } ∧ P r s) app (inSession x) := ⟨_, rfl, h⟩

theorem catalog_ends : Ends (fun r app' => app.Still app' ∧ ∀ c, r = .ok c → app'.catalog = some c) app catalog := by
  refine .get_bind ?_
  cases hc : app.catalog with
  | some c =>
    refine .pure ⟨⟨rfl, rfl, rfl⟩, ?_⟩
    rintro _ ⟨⟩
    exact hc
  | none =>
    refine .bind (inSession_ends (Exchange.reflect_still.ends app.session)) ?_ ?_
    · rintro c _ ⟨s, rfl, hs, -⟩
      refine .modify_bind (.pure ⟨⟨rfl, hs⟩, ?_⟩)
      rintro _ ⟨⟩
      rfl
    · rintro e _ ⟨s, rfl, hs, -⟩
      exact ⟨⟨rfl, hs⟩, nofun⟩

theorem respond_ends {status : Nat} {entries : List (String × Value)} :
    Ends (fun r app' => app' = app ∧ (∀ response, r = .ok response → response.status = status) ∧
      ∀ e, r = .error e → e.Unreported) app (respond status entries) := by
  refine .get_bind ?_
  cases h : Response.json? app.server status (Response.objectOf entries) with
  | some response =>
    refine .pure ⟨rfl, ?_, nofun⟩
    rintro _ ⟨⟩
    exact Response.status_of_json? h
  | none =>
    refine .throw ⟨rfl, nofun, ?_⟩
    rintro _ ⟨⟩
    rfl

/-- Rows are answered after what was sent for them. -/
theorem respondRows_ends {app' : App} {rows : List Value} {sent : List Bound} (hserver : app'.server = app.server)
    (h : app'.session.statements = app.session.statements ++ sent) (hone : ¬looksUp → sent.length = 1) :
    Ends (Served looksUp table app) app' (respondRows rows) := by
  unfold respondRows
  cases hdata : rows.mapM Row.normalize with
  | error e => exact .silent hserver h (FailsOnly.mapM (fun row _ => Row.normalize_failsOnly row) e hdata)
  | ok data =>
    refine respond_ends.mono ?_
    rintro (e | response) _ ⟨rfl, hstatus, he⟩
    · exact .silent hserver h (he e rfl)
    · exact .done h (hstatus response rfl) hone

/-- What follows the first statement is done after it was sent and answered with rows. -/
theorem asked_bind {app₁ : App} (hfail : ∀ e, .failure e ∈ app.session.database.replies → e.Unreported)
    (hstill : app.Still app₁) {P : Bound → Prop} {U : Error → Prop} {x : Exchange (List Value)}
    {f : List Value → Handler Response} (hx : Ends (Session.Asked P U app₁.session) app₁.session x)
    (hf : ∀ b rows s, P b → app.session.database.refusal = none → app.session.Sent b s →
      app.session.nextReply = .rows rows → Ends (Served looksUp table app) { app₁ with session := s } (f rows)) :
    Ends (Served looksUp table app) app₁ (inSession x >>= f) := by
  refine .bind (inSession_ends hx) ?_ ?_
  · rintro rows _ ⟨s, rfl, hasked⟩
    cases hstill.session.asked hasked with
    | answered hb hopen hsent hreply => exact hf _ rows s hb hopen hsent hreply
  · rintro e _ ⟨s, rfl, hasked⟩
    cases hstill.session.asked hasked with
    | unsent _ h => exact .unsent hstill.server h.statements
    | failed _ hsent hreply =>
      exact .silent hstill.server hsent.statements (hfail e (Session.mem_replies hreply))

variable (hfail : ∀ e, .failure e ∈ app.session.database.replies → e.Unreported) (r : Request)

include hfail

theorem search_ends : Ends (Served looksUp table app) app (search r table) := by
  refine .get_bind (lift_bind fun c _ => .bind catalog_ends ?_ fun e app₁ h => h.1.unsent)
  rintro catalog app₁ ⟨hstill, -⟩
  refine asked_bind hfail hstill (Exchange.searchRows_ends catalog (.text table) c) ?_
  intro b rows s _ _ hsent _
  exact respondRows_ends hstill.server hsent.statements fun _ => rfl

/-- What was found is looked up with one more statement, if there is something to look up. -/
theorem lookedUp_ends (hlooksUp : looksUp) {app₁ : App} {s : Session} {catalog : Catalog} {e : Extraction} {b : Bound}
    {rows : List Value} (hserver : app₁.server = app.server) (hcatalog : app₁.catalog = some catalog)
    (hb : b.From (Extraction.compile catalog (.text table) e)) (hopen : app.session.database.refusal = none)
    (hsent : app.session.Sent b s) (hreply : app.session.nextReply = .rows rows) :
    Ends (Served looksUp table app) { app₁ with session := s }
      (inSession (Exchange.uniqueRows (some catalog) (.text table) rows e.limit) >>= respondRows) := by
  have hstillOpen : s.database.refusal = none := by rw [hsent.database, hopen]
  refine .bind (inSession_ends (Exchange.uniqueRows_ends hb hstillOpen rows)) ?_ ?_
  · rintro found _ ⟨s', rfl, ⟨-, hnothing⟩ | hasked⟩
    · exact respondRows_ends hserver (hsent.still hnothing).statements (absurd hlooksUp)
    · cases hasked with
      | answered _ _ hsent' _ => exact respondRows_ends hserver (hsent.statements_trans hsent') (absurd hlooksUp)
  · rintro err _ ⟨s', rfl, ⟨⟨⟩, -⟩ | hasked⟩
    cases hasked with
    | unsent herr hunsent =>
      rcases herr with hsilent | hmistyped
      · exact .silent hserver (hsent.still hunsent).statements hsilent
      · exact .mistyped hserver (hsent.still hunsent).statements hlooksUp ⟨catalog, rows, hcatalog, hreply, hmistyped⟩
    | failed _ hsent' hreply' =>
      have hmem := Session.mem_replies hreply'
      rw [hsent.database] at hmem
      exact .silent hserver (hsent.statements_trans hsent') (hfail err (List.mem_of_mem_tail hmem))

theorem extract_ends : Ends (Served r.IsUnique table app) app (extract r table) := by
  refine .get_bind (lift_bind fun body hbody => lift_bind fun e he => .bind catalog_ends ?_ fun e app₁ h => h.1.unsent)
  rintro catalog app₁ ⟨hstill, hcatalog⟩
  refine asked_bind hfail hstill (Exchange.extractRows_ends catalog (.text table) e) ?_
  intro b rows s hb hopen hsent hreply
  split
  · rename_i hunique
    exact lookedUp_ends hfail ⟨body, hbody, hunique⟩ hstill.server (hcatalog catalog rfl) hb hopen hsent hreply
  · exact respondRows_ends hstill.server hsent.statements fun _ => rfl

end Handler

/-! ## Responses -/

/-- What a request for a table is answered, and what was sent for it: it is refused, with nothing sent; it fails in a
way that is not reported; an identifier is reported that is no literal of the key, after one statement; or it is done. -/
inductive App.Answered (a : Arrival) (looksUp : Prop) (table : String) (app : App) : Response → App → Prop
  | refused {response app'} (h : app'.session.statements = app.session.statements) (hstatus : response.status ≠ 200) :
    Answered a looksUp table app response app'
  | broken {app' sent} (h : app'.session.statements = app.session.statements ++ sent) :
    Answered a looksUp table app (.internalError app.server) app'
  | mistyped {e text app' b} (h : app'.session.statements = app.session.statements ++ [b]) (hlooksUp : looksUp)
    (he : app.Mistyped app' table e) (htext : e.report? = some (.typeMismatch, text)) :
    Answered a looksUp table app (.ofError app.server a .typeMismatch text) app'
  | done {response app' sent} (h : app'.session.statements = app.session.statements ++ sent)
    (hstatus : response.status = 200) (hone : ¬looksUp → sent.length = 1) : Answered a looksUp table app response app'

namespace Handler

open App

variable {a : Arrival} {app : App} {looksUp : Prop} {table : String}

/-- The computation answers the request. -/
def Answers (a : Arrival) (looksUp : Prop) (table : String) (app : App) (x : StateM App Response) : Prop :=
  Answered a looksUp table app (x.run app).1 (x.run app).2

theorem answers_reject (why : Response.Rejection) : Answers a looksUp table app (reject a why) :=
  .refused (app.session.record_statements _) (Response.ofRejection_ne_ok a why)

/-- Nothing but what is reported changes between the responses to a broken request. -/
theorem answers_breakOff : Answers a looksUp table app (breakOff a) := by
  refine .refused ?_ (Response.ofRejection_ne_ok a .broken)
  show ((((app.session.record _).record _).record _).record _).statements = _
  simp only [Session.record_statements]

/-- An error is answered by what is reported of it, or without it. -/
theorem fail_run (a : Arrival) (app : App) (e : Error) : ∃ record, (fail a e).run app = (match e.report? with
    | some (kind, text) => Response.ofError app.server a kind text
    | none => Response.internalError app.server, { app with session := app.session.record record }) := by
  cases h : e.report? with
  | none => exact ⟨_, by simp only [fail, h]; rfl⟩
  | some known =>
    obtain ⟨kind, text⟩ := known
    by_cases hstatus : 500 ≤ kind.httpStatus
    · exact ⟨_, by simp only [fail, h, hstatus]; rfl⟩
    · exact ⟨_, by simp only [fail, h, hstatus]; rfl⟩

theorem attempt_run (h : Handler Response) : (perform.attempt a h).run app = match h.run.run app with
    | (.ok response, app') => (response, app')
    | (.error e, app') => (fail a e).run app' := by
  rw [perform.attempt, StateT.run_bind]
  rcases h.run.run app with ⟨_ | _, _⟩ <;> rfl

/-- An error is answered as one of its kind. -/
theorem answers_fail {e : Error} {app' : App} (h : Served looksUp table app (.error e) app') :
    Answered a looksUp table app ((fail a e).run app').1 ((fail a e).run app').2 := by
  obtain ⟨record, hrun⟩ := fail_run a app' e
  rw [hrun]
  have hstatements : (app'.session.record record).statements = app'.session.statements :=
    app'.session.record_statements record
  cases h with
  | unsent hserver hsame =>
    refine .refused (hstatements.trans hsame) ?_
    cases e.report? with
    | some known => exact Response.ofError_ne_ok _ a _ _
    | none => exact Response.internalError_ne_ok _
  | silent hserver hsent he =>
    rw [he, hserver]
    exact .broken (hstatements.trans hsent)
  | mistyped hserver hsent hlooksUp he =>
    obtain ⟨f, rfl⟩ | rfl := he.typeMismatch
    · rw [hserver]
      exact .mistyped (hstatements.trans hsent) hlooksUp he rfl
    · rw [hserver]
      exact .broken (hstatements.trans hsent)

theorem answers_attempt {h : Handler Response} (hh : Ends (Served looksUp table app) app h) :
    Answers a looksUp table app (perform.attempt a h) := by
  unfold Answers
  unfold Ends at hh
  rw [attempt_run]
  rcases hrun : h.run.run app with ⟨result, app'⟩
  rw [hrun] at hh
  cases result with
  | ok response =>
    cases hh with
    | done hsent hstatus hone => exact .done hsent hstatus hone
  | error e => exact answers_fail hh

theorem afterBody_run (h : Handler Response) : (perform.afterBody a h).run app =
    (match app.server.isTooLong a.request.readLength with
      | .ok true => reject a .tooLong
      | .ok false => perform.attempt a h
      | .error e => fail a e).run app := rfl

theorem answers_afterBody {h : Handler Response} (hh : Ends (Served looksUp table app) app h) :
    Answers a looksUp table app (perform.afterBody a h) := by
  unfold Answers
  rw [afterBody_run]
  split
  · exact answers_reject .tooLong
  · exact answers_attempt hh
  · exact answers_fail (.unsent rfl rfl)

variable (hfail : ∀ e, .failure e ∈ app.session.database.replies → e.Unreported) {e : Endpoint}
  (he : e = .search table ∨ e = .extract table)

include hfail he

theorem answers_perform : Answers a (e.LooksUp a.request) table app (perform a e) := by
  rcases he with rfl | rfl
  · exact answers_afterBody (search_ends hfail a.request)
  · exact answers_afterBody (extract_ends hfail a.request)

variable (hroute : route a.verb a.path = .found e) (hpost : a.verb = "POST")

include hroute hpost

theorem answers_dispatch (host : List Char) : Answers a (e.LooksUp a.request) table app (dispatch a host) := by
  have hverb : a.verb ≠ "OPTIONS" := by
    rw [hpost]
    decide
  simp only [dispatch, hroute, if_neg hverb]
  split
  · exact answers_reject .malformed
  · exact answers_perform hfail he

theorem answers_receive {s : Server} {x : StateM App Response} (h : receive s a = .ok x) :
    Answers a (e.LooksUp a.request) table app x := by
  cases received_of_receive h with
  | broken => exact answers_breakOff
  | rejected why => exact answers_reject why
  | dispatched host => exact answers_dispatch hfail he hroute hpost host

end Handler

theorem App.Answered.reports {a : Arrival} {looksUp : Prop} {table : String} {app app' : App} {response : Response}
    (h : App.Answered a looksUp table app response app') :
    ∃ sent, app'.session.statements = app.session.statements ++ sent ∧
      (∀ kind, response.Reports kind → sent = [] ∨ (looksUp ∧ sent.length = 1 ∧
        ∃ err text, app.Mistyped app' table err ∧ err.report? = some (.typeMismatch, text) ∧
          response = .ofError app.server a .typeMismatch text)) ∧
      (response.status = 200 → ¬looksUp → sent.length = 1) := by
  cases h with
  | refused hsame hstatus =>
    exact ⟨[], hsame.trans (List.append_nil _).symm, fun _ _ => .inl rfl, fun h => absurd h hstatus⟩
  | broken hsent =>
    exact ⟨_, hsent, fun kind h => absurd h (Response.not_reports_internalError _ kind),
      fun h => absurd h (Response.internalError_ne_ok _)⟩
  | mistyped hsent hlooksUp he htext =>
    exact ⟨_, hsent, fun _ _ => .inr ⟨hlooksUp, rfl, _, _, he, htext, rfl⟩, fun h => absurd h (Response.ofError_ne_ok _ a _ _)⟩
  | done hsent hstatus hone =>
    exact ⟨_, hsent, fun kind h => absurd h (Response.not_reports_of_ok hstatus kind), fun _ => hone⟩

theorem App.handle_eq {app : App} {r : Request} {a : Arrival} {x : StateM App Response}
    (ha : r.arrive app.server = .ok a) (hx : Handler.receive app.server a = .ok x) :
    app.handle r = .ok ((x.run app).1.sentFor r.method, (x.run app).2) :=
  bind_eq_ok.2 ⟨a, ha, bind_eq_ok.2 ⟨x, hx, rfl⟩⟩

/-- A response to a `POST` request is sent as it is. -/
theorem sentFor_of_post {s : Server} {r : Request} {a : Arrival} (ha : r.arrive s = .ok a) (hpost : a.verb = "POST")
    (response : Response) : response.sentFor r.method = response := by
  have hmethod : r.method ≠ "HEAD" := by
    rintro h
    rw [Arrival.verb, request_of_arrive ha, h] at hpost
    revert hpost
    decide
  exact if_neg hmethod

/-- For a search or an extraction an error is reported only if nothing was sent, or if the one statement of an extraction
was sent whose rows are to be looked up, and one of the identifiers in its rows is no literal of the key. For what is
done exactly one statement was sent, unless rows were looked up. -/
theorem reported_of_handle {app app' : App} {r : Request} {a : Arrival} {response : Response} {table : String}
    {e : Endpoint} (hfail : ∀ e, .failure e ∈ app.session.database.replies → e.Unreported)
    (ha : r.arrive app.server = .ok a) (hpost : a.verb = "POST") (hroute : route a.verb a.path = .found e)
    (he : e = .search table ∨ e = .extract table) (h : app.handle r = .ok (response, app')) :
    ∃ sent, app'.session.statements = app.session.statements ++ sent ∧
      (∀ kind, response.Reports kind → sent = [] ∨ (e.LooksUp r ∧ sent.length = 1 ∧
        ∃ err text, app.Mistyped app' table err ∧ err.report? = some (.typeMismatch, text) ∧
          response = .ofError app.server a .typeMismatch text)) ∧
      (response.status = 200 → ¬e.LooksUp r → sent.length = 1) := by
  obtain ⟨a', ha', h⟩ := bind_eq_ok.1 h
  obtain rfl := Except.ok.inj (ha.symm.trans ha')
  obtain ⟨x, hx, h⟩ := bind_eq_ok.1 h
  obtain ⟨hresponse, rfl⟩ := Prod.mk.inj (Except.ok.inj h)
  obtain rfl := (sentFor_of_post ha hpost _).symm.trans hresponse
  have hanswers := Handler.answers_receive hfail he hroute hpost hx
  rw [request_of_arrive ha] at hanswers
  exact hanswers.reports

/-! ## An identifier that is no literal -/

/-- An identifier that comes back and is no literal of the key is the error of an extraction whose rows are to be looked
up. Its statement has been sent then, and no other is. -/
theorem Handler.extract_mistyped {app : App} {r : Request} {table : String} {body : Value} {e : Extraction}
    {catalog : Catalog} {b : Bound} {rows ids : List Value} {err : Error} (hbody : bodyObject r = .ok body)
    (hunique : ((body.get? "unique").getD .null).isTruthy = true) (he : extractionOf app.limits body = .ok e)
    (hcatalog : app.catalog = some catalog) (hb : b.From (Extraction.compile catalog (.text table) e))
    (hopen : app.session.database.refusal = none) (hreply : app.session.nextReply = .rows rows)
    (hids : uniqueIdentifiers extractedColumn rows = .ok ids) (hne : ids ≠ [])
    (herr : Lookup.compile catalog (.text table) (.list ids) e.limit = .error err) :
    Ends (fun r app' => r = .error err ∧ app'.server = app.server ∧
      app'.session.statements = app.session.statements ++ [b]) app (extract r table) := by
  have hknown : Ends (fun r app' => r = .ok catalog ∧ app' = app) app Handler.catalog := by
    refine .get_bind ?_
    rw [hcatalog]
    exact .pure ⟨rfl, rfl⟩
  refine .get_bind (lift_ok_bind hbody (lift_ok_bind he (.bind hknown ?_ ?_)))
  · rintro _ app ⟨⟨⟩, rfl⟩
    refine .bind (inSession_ends (Exchange.extractRows_rows hb hopen hreply)) ?_ ?_
    · rintro _ _ ⟨s, rfl, ⟨⟩, hsent⟩
      rw [if_pos hunique]
      refine .bind (inSession_ends (Exchange.uniqueRows_error hids hne herr)) ?_ ?_
      · rintro _ _ ⟨_, _, ⟨⟩, _⟩
      · rintro _ _ ⟨_, rfl, ⟨⟩, rfl⟩
        exact ⟨rfl, rfl, hsent.statements⟩
    · rintro _ _ ⟨_, _, ⟨⟩, _⟩
  · rintro _ _ ⟨⟨⟩, _⟩

end FacetSearch.Http

namespace FacetSearch

/-! ### A request for events that are identified by UUIDs -/

/-- A catalog of events that are identified by UUIDs. -/
def Catalog.visits : Catalog := .ofLists [("events", [("event_uuid", some .uuid), ("event_entity_uuid", some .uuid),
  ("event_start_time", some .timestamp), ("event_end_time", some .timestamp)])] [("events", ["event_uuid"])]

/-- Events that start while others last. -/
def Extraction.visits : Extraction where
  inner := ⟨[], [], [], [], none, false, none⟩
  outer := ⟨[], [], [], [], none, false, none⟩
  lower := .int 0
  upper := .int 0
  limit := some (.int 1000)

/-- What is wrong with an identifier that is no UUID. -/
def TypeFault.visits : TypeFault := .literal (.text "bad") .uuid (some (.text "event_uuid"))

namespace Extraction

theorem coerce_zero (column : Option Value) : ColumnType.double.coerce (.int 0) column = .ok (.float (.zero false)) := by
  have hzero : Double.ofInt? 0 = some (.zero false) := by decide +kernel
  apply ColumnType.coerce_eq_ok.2
  show ((Double.ofInt? 0).filter Double.isFinite).map Value.float = _
  rw [hzero]
  rfl

theorem prepare_visits : visits.prepare .visits (.text "events") =
    .ok (⟨"events", "event_uuid", "event_entity_uuid", "event_start_time", "event_end_time"⟩, .float (.zero false),
      .float (.zero false)) := by
  simp only [prepare, visits, coerce_zero]
  rfl

theorem bound_visits : ∃ b, Bound.From (compile .visits (.text "events") visits) b := by
  have hnone : Selection.ofCriteria .visits (.text "events") ⟨[], [], [], [], none, false, none⟩ = .ok [] := rfl
  have hcompile := compile_of_prepare prepare_visits hnone hnone
  have hstatement := Inquiry.statement_of_compile (q := .extraction visits) hcompile
  exact ⟨_, _, hcompile, Bound.ofFragment_of_bindParams hstatement.wellFormed hstatement.accepted rfl⟩

end Extraction

namespace Http

/-- An application over events whose database replies with an identifier that is no UUID. -/
def App.visits : App where
  limits := { tolerance := .zero false, defaultLimit := none, maxLimit := 1000 }
  catalog := some .visits
  session := { database := { replies := [.rows [.object [(.text "extracted", .list [.text "bad"])]]] } }

/-- The request for the events that start while others last. -/
def Request.visits : Request where
  method := "POST"
  target := "/api/extract/events"
  contentType := some "application/json"
  body := some "\x7b\"range\": [0, 0], \"unique\": 1\x7d"

/-- The request where it arrives. -/
def Arrival.visits : Arrival := ⟨.visits, "http".toList, "localhost".toList, [], "/api/extract/events".toList, []⟩

/-- The body of the request. -/
def Request.visitsBody : Value := .object [(.text "range", .list [.int 0, .int 0]), (.text "unique", .int 1)]

theorem arrive_visits : Request.visits.arrive App.visits.server = .ok .visits := by with_unfolding_all rfl

theorem bodyObject_visits : Handler.bodyObject .visits = .ok Request.visitsBody := by cbv

theorem extractionOf_visits : Handler.extractionOf App.visits.limits Request.visitsBody = .ok .visits := by
  with_unfolding_all rfl

/-- The identifier is reported after one statement. -/
theorem handle_visits : ∃ app', App.visits.handle .visits =
    .ok (.ofError {} .visits .typeMismatch TypeFault.visits.message, app') ∧ app'.session.statements.length = 1 := by
  obtain ⟨b, hb⟩ := Extraction.bound_visits
  have herr : Lookup.compile .visits (.text "events") (.list [.text "bad"]) (some (.int 1000)) =
      .error (.typeMismatch TypeFault.visits) := rfl
  have hids : uniqueIdentifiers extractedColumn [.object [(.text "extracted", .list [.text "bad"])]] =
      .ok [.text "bad"] := rfl
  obtain ⟨herror, hserver, hsent⟩ := Handler.extract_mistyped bodyObject_visits rfl extractionOf_visits rfl hb rfl rfl
    hids (List.cons_ne_nil _ _) herr
  have hreceive : Handler.receive App.visits.server .visits = .ok (Handler.dispatch .visits "localhost".toList) := rfl
  have hdispatch : (Handler.dispatch .visits "localhost".toList).run App.visits =
      (Handler.perform.attempt .visits (Handler.extract .visits "events")).run App.visits := rfl
  rcases hrun : (Handler.extract .visits "events").run.run App.visits with ⟨result, app'⟩
  simp only [hrun] at herror hserver hsent
  subst herror
  obtain ⟨record, hfail⟩ := Handler.fail_run .visits app' (.typeMismatch TypeFault.visits)
  simp only [Error.report?, hserver] at hfail
  have hhandle := App.handle_eq arrive_visits hreceive
  rw [hdispatch, Handler.attempt_run, hrun] at hhandle
  simp only [hfail, sentFor_of_post arrive_visits rfl] at hhandle
  refine ⟨_, hhandle, ?_⟩
  show (app'.session.record record).statements.length = 1
  rw [Session.record_statements, hsent]
  rfl

/-- The response says that an identifier is no literal, though a statement was sent. -/
theorem reports_visits : (Response.ofError {} .visits .typeMismatch TypeFault.visits.message).Reports .typeMismatch := by
  have hbody : (Response.ofError {} .visits .typeMismatch TypeFault.visits.message).body =
    "\x7b\"description\":\"Value 'bad' is not a valid uuid for column 'event_uuid'\",\"error\":\"TypeMismatchError\"," ++
      "\"method\":\"POST\",\"ok\":false,\"path\":\"/api/extract/events\"\x7d\n" := by decide +kernel
  refine ⟨by decide +kernel, ?_⟩
  rw [Response.errorName?, hbody]
  cbv

theorem route_visits : route Arrival.visits.verb Arrival.visits.path = .found (.extract "events") := by decide +kernel

theorem not_failure_visits (e : Error) : .failure e ∉ App.visits.session.database.replies := by
  simp [App.visits]

/-- What is reported of the identifier is found to be that it is no literal. -/
theorem mistyped_visits : ∃ response app' err text, App.visits.handle .visits = .ok (response, app') ∧
    App.visits.Mistyped app' "events" err ∧ err.report? = some (.typeMismatch, text) ∧
    response = .ofError {} .visits .typeMismatch text := by
  obtain ⟨app', hhandle, hlength⟩ := handle_visits
  obtain ⟨sent, hsent, hreports, -⟩ := reported_of_handle (fun e he => absurd he (not_failure_visits e)) arrive_visits
    (by decide +kernel) route_visits (.inr rfl) hhandle
  obtain rfl | ⟨-, -, err, text, hmistyped, htext, hresponse⟩ := hreports .typeMismatch reports_visits
  · rw [hsent] at hlength
    cases hlength
  · exact ⟨_, app', err, text, hhandle, hmistyped, htext, hresponse⟩

/-- An error is reported though a statement was sent. -/
theorem sent_visits : ∃ response app', Request.visits.arrive App.visits.server = .ok .visits ∧
    Arrival.visits.verb = "POST" ∧ route Arrival.visits.verb Arrival.visits.path = .found (.extract "events") ∧
    (∀ e, .failure e ∉ App.visits.session.database.replies) ∧ App.visits.handle .visits = .ok (response, app') ∧
    response.Reports .typeMismatch ∧ app'.session.statements ≠ App.visits.session.statements := by
  obtain ⟨app', hhandle, hlength⟩ := handle_visits
  refine ⟨_, app', arrive_visits, by decide +kernel, route_visits, not_failure_visits, hhandle, reports_visits, ?_⟩
  intro h
  rw [h] at hlength
  cases hlength

end Http

end FacetSearch

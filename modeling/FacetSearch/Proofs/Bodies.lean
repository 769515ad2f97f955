import FacetSearch.Proofs.Reported
/-!
# Bodies that are no objects

A search takes its criteria from the body of its request, which has to be an object. A value of another kind is refused,
and brackets that stand too deep within each other end in a failure, both before anything is sent. A text that is not
read as JSON, however, and `null` are taken for no body at all, and so for criteria that all rows meet
(`body_of_handle`).
-/

namespace FacetSearch.Http

/-! ## Requests that are taken to their endpoint -/

/-- A request that arrives so is taken to its endpoint: sessions are found, the host is one that is trusted and has a
name in ASCII, and the connection is not kept open. -/
structure Taken (s : Server) (a : Arrival) : Prop where
  signed : s.signing.failure? = none
  named : ∃ host known name, s.reachedHost? (Server.withoutUsualPort a.scheme a.host) = .ok (some host) ∧
    s.knownHost a.scheme host = .ok known ∧ HostName.ascii? (known.span (· ≠ ':')).1 = some name
  closed : a.keepsOpen = false

theorem Taken.receive {s : Server} {a : Arrival} (h : Taken s a) :
    ∃ host, Handler.receive s a = .ok (Handler.dispatch a host) := by
  obtain ⟨host, known, name, hreached, hknown, hname⟩ := h.named
  have hanswer : Handler.answer s a = .ok (Handler.dispatch a (name ++ (known.span (· ≠ ':')).2)) := by
    refine bind_eq_ok.2 ⟨some host, hreached, bind_eq_ok.2 ⟨known, hknown, ?_⟩⟩
    simp only [hname]
    rfl
  refine ⟨name ++ (known.span (· ≠ ':')).2, bind_eq_ok.2 ⟨_, hanswer, ?_⟩⟩
  rw [h.signed]
  rfl

section

variable {app : App} {r : Request} {a : Arrival} {table : String} (ha : r.arrive app.server = .ok a)
  (htaken : Taken app.server a) (hpost : a.verb = "POST") (hroute : route a.verb a.path = .found (.search table))
  (hshort : app.server.isTooLong r.readLength = .ok false)

include ha htaken hpost hroute hshort

/-- A search that is taken to its endpoint is answered there. -/
theorem handle_search :
    app.handle r = .ok ((Handler.perform.attempt a (Handler.search r table)).run app) := by
  obtain ⟨host, hreceive⟩ := htaken.receive
  have hverb : a.verb ≠ "OPTIONS" := by
    rw [hpost]
    decide
  have hdispatch : Handler.dispatch a host = Handler.perform a (.search table) := by
    rw [Handler.dispatch, hroute]
    simp only [htaken.closed, if_neg hverb]
    rfl
  have hperform : (Handler.perform a (.search table)).run app =
      (Handler.perform.attempt a (Handler.search r table)).run app := by
    show (Handler.perform.afterBody a (Handler.search a.request table)).run app = _
    rw [Handler.afterBody_run, request_of_arrive ha, hshort]
  rw [App.handle_eq ha hreceive, sentFor_of_post ha hpost, hdispatch, hperform, Prod.mk.eta]

/-- An error in the body is answered before anything is done. -/
theorem handle_of_bodyObject {e : Error} (hbody : Handler.bodyObject r = .error e) :
    ∃ app', app.handle r = .ok (match e.report? with
      | some (kind, text) => .ofError app.server a kind text
      | none => .internalError app.server, app') ∧ app'.session.statements = app.session.statements := by
  have hsearch : (Handler.search r table).run.run app = (.error e, app) := by
    simp only [Handler.search, hbody]
    rfl
  obtain ⟨record, hfail⟩ := Handler.fail_run a app e
  rw [handle_search ha htaken hpost hroute hshort, Handler.attempt_run, hsearch]
  exact ⟨_, congrArg _ hfail, app.session.record_statements record⟩

end

/-! ## What is read in a body -/

namespace Request

/-- The body is not read as JSON, or it is `null`. -/
def Unread (r : Request) : Prop :=
  ∀ text, r.jsonChars? = some text → Json.read text = .ok .null ∨ ∃ f, Json.read text = .error f ∧ f.kind ≠ .depth

/-- The request without its body and the type of it. -/
def bare (r : Request) : Request := { r with contentType := none, body := none }

variable {r : Request}

theorem json?_of_read (hjson : r.isJson = true) {text : List Char} (htext : r.jsonChars? = some text) :
    r.json? = match Json.read text with
      | .ok v => .ok (some v)
      | .error f => (f.failure?.map Except.error).getD (.ok none) := by
  simp only [json?, hjson, htext]
  rfl

theorem bodyObject_of_unread (hjson : r.isJson = true) (h : r.Unread) : Handler.bodyObject r = .ok (.object []) := by
  cases htext : r.jsonChars? with
  | none =>
    have hjson? : r.json? = .ok none := by
      simp only [json?, hjson, htext]
      rfl
    simp only [Handler.bodyObject, hjson?]
    rfl
  | some text =>
    have hjson? := json?_of_read hjson htext
    rcases h text htext with hread | ⟨f, hread, hf⟩
    · simp only [Handler.bodyObject, hjson?, hread]
      rfl
    · have hfailure : f.failure? = none := if_neg hf
      simp only [Handler.bodyObject, hjson?, hread, hfailure]
      rfl

theorem isJson_bare (r : Request) : r.bare.isJson = false :=
  (by decide +kernel : isJson { method := "", target := "" } = false)

/-- A request without a body is read as one with an empty object. -/
theorem bodyObject_bare (r : Request) : Handler.bodyObject r.bare = .ok (.object []) := by
  have hjson? : r.bare.json? = .ok none := by
    simp only [json?, isJson_bare]
    rfl
  simp only [Handler.bodyObject, hjson?]
  rfl

/-- A value that is no object is refused. -/
theorem bodyObject_of_value (hjson : r.isJson = true) {text : List Char} (htext : r.jsonChars? = some text) {v : Value}
    (hread : Json.read text = .ok v) (hnull : v ≠ .null) (hobject : ∀ es, v ≠ .object es) :
    Handler.bodyObject r = .error (.configuration .bodyShape) := by
  simp only [Handler.bodyObject, json?_of_read hjson htext, hread]
  cases v with
  | null => exact absurd rfl hnull
  | object es => exact absurd rfl (hobject es)
  | _ => rfl

theorem bodyObject_of_depth (hjson : r.isJson = true) {text : List Char} (htext : r.jsonChars? = some text)
    {f : Json.Fault} (hread : Json.read text = .error f) (hf : f.kind = .depth) :
    Handler.bodyObject r = .error (.failure .depth) := by
  have hfailure : f.failure? = some (.failure .depth) := if_pos hf
  simp only [Handler.bodyObject, json?_of_read hjson htext, hread, hfailure]
  rfl

/-- Without its body a request arrives at the same place. -/
theorem arrive_bare {s : Server} {a : Arrival} (h : r.arrive s = .ok a) :
    r.bare.arrive s = .ok { a with request := r.bare } := by
  simp only [arrive, bind_eq_ok] at h ⊢
  obtain ⟨target, htarget, root, hroot, ⟨path, query⟩, hlocated, base, hbase, _, -, h⟩ := h
  refine ⟨target, htarget, root, hroot, (path, query), hlocated, base, hbase, (), rfl, ?_⟩
  split at h
  · cases h
  · rename_i hhalf
    obtain rfl := Except.ok.inj h
    exact if_neg hhalf

theorem readLength_bare (r : Request) : r.bare.readLength = 0 := by
  simp only [readLength, isJson_bare]
  rfl

end Request

/-- A search whose body is not read is answered like one without a body. -/
theorem handle_bare {app : App} {r : Request} {a : Arrival} {table : String} (ha : r.arrive app.server = .ok a)
    (htaken : Taken app.server a) (hpost : a.verb = "POST") (hroute : route a.verb a.path = .found (.search table))
    (hshort : app.server.isTooLong r.readLength = .ok false) (hjson : r.isJson = true) (hunread : r.Unread) :
    app.handle r = app.handle r.bare := by
  obtain rfl := request_of_arrive ha
  have hshort' : app.server.isTooLong a.request.bare.readLength = .ok false := by
    rw [Request.readLength_bare]
    exact if_pos (by simp)
  have hsearch : Handler.search a.request table = Handler.search a.request.bare table := by
    simp only [Handler.search, Request.bodyObject_of_unread hjson hunread, Request.bodyObject_bare]
  have hattempt : Handler.perform.attempt { a with request := a.request.bare } = Handler.perform.attempt a := rfl
  rw [handle_search ha htaken hpost hroute hshort, hsearch, ← hattempt]
  exact (handle_search (Request.arrive_bare ha) ⟨htaken.signed, htaken.named, htaken.closed⟩ hpost hroute hshort').symm

/-- What a search makes of a body of JSON that is no object. A value of another kind than `null` is refused, with nothing
sent. Brackets too deep within each other are a failure that is not reported, with nothing sent. Any other text that is
not read, and `null`, count as no body at all: the request is answered as one for all rows. -/
theorem body_of_handle {app : App} {r : Request} {a : Arrival} {table : String} (ha : r.arrive app.server = .ok a)
    (htaken : Taken app.server a) (hpost : a.verb = "POST") (hroute : route a.verb a.path = .found (.search table))
    (hshort : app.server.isTooLong r.readLength = .ok false) (hjson : r.isJson = true) :
    (∀ text v, r.jsonChars? = some text → Json.read text = .ok v → v ≠ .null → (∀ es, v ≠ .object es) →
      ∃ app', app.handle r = .ok (.ofError app.server a .configuration "Request body must be a JSON object", app') ∧
        app'.session.statements = app.session.statements) ∧
    (∀ text f, r.jsonChars? = some text → Json.read text = .error f → f.kind = .depth →
      ∃ app', app.handle r = .ok (.internalError app.server, app') ∧
        app'.session.statements = app.session.statements) ∧
    (r.Unread → app.handle r = app.handle r.bare) := by
  refine ⟨fun text v htext hread hnull hobject => ?_, fun text f htext hread hf => ?_, fun hunread => ?_⟩
  · exact handle_of_bodyObject ha htaken hpost hroute hshort (Request.bodyObject_of_value hjson htext hread hnull hobject)
  · exact handle_of_bodyObject ha htaken hpost hroute hshort (Request.bodyObject_of_depth hjson htext hread hf)
  · exact handle_bare ha htaken hpost hroute hshort hjson hunread

/-! ### A body that was cut off -/

/-- An application over people. -/
def App.people : App where
  limits := { tolerance := .zero false, defaultLimit := some 1000, maxLimit := 1000 }
  catalog := some .people
  session := { database := {} }

/-- A search for people with a body of JSON. -/
def Request.withJson (body : String) : Request := { Request.people with contentType := some "application/json", body }

/-- The search where it arrives. -/
def Arrival.withJson (body : String) : Arrival :=
  ⟨.withJson body, "http".toList, "localhost".toList, [], "/api/search/people".toList, []⟩

/-- The beginning of an object. -/
def cutOff : String := "\x7b\"columns\": \x7b"

theorem taken_withJson (body : String) : Taken App.people.server (.withJson body) where
  signed := rfl
  named := by
    refine ⟨"localhost".toList, "localhost".toList, "localhost".toList, ?_, ?_, ?_⟩ <;> rfl
  closed := rfl

theorem route_withJson (body : String) :
    route (Arrival.withJson body).verb (Arrival.withJson body).path = .found (.search "people") := by
  show route (Text.upper "POST") "/api/search/people".toList = _
  decide +kernel

theorem arrive_cutOff : (Request.withJson cutOff).arrive App.people.server = .ok (.withJson cutOff) := by
  with_unfolding_all rfl

theorem read_cutOff : (Request.withJson cutOff).jsonChars? = some cutOff.toList ∧
    Json.read cutOff.toList = .error ⟨.propertyName, 0⟩ := by
  constructor
  · decide +kernel
  · cbv

theorem unread_cutOff : (Request.withJson cutOff).Unread := by
  intro text htext
  obtain rfl := Option.some.inj (read_cutOff.1.symm.trans htext)
  exact .inr ⟨_, read_cutOff.2, nofun⟩

theorem isJson_withJson (body : String) : (Request.withJson body).isJson = true := by
  show Request.isJson { method := "", target := "", contentType := some "application/json" } = true
  decide +kernel

/-- The search is answered as if it had no body. -/
theorem bare_cutOff : App.people.handle (.withJson cutOff) = App.people.handle (Request.withJson cutOff).bare :=
  (body_of_handle arrive_cutOff (taken_withJson cutOff) (by decide +kernel) (route_withJson cutOff) rfl
    (isJson_withJson cutOff)).2.2 unread_cutOff

/-- The search is done, with one statement sent, though its body is no JSON. -/
theorem sent_cutOff : ∃ response app', (Request.withJson cutOff).isJson = true ∧
    (Request.withJson cutOff).jsonChars? = some cutOff.toList ∧ (∀ v, Json.read cutOff.toList ≠ .ok v) ∧
    App.people.handle (.withJson cutOff) = .ok (response, app') ∧ response.status = 200 ∧
    app'.session.statements.length = 1 := by
  have hrun : (App.people.handle (Request.withJson cutOff).bare).toOption.map (fun p =>
      (p.1.status, p.2.session.statements.length)) = some (200, 1) := by
    decide +kernel
  obtain ⟨⟨response, app'⟩, hhandle, hrun⟩ := Option.map_eq_some_iff.1 hrun
  obtain ⟨hstatus, hlength⟩ := Prod.mk.inj hrun
  refine ⟨response, app', isJson_withJson cutOff, read_cutOff.1, ?_, ?_, hstatus, hlength⟩
  · rw [read_cutOff.2]
    exact nofun
  · rw [handle_bare arrive_cutOff (taken_withJson cutOff) (by decide +kernel) (route_withJson cutOff) rfl
      (isJson_withJson cutOff) unread_cutOff]
    exact toOption_eq_some.1 hhandle

end FacetSearch.Http

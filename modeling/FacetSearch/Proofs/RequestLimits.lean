import FacetSearch.Http.Start
import FacetSearch.Proofs.Exchanges
import FacetSearch.Proofs.Statements
/-!
# Limits of requests

The application has its limits from the file that it is started with and keeps them over all requests. Every statement
that it sends for a search or an extraction ends in a limit: the one that the body of the request names, or else the
usual one, but never more than the greatest one (`limited_of_handle`).
-/

namespace FacetSearch.Http

/-! ## The limit of one request -/

/-- A limit, of which nothing stands for all rows, is cut to the greatest one. -/
def cutLimit (limit : Option Int) (greatest : Int) : Int := limit.elim greatest (min · greatest)

theorem cutLimit_le (limit : Option Int) (greatest : Int) : cutLimit limit greatest ≤ greatest := by
  cases limit with
  | none => exact Int.le_refl greatest
  | some n => exact Int.min_le_right n greatest

/-- The limit that a body names, nothing if it names none. -/
def namedLimit (body : Value) : Value := (body.get? "limit").getD .null

/-- How many rows are asked for by what is named: the usual number if that is nothing, or else the limit of criteria that
name it. -/
inductive Asks (usual : Option Int) : Value → Option Int → Prop
  | usual : Asks usual .null usual
  | named {v : Value} {c : Criteria} (hv : v ≠ .null) (hc : Criteria.build { limit := v } = .ok c) :
    Asks usual v c.limit

/-- Criteria of nothing but a limit have the limit that is read. -/
theorem build_limit (v : Value) :
    Criteria.build { limit := v } = (Criteria.parseLimit v).map fun limit => ⟨[], [], [], [], none, false, limit⟩ := by
  cases h : Criteria.parseLimit v <;> simp only [Criteria.build, h] <;> rfl

theorem asks_of_parseLimit {usual asked : Option Int} {v : Value} (hv : v ≠ .null)
    (h : Criteria.parseLimit v = .ok asked) : Asks usual v asked :=
  .named hv ((build_limit v).trans (congrArg (Except.map _) h))

theorem positive_ne_none {v : Value} {n : Int} : Criteria.positive v n ≠ .ok none := by
  unfold Criteria.positive
  split
  · simp
  · exact nofun

/-- Only infinity is read as no limit. -/
theorem parseLimit_eq_none {v : Value} (hv : v ≠ .null) :
    Criteria.parseLimit v = .ok none ↔ v = .float (.infinite false) := by
  constructor
  · intro h
    unfold Criteria.parseLimit at h
    split at h
    · exact absurd rfl hv
    · exact absurd h positive_ne_none
    · rename_i negative
      cases negative with
      | false => rfl
      | true => cases h
    · split at h
      · exact absurd h positive_ne_none
      · cases h
    · cases h
    · split at h
      · exact absurd h positive_ne_none
      · cases h
    · split at h
      · exact absurd h positive_ne_none
      · cases h
    · cases h
  · rintro rfl
    rfl

/-- All rows are asked for by infinity, or by nothing where they are the usual number. -/
theorem asks_all_iff {usual asked : Option Int} {v : Value} (h : Asks usual v asked) :
    asked = none ↔ v = .float (.infinite false) ∨ (v = .null ∧ usual = none) := by
  cases h with
  | usual => simp
  | named hv hc =>
    rw [build_limit] at hc
    cases hread : Criteria.parseLimit v with
    | error e => cases hread ▸ hc
    | ok asked =>
      obtain rfl := Except.ok.inj (hread ▸ hc)
      rw [or_iff_left fun h => hv h.1, ← parseLimit_eq_none hv, hread, Except.ok.injEq]

theorem cut_eq (l : Limits) (asked : Option Int) : some (match asked with | some n => min n l.maxLimit | none => l.maxLimit) =
    some (cutLimit asked l.maxLimit) := by
  cases asked <;> rfl

/-- A request has what it asks for as its limit, cut to the greatest one. -/
theorem limitFor_eq_ok {l : Limits} {v : Value} {limit : Option Int} (h : Handler.limitFor l v = .ok limit) :
    ∃ asked, Asks l.defaultLimit v asked ∧ limit = some (cutLimit asked l.maxLimit) := by
  unfold Handler.limitFor at h
  split at h
  · rename_i hv
    obtain rfl : v = .null := by
      cases v <;> first | rfl | cases hv
    exact ⟨_, .usual, (Except.ok.inj h).symm.trans (cut_eq l _)⟩
  · rename_i hv
    obtain ⟨asked, hasked, h⟩ := bind_eq_ok.1 h
    exact ⟨asked, asks_of_parseLimit (fun hnull => hv (hnull ▸ rfl)) hasked, (Except.ok.inj h).symm.trans (cut_eq l _)⟩

/-- The statement ends in the limit of a request. -/
def Grants (l : Limits) (r : Request) (b : Bound) : Prop :=
  ∃ body asked, Handler.bodyObject r = .ok body ∧ Asks l.defaultLimit (namedLimit body) asked ∧
    b.EndsInLimit (cutLimit asked l.maxLimit)

/-- What an endpoint may send for a request. -/
def Endpoint.Permits (l : Limits) (r : Request) (b : Bound) : Endpoint → Prop
  | .search _ | .extract _ => Grants l r b
  | .health => b = Exchange.pingStatement
  | .tables | .file => False

theorem searchCriteria_limit {l : Limits} {body : Value} {c : Criteria} (h : Handler.searchCriteria l body = .ok c) :
    ∃ asked, Asks l.defaultLimit (namedLimit body) asked ∧ c.limit = some (cutLimit asked l.maxLimit) := by
  obtain ⟨_, -, h⟩ := bind_eq_ok.1 h
  obtain ⟨limit, hlimit, h⟩ := bind_eq_ok.1 h
  obtain rfl := Except.ok.inj h
  exact limitFor_eq_ok hlimit

theorem extractionOf_limit {l : Limits} {body : Value} {e : Extraction} (h : Handler.extractionOf l body = .ok e) :
    ∃ asked, Asks l.defaultLimit (namedLimit body) asked ∧ e.limit = some (.int (cutLimit asked l.maxLimit)) := by
  simp only [Handler.extractionOf] at h
  split at h
  · cases h
  · split at h
    · simp only [bind_eq_ok] at h
      obtain ⟨_, -, _, -, limit, hlimit, h⟩ := h
      obtain rfl := Except.ok.inj h
      obtain ⟨asked, hasked, rfl⟩ := limitFor_eq_ok hlimit
      exact ⟨asked, hasked, rfl⟩
    · cases h

/-! ## What the application does -/

/-- One state of an application comes after another: limits stay as they are, and the statements that were sent in
between have the property, as long as the limits are these. -/
def App.Advances (l : Limits) (P : Bound → Prop) (app app' : App) : Prop :=
  app.limits = l → app'.limits = l ∧ app.session.Sends P app'.session

namespace App

variable {l : Limits} {P : Bound → Prop} {app app' app'' : App}

theorem Advances.of_same (hl : app'.limits = app.limits)
    (hs : app'.session.statements = app.session.statements) : Advances l P app app' := by
  rintro rfl
  exact ⟨hl, .of_statements_eq hs⟩

theorem Advances.trans (h : Advances l P app app') (h' : Advances l P app' app'') : Advances l P app app'' := by
  intro hl
  obtain ⟨hl', hs⟩ := h hl
  obtain ⟨hl'', hs'⟩ := h' hl'
  exact ⟨hl'', hs.trans hs'⟩

theorem Advances.mono {P' : Bound → Prop} (hP : ∀ b, P b → P' b) (h : Advances l P app app') :
    Advances l P' app app' := by
  intro hl
  obtain ⟨hl', sent, hs, hall⟩ := h hl
  exact ⟨hl', sent, hs, fun b hb => hP b (hall b hb)⟩

instance : Std.Refl (Advances l P) := ⟨fun _ => .of_same rfl rfl⟩

instance : IsTrans App (Advances l P) := ⟨fun _ _ _ => Advances.trans⟩

end App

namespace Handler

variable {α : Type} {l : Limits} {P : Bound → Prop} {Q : α → Prop}

theorem inSession_obeys {x : Exchange α} (h : Obeys (Session.Sends P) Q x) : Obeys (App.Advances l P) Q (inSession x) :=
  fun app => ⟨fun hl => ⟨hl, (h app.session).1⟩, (h app.session).2⟩

theorem lift_obeys {x : Except Error α} : Obeys (App.Advances l P) (fun a => x = .ok a) (lift x) := by
  cases x with
  | ok a => exact .pure rfl
  | error e => exact .throw e

theorem catalog_obeys : Obeys (App.Advances l P) (fun _ => True) catalog := by
  refine .get_bind fun app => ?_
  cases app.catalog with
  | some c => exact .pure trivial
  | none =>
    exact .bind (inSession_obeys Exchange.reflect_obeys) fun _ _ =>
      .bind (.modify fun _ => .of_same rfl rfl) fun _ _ => .pure trivial

theorem respond_obeys {status : Nat} {entries : List (String × Value)} :
    Obeys (App.Advances l P) (fun _ => True) (respond status entries) := by
  refine .get_bind fun app => ?_
  cases Response.json? app.server status (Response.objectOf entries) with
  | some r => exact .pure trivial
  | none => exact .throw _

theorem respondRows_obeys {rows : List Value} : Obeys (App.Advances l P) (fun _ => True) (respondRows rows) :=
  .bind lift_obeys fun _ _ => respond_obeys

/-- What begins with the state may take its limits to be these. -/
theorem get_obeys {f : App → Handler α} (h : ∀ app, app.limits = l → Obeys (App.Advances l P) (fun _ => True) (f app)) :
    Obeys (App.Advances l P) (fun _ => True) (get >>= f) :=
  fun app => ⟨fun hl => (h app hl app).1 hl, fun _ _ => trivial⟩

theorem search_obeys {r : Request} {table : String} :
    Obeys (App.Advances l (Grants l r)) (fun _ => True) (search r table) := by
  refine get_obeys fun app hl => ?_
  subst hl
  refine .bind lift_obeys fun c hc => ?_
  obtain ⟨body, hbody, hc⟩ := bind_eq_ok.1 hc
  obtain ⟨asked, hasked, hlimit⟩ := searchCriteria_limit hc
  exact .bind catalog_obeys fun _ _ =>
    .bind (inSession_obeys (Exchange.searchRows_obeys hlimit fun b hb => ⟨body, asked, hbody, hasked, hb⟩)) fun _ _ =>
      respondRows_obeys

theorem extract_obeys {r : Request} {table : String} :
    Obeys (App.Advances l (Grants l r)) (fun _ => True) (extract r table) := by
  refine get_obeys fun app hl => ?_
  subst hl
  refine .bind lift_obeys fun body hbody => .bind lift_obeys fun e he => ?_
  obtain ⟨asked, hasked, hlimit⟩ := extractionOf_limit he
  have hgrants : ∀ b : Bound, b.EndsInLimit (cutLimit asked app.limits.maxLimit) → Grants app.limits r b :=
    fun b hb => ⟨body, asked, hbody, hasked, hb⟩
  -- both statements are made with the one limit of the extraction
  refine .bind catalog_obeys fun known _ =>
    .bind (inSession_obeys (Exchange.extractRows_obeys hlimit hgrants)) fun rows _ => ?_
  split
  · rw [hlimit]
    exact .bind (inSession_obeys (Exchange.uniqueRows_obeys hgrants)) fun _ _ => respondRows_obeys
  · exact respondRows_obeys

theorem tables_obeys : Obeys (App.Advances l P) (fun _ => True) tables :=
  .bind catalog_obeys fun _ _ => .bind lift_obeys fun _ _ => respond_obeys

theorem health_obeys (h : P Exchange.pingStatement) : Obeys (App.Advances l P) (fun _ => True) health :=
  .bind (inSession_obeys (Exchange.ping_obeys h)) fun _ _ => respond_obeys

theorem report_steps {level : LogLevel} {message : String} : Steps (App.Advances l P) (report level message) :=
  .modify fun app => .of_same rfl (app.session.record_statements _)

theorem reject_steps {a : Arrival} {why : Response.Rejection} : Steps (App.Advances l P) (reject a why) :=
  .bind report_steps fun _ => .pure _

theorem fail_steps {a : Arrival} {e : Error} : Steps (App.Advances l P) (fail a e) := by
  refine .get_bind fun app => ?_
  cases e.report? with
  | none => exact .bind report_steps fun _ => .pure _
  | some known =>
    obtain ⟨kind, text⟩ := known
    by_cases hstatus : 500 ≤ kind.httpStatus
    · simp only [hstatus, if_true]
      exact .bind report_steps fun _ => .pure _
    · simp only [hstatus, if_false]
      exact .bind report_steps fun _ => .pure _

theorem attempt_steps {a : Arrival} {h : Handler Response} {Q : Response → Prop} (hh : Obeys (App.Advances l P) Q h) :
    Steps (App.Advances l P) (perform.attempt a h) := by
  refine .bind hh.run fun result => ?_
  cases result with
  | ok response => exact .pure _
  | error e => exact fail_steps

theorem afterBody_steps {a : Arrival} {h : Handler Response} {Q : Response → Prop}
    (hh : Obeys (App.Advances l P) Q h) : Steps (App.Advances l P) (perform.afterBody a h) := by
  refine .get_bind fun app => ?_
  split
  · exact reject_steps
  · exact attempt_steps hh
  · exact fail_steps

/-- Every endpoint sends what it may. -/
theorem perform_steps {a : Arrival} (e : Endpoint) :
    Steps (App.Advances l (fun b => e.Permits l a.request b)) (perform a e) := by
  cases e with
  | search table => exact afterBody_steps search_obeys
  | extract table => exact afterBody_steps extract_obeys
  | tables => exact attempt_steps tables_obeys
  | health => exact attempt_steps (health_obeys rfl)
  | file => exact reject_steps

/-- What may be sent for a request where it arrives: what the endpoint may send that it leads to. -/
def Permitted (l : Limits) (a : Arrival) (b : Bound) : Prop :=
  ∃ e, route a.verb a.path = .found e ∧ e.Permits l a.request b

theorem dispatch_steps {a : Arrival} {host : List Char} :
    Steps (App.Advances l (Permitted l a)) (dispatch a host) := by
  unfold dispatch
  split
  · rename_i e hroute
    split
    · exact reject_steps
    · split
      · exact .pure _
      · exact (perform_steps e).mono fun _ _ => App.Advances.mono fun b hb => ⟨e, hroute, hb⟩
  · split
    · exact reject_steps
    · refine .get_bind fun app => ?_
      split
      · exact reject_steps
      · exact .pure _
  · exact reject_steps
  · exact reject_steps

theorem breakOff_steps {a : Arrival} : Steps (App.Advances l P) (breakOff a) :=
  .bind report_steps fun _ => .bind reject_steps fun _ => .bind report_steps fun _ => .bind report_steps fun _ => .pure _

/-- What may be done with a request: it is broken off, it is rejected, or it goes where its route leads. -/
inductive Received (a : Arrival) : StateM App Response → Prop
  | broken : Received a (breakOff a)
  | rejected (why : Response.Rejection) : Received a (reject a why)
  | dispatched (host : List Char) : Received a (dispatch a host)

theorem received_of_answer {s : Server} {a : Arrival} {x : StateM App Response} (h : answer s a = .ok x) :
    Received a x := by
  obtain ⟨reached, -, h⟩ := bind_eq_ok.1 h
  cases reached with
  | none =>
    obtain rfl := Except.ok.inj h
    exact .rejected _
  | some host =>
    obtain ⟨known, -, h⟩ := bind_eq_ok.1 h
    cases hname : HostName.ascii? (known.span (· ≠ ':')).1 with
    | some name =>
      simp only [hname] at h
      obtain rfl := Except.ok.inj h
      exact .dispatched _
    | none =>
      simp only [hname] at h
      obtain rfl := Except.ok.inj h
      exact .rejected _

theorem received_of_receive {s : Server} {a : Arrival} {x : StateM App Response} (h : receive s a = .ok x) :
    Received a x := by
  obtain ⟨answered, hanswer, h⟩ := bind_eq_ok.1 h
  split at h
  · split at h
    · cases h
    · obtain rfl := Except.ok.inj h
      exact .broken
  · obtain rfl := Except.ok.inj h
    exact received_of_answer hanswer

theorem receive_steps {s : Server} {a : Arrival} {x : StateM App Response} (h : receive s a = .ok x) :
    Steps (App.Advances l (Permitted l a)) x := by
  cases received_of_receive h with
  | broken => exact breakOff_steps
  | rejected why => exact reject_steps
  | dispatched host => exact dispatch_steps

end Handler

/-! ## Requests and their statements -/

theorem request_of_arrive {s : Server} {r : Request} {a : Arrival} (h : r.arrive s = .ok a) : a.request = r := by
  simp only [Request.arrive, bind_eq_ok] at h
  obtain ⟨_, -, _, -, ⟨path, query⟩, -, _, -, _, -, h⟩ := h
  split at h
  · cases h
  · obtain rfl := Except.ok.inj h
    rfl

namespace App

/-- Handling a request keeps the limits and sends only what is permitted under them. -/
theorem advances_of_handle {app app' : App} {r : Request} {a : Arrival} {response : Response}
    (ha : r.arrive app.server = .ok a) (h : app.handle r = .ok (response, app')) :
    Advances app.limits (Handler.Permitted app.limits a) app app' := by
  obtain ⟨a', ha', h⟩ := bind_eq_ok.1 h
  obtain rfl := Except.ok.inj (ha.symm.trans ha')
  obtain ⟨x, hx, h⟩ := bind_eq_ok.1 h
  obtain ⟨-, rfl⟩ := Prod.mk.inj (Except.ok.inj h)
  exact Handler.receive_steps hx app

theorem limits_of_handle {app app' : App} {r : Request} {response : Response}
    (h : app.handle r = .ok (response, app')) : app'.limits = app.limits := by
  obtain ⟨a, ha, -⟩ := bind_eq_ok.1 h
  exact (advances_of_handle ha h rfl).1

/-- What an application becomes by handling requests. -/
inductive Reaches (app : App) : App → Prop
  | refl : Reaches app app
  | step {app' app'' : App} {r : Request} {response : Response} (h : Reaches app app')
    (hr : app'.handle r = .ok (response, app'')) : Reaches app app''

/-- The limits stay as they are over all requests. -/
theorem limits_of_reaches {app app' : App} (h : app.Reaches app') : app'.limits = app.limits := by
  induction h with
  | refl => rfl
  | step _ hr ih => exact (limits_of_handle hr).trans ih

end App

/-! ## Limits from settings -/

/-- The limits of requests are those of settings. -/
def IsOf (l : Limits) (config : Value) : Prop :=
  l.defaultLimit = Limits.defaultLimitOf config ∧ l.maxLimit = Limits.maxLimitOf config

/-- Without a limit in the settings the usual one is a number. -/
theorem defaultLimitOf_eq_none {config : Value} :
    Limits.defaultLimitOf config = none ↔ config.get? "search_default_limit" = some .null := by
  unfold Limits.defaultLimitOf
  split
  · simp [*]
  · rename_i hv
    exact iff_of_false nofun hv

/-- Limits are read off the settings of a file, whatever is reported about them. -/
theorem load_obeys (path : String) (content : Option String) :
    Obeys Anyhow (fun loaded => IsOf loaded.2 (Limits.ofFile path content).1) (Limits.load path content) :=
  .bind (.anyhow _) fun _ _ => .bind (.bind (.anyhow _) fun _ _ => .pure ⟨rfl, rfl⟩) fun _ hl => .pure hl

/-- The settings that an application is started with. -/
def Launch.settings (l : Launch) : Value := (Limits.ofFile l.configPath l.config).1

theorem limits_of_start {l : Launch} {app : App} {o : LogOutput} (h : l.start = .ok (app, o)) :
    IsOf app.limits l.settings := by
  obtain ⟨l', hl', h⟩ := bind_eq_ok.1 h
  obtain ⟨environment, -, hl'⟩ := bind_eq_ok.1 hl'
  obtain rfl := Except.ok.inj hl'
  obtain ⟨_, -, h⟩ := bind_eq_ok.1 h
  obtain ⟨⟨config, limits⟩, hloaded, h⟩ := bind_eq_ok.1 h
  obtain ⟨rfl, -⟩ := Prod.mk.inj (Except.ok.inj h)
  exact (load_obeys l.configPath l.config []).2 _ hloaded

/-! ## Every statement has its limit -/

/-- Every statement that is sent for a search or an extraction ends in a limit, after whatever requests came before: in
what the body asks for, cut to the greatest number that settings allow. All rows are asked for by infinity, or by naming
nothing where settings have no usual limit. -/
theorem limited_of_handle {l : Launch} {first app app' : App} {o : LogOutput} (hstart : l.start = .ok (first, o))
    (hreach : first.Reaches app) {r : Request} {a : Arrival} (ha : r.arrive app.server = .ok a) {table : String}
    (hroute : route a.verb a.path = .found (.search table) ∨ route a.verb a.path = .found (.extract table))
    {response : Response} (h : app.handle r = .ok (response, app')) :
    ∃ sent, app'.session.statements = app.session.statements ++ sent ∧ ∀ b ∈ sent, ∃ body asked,
      Handler.bodyObject r = .ok body ∧ Asks (Limits.defaultLimitOf l.settings) (namedLimit body) asked ∧
        (asked = none ↔ namedLimit body = .float (.infinite false) ∨
          (namedLimit body = .null ∧ l.settings.get? "search_default_limit" = some .null)) ∧
        b.EndsInLimit (cutLimit asked (Limits.maxLimitOf l.settings)) ∧
        cutLimit asked (Limits.maxLimitOf l.settings) ≤ Limits.maxLimitOf l.settings := by
  obtain ⟨-, sent, hsent, hall⟩ := App.advances_of_handle ha h rfl
  refine ⟨sent, hsent, fun b hb => ?_⟩
  have hgrants : Grants app.limits r b := by
    obtain ⟨e, he, hpermits⟩ := hall b hb
    rw [request_of_arrive ha] at hpermits
    rcases hroute with hroute | hroute
    · obtain rfl := Route.found.inj (hroute.symm.trans he)
      exact hpermits
    · obtain rfl := Route.found.inj (hroute.symm.trans he)
      exact hpermits
  obtain ⟨body, asked, hbody, hasks, hlimit⟩ := hgrants
  -- the limits are still those that the application was started with
  obtain ⟨hdefault, hgreatest⟩ := limits_of_start hstart
  rw [App.limits_of_reaches hreach] at hasks hlimit
  rw [hdefault] at hasks
  rw [hgreatest] at hlimit
  refine ⟨body, asked, hbody, hasks, ?_, hlimit, cutLimit_le asked _⟩
  rw [asks_all_iff hasks, defaultLimitOf_eq_none]

/-- The start over people without settings. -/
def Launch.people : Launch where
  environment := []
  configPath := "config/appconfig.json"
  logging := false
  catalog := some .people
  database := {}

/-- The search for people that asks for no limit. -/
def Request.people : Request where
  method := "POST"
  target := "/api/search/people"

/-- The statement of a search without a limit ends in the usual one. -/
theorem limited_people : ∃ first o response app', Launch.people.start = .ok (first, o) ∧
    first.handle .people = .ok (response, app') ∧ app'.session.statements.length = 1 ∧
    ∀ b ∈ app'.session.statements, b.EndsInLimit 1000 := by
  have hrun : (do
      let (first, _) ← Launch.people.start
      let (_, app') ← first.handle .people
      let a ← Request.people.arrive first.server
      return (first.session.statements.length, app'.session.statements.length, route a.verb a.path) :
        Except Error (Nat × Nat × Route)).toOption = some (0, 1, .found (.search "people")) := by
    decide +kernel
  obtain ⟨⟨first, o⟩, hstart, hrun⟩ := bind_eq_ok.1 (toOption_eq_some.1 hrun)
  obtain ⟨⟨response, app'⟩, hhandle, hrun⟩ := bind_eq_ok.1 hrun
  obtain ⟨a, ha, hrun⟩ := bind_eq_ok.1 hrun
  obtain ⟨hnone, hrun⟩ := Prod.mk.inj (Except.ok.inj hrun)
  obtain ⟨hone, hroute⟩ := Prod.mk.inj hrun
  refine ⟨first, o, response, app', hstart, hhandle, hone, fun b hb => ?_⟩
  obtain ⟨sent, hsent, hall⟩ := limited_of_handle hstart .refl ha (.inl hroute) hhandle
  rw [hsent, List.length_eq_zero_iff.1 hnone, List.nil_append] at hb
  obtain ⟨body, asked, hbody, hasks, -, hlimit, -⟩ := hall b hb
  obtain rfl := Except.ok.inj (hbody.symm.trans (rfl : Handler.bodyObject .people = .ok (.object [])))
  cases hasks with
  | usual => exact hlimit
  | named hv => exact absurd rfl hv

end FacetSearch.Http

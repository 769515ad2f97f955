import FacetSearch.Criteria.Build
import FacetSearch.Http.Response
import FacetSearch.Http.Route
import FacetSearch.Service.Row
import FacetSearch.Service.Search
import FacetSearch.Settings.Limits
/-!
# The application

The application answers requests: searches, extractions, a list of tables and the question whether the
database is there. Its settings give the tolerance and the limits for requests. A catalog that is not
given is made of the database once, when it is first needed. Reported errors are answered with their
kind and words, all others without.
-/

namespace FacetSearch.Http

/-- Settings, the catalog, if there is one already, and the session with the database. -/
structure App where
  server : Server := {}
  limits : Limits
  catalog : Option Catalog
  session : Session

/-- What the application does for a request, which may fail. -/
abbrev Handler := ExceptT Error (StateM App)

namespace Handler

/-- Does an exchange in the session. -/
def inSession {α : Type} (x : Exchange α) : Handler α := fun app =>
  let (r, session) := x.run app.session
  (r, { app with session })

/-- Does what needs no application. -/
def lift {α : Type} (r : Except Error α) : Handler α :=
  match r with
  | .ok a => return a
  | .error e => throw e

/-- The catalog, which is made if there is none yet. -/
def catalog : Handler Catalog := do
  match (← get).catalog with
  | some c => return c
  | none =>
    let c ← inSession Exchange.reflect
    modify fun app => { app with catalog := some c }
    return c

/-- The object in the body of a request; without a body it is empty. -/
def bodyObject (r : Request) : Except Error Value := do
  match ← r.json? with
  | none | some .null => return .object []
  | some (.object es) => return .object es
  | some _ => throw (.configuration .bodyShape)

/-- The limit of a request that names one or none, at most the greatest one. -/
def limitFor (l : Limits) (named : Value) : Except Error (Option Int) := do
  let limit ← if named.isNull then .ok l.defaultLimit else Criteria.parseLimit named
  return some (match limit with
    | some n => min n l.maxLimit
    | none => l.maxLimit)

/-- The criteria of a search. -/
def searchCriteria (l : Limits) (body : Value) : Except Error Criteria := do
  let entries := (body.entries?.getD []).filter fun e => !e.1.same (.text "limit")
  let c ← Criteria.ofObject (.object entries) (.float l.tolerance)
  let limit ← limitFor l ((body.get? "limit").getD .null)
  return { c with limit }

/-- The criteria of one side of an extraction, which have no limit of their own. -/
def sideCriteria (l : Limits) (side : Value) : Except Error Criteria :=
  if (side.get? "limit").isSome then .error (.configuration .innerLimit)
  else Criteria.ofObject side (.float l.tolerance)

/-- The members that the body of an extraction may have. -/
def extractionMembers : List String := ["in", "out", "range", "limit", "unique"]

/-- The extraction that a body asks for. -/
def extractionOf (l : Limits) (body : Value) : Except Error Extraction := do
  let unknown := Criteria.unknownKeys extractionMembers (body.entries?.getD [])
  if !unknown.isEmpty then throw (.configuration (.extractionKeys unknown))
  match (body.get? "range").bind Value.members? with
  | some [lower, upper] =>
    let inner ← sideCriteria l ((body.get? "in").getD .null)
    let outer ← sideCriteria l ((body.get? "out").getD .null)
    let limit ← limitFor l ((body.get? "limit").getD .null)
    return { inner, outer, lower, upper, limit := limit.map .int }
  | _ => throw (.configuration .extractionRange)

/-- The response with a value as its body. -/
def respond (status : Nat) (entries : List (String × Value)) : Handler Response := do
  match Response.json? (← get).server status (Response.objectOf entries) with
  | some r => return r
  | none => throw (.failure .wrongType)

/-- The response with rows. -/
def respondRows (rows : List Value) : Handler Response := do
  let data ← lift (rows.mapM Row.normalize)
  respond 200 [("ok", .bool true), ("data", .list data)]

/-- Answers a search. -/
def search (r : Request) (table : String) : Handler Response := do
  let l := (← get).limits
  let c ← lift (do searchCriteria l (← bodyObject r))
  let known ← catalog
  respondRows (← inSession (Exchange.searchRows (some known) (.text table) c))

/-- Answers an extraction, with the related rows themselves if they are asked for. -/
def extract (r : Request) (table : String) : Handler Response := do
  let l := (← get).limits
  let body ← lift (bodyObject r)
  let e ← lift (extractionOf l body)
  let known ← catalog
  let rows ← inSession (Exchange.extractRows (some known) (.text table) e)
  if ((body.get? "unique").getD .null).isTruthy then
    respondRows (← inSession (Exchange.uniqueRows (some known) (.text table) rows e.limit))
  else respondRows rows

/-- Answers with all tables. -/
def tables : Handler Response := do
  respond 200 [("ok", .bool true), ("data", ← lift (← catalog).tablesValue)]

/-- Answers whether the database is there. -/
def health : Handler Response := do
  let ok ← inSession Exchange.ping
  respond (if ok then 200 else 503) [("ok", .bool ok)]

/-- Reports something about a request. -/
def report (level : LogLevel) (message : String) : StateM App Unit :=
  modify fun app => { app with session := app.session.record ⟨level, .application, message⟩ }

/-- The method and the path of a request. -/
def describe (a : Arrival) : String := a.verb ++ " " ++ a.pathText

/-- Answers a request that is rejected. -/
def reject (a : Arrival) (why : Response.Rejection) : StateM App Response := do
  report .warning ("HTTP " ++ toString why.status ++ " on " ++ describe a)
  return Response.ofRejection a why

/-- Answers an error. -/
def fail (a : Arrival) (e : Error) : StateM App Response := do
  let server := (← get).server
  match e.report? with
  | some (kind, text) =>
    if 500 ≤ kind.httpStatus then report .error ("Search compiler failure on " ++ describe a)
    else report .warning ("Rejected search on " ++ describe a ++ ": " ++ text)
    return Response.ofError server a kind text
  | none =>
    report .error "Unhandled exception"
    return Response.internalError server

/-- What an endpoint does; files are never there. A body that is too long is not read. -/
def perform (a : Arrival) : Endpoint → StateM App Response
  | .search table => afterBody (search a.request table)
  | .extract table => afterBody (extract a.request table)
  | .tables => attempt tables
  | .health => attempt health
  | .file => reject a .notFound
where
  attempt (h : Handler Response) : StateM App Response := do
    match ← h.run with
    | .ok response => return response
    | .error e => fail a e
  afterBody (h : Handler Response) : StateM App Response := do
    match (← get).server.isTooLong a.request.readLength with
    | .ok true => reject a .tooLong
    | .ok false => attempt h
    | .error e => fail a e

/-- Answers a request that leads to another address. -/
def redirect (a : Arrival) (address : List Char) : StateM App Response := do
  if (← get).server.trapped then reject a (.moved address) else return Response.ofRedirect address

/-- Answers a request at the place where it goes, the application knowing itself under a host. -/
def dispatch (a : Arrival) (host : List Char) : StateM App Response :=
  match route a.verb a.path with
  | .found e =>
    if a.keepsOpen then reject a .malformed
    else if a.verb = "OPTIONS" then return Response.options
    else perform a e
  | .redirect path =>
    if a.keepsOpen then reject a .malformed
    else redirect a (a.sibling host (Percent.encode Response.locationMarks path))
  | .wrongMethod => reject a .methodNotAllowed
  | .missing => reject a .notFound

/-- Answers a request whose session is not found, which leaves nothing for its end. -/
def breakOff (a : Arrival) : StateM App Response := do
  report .error ("Exception on " ++ a.pathText ++ " [" ++ a.verb ++ "]")
  let response ← reject a .broken
  report .error "Request finalizing failed with an error while handling an error"
  report .error "Teardown exception"
  return response

/-- Answers a request at the place where it goes, unless the host is not trusted or has no name in
ASCII. -/
def answer (s : Server) (a : Arrival) : Except Error (StateM App Response) := do
  let host := Server.withoutUsualPort a.scheme a.host
  let some host ← s.reachedHost? host | return reject a (.untrusted host)
  let known ← s.knownHost a.scheme host
  let (name, port) := known.span (· ≠ ':')
  match HostName.ascii? name with
  | some name => return dispatch a (name ++ port)
  | none => return reject a .malformed

/-- What the application does with a request: it looks for its session and answers. -/
def receive (s : Server) (a : Arrival) : Except Error (StateM App Response) := do
  let answered ← answer s a
  match s.signing.failure? with
  | some f => if s.raises then throw (.failure f) else return breakOff a
  | none => return answered

end Handler

/-- The response of an application to a request, and the application after it. A request that is none
is not answered. -/
def App.handle (app : App) (r : Request) : Except Error (Response × App) := do
  let a ← r.arrive app.server
  let answer ← Handler.receive app.server a
  let (response, app) := answer.run app
  return (response.sentFor r.method, app)

end FacetSearch.Http

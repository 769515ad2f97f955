import FacetSearch.Http.Address
import FacetSearch.Http.Signing
import FacetSearch.Settings.Environment
import FacetSearch.Value.Equality
/-!
# The server

Settings say how the application is reached and how it answers: under which scheme, name and root, which
hosts are trusted, how long a body may be, whether answers are laid out for people, whether redirections
are answered like other rejections, how sessions are signed, and whether errors that nothing answers end
the application. They come from the settings file, where they may be of any shape.
-/

namespace FacetSearch.Http

/-- How the application is reached and how it answers. -/
structure Server where
  debug : Bool := false
  scheme : Value := .text "http"
  name : Value := .null
  root : Value := .text "/"
  trusted : Value := .null
  maxLength : Value := .null
  trapped : Bool := false
  signing : Signing := {}
  testing : Bool := false
  propagates : Option Bool := none

namespace Server

/-- The environment asks for answers that are laid out for people. -/
def debugWanted (env : Environment) : Bool :=
  match env.nonempty? "FLASK_DEBUG" with
  | some s => Text.lower s ∉ ["0", "false", "no"]
  | none => false

/-- The settings of an object; what it does not name has a default, which the environment may say. -/
def ofConfig (env : Environment) (config : Value) : Server :=
  let usual : Server := { debug := debugWanted env }
  let flag? := fun name => (config.get? name).map Value.isTruthy
  { debug := (flag? "DEBUG").getD usual.debug
    scheme := (config.get? "PREFERRED_URL_SCHEME").getD usual.scheme
    name := (config.get? "SERVER_NAME").getD usual.name
    root := (config.get? "APPLICATION_ROOT").getD usual.root
    trusted := (config.get? "TRUSTED_HOSTS").getD usual.trusted
    maxLength := (config.get? "MAX_CONTENT_LENGTH").getD usual.maxLength
    trapped := (flag? "TRAP_HTTP_EXCEPTIONS").getD usual.trapped
    signing := .ofConfig config
    testing := (flag? "TESTING").getD usual.testing
    propagates := if (config.get? "PROPAGATE_EXCEPTIONS").all Value.isNull then usual.propagates
      else flag? "PROPAGATE_EXCEPTIONS" }

/-- An error that nothing answers ends the application; without a setting that is so when it is tested or
answers are laid out for people. -/
def raises (s : Server) : Bool := s.propagates.getD (s.testing || s.debug)

/-- The host that requests name if they name none. -/
def usualHost (s : Server) : String := if s.name.isTruthy then s.name.plain else "localhost"

/-- The root without slashes in front; it has to be a text. -/
def rootPath (s : Server) : Except Error (List Char) :=
  match s.root with
  | .text t => .ok (t.toList.dropWhile (· = '/'))
  | _ => .error (.failure .missingMember)

/-- A host without the port that its scheme has anyway. -/
def withoutUsualPort (scheme host : List Char) : List Char :=
  let drop := fun (port : String) =>
    if port.toList.isSuffixOf host then host.take (host.length - port.length) else host
  if scheme ∈ ["http".toList, "ws".toList] then drop ":80"
  else if scheme ∈ ["https".toList, "wss".toList] then drop ":443"
  else host

/-- A host without its port, in ASCII. -/
def bareName (host : List Char) : Except Error (List Char) :=
  match HostName.ascii? (Address.cut ':' host).1 with
  | some name => .ok name
  | none => .error (.failure .hostName)

/-- A trusted name covers a host: they are the same, or the name begins with a dot and the host ends
with it. -/
def covers (trusted : Value) (name : List Char) : Except Error Bool :=
  match trusted with
  | .text t => do
    let (wide, t) := match t.toList with
      | '.' :: cs => (true, cs)
      | cs => (false, cs)
    let t ← bareName t
    return t = name || (wide && ('.' :: t).isSuffixOf name)
  | _ => .error (.failure .missingMember)

/-- One of the trusted names covers a host. -/
def anyCovers (name : List Char) : List Value → Except Error Bool
  | [] => .ok false
  | t :: ts => do if ← covers t name then return true else anyCovers name ts

/-- A host is trusted, given that there are trusted names. -/
def trusts (s : Server) (host : List Char) : Except Error Bool := do
  if !HostName.isHost host then return false
  let name := (HostName.splitPort host).1
  match s.trusted with
  | .text t => anyCovers name [.text t]
  | v =>
    match v.items? with
    | some ts => anyCovers name ts
    | none => throw (.failure .wrongType)

/-- The host that a request reaches, unless it is not trusted. Without trusted names every host is
trusted, but one that is none counts as empty. -/
def reachedHost? (s : Server) (host : List Char) : Except Error (Option (List Char)) := do
  if s.trusted.isTruthy then return if ← s.trusts host then some host else none
  return some (if HostName.isHost host then host else [])

/-- The host under which the application knows itself, when a request reaches it under a host: its own
name, if it has one. -/
def knownHost (s : Server) (scheme host : List Char) : Except Error (List Char) :=
  match s.name with
  | .null => .ok (Text.lower (String.ofList host)).toList
  | .text t => .ok (withoutUsualPort scheme (Text.lower t).toList)
  | _ => .error (.failure .missingMember)

/-- A body of so many bytes is longer than one may be, which has to be a number if it is given. -/
def isTooLong (s : Server) (length : Nat) : Except Error Bool :=
  if s.maxLength.isNull || length = 0 then .ok false
  else match s.maxLength.number? with
    | some n => .ok (Number.gt (.int length) n)
    | none => .error (.failure .wrongType)

end Server

end FacetSearch.Http

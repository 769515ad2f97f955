import FacetSearch.Http.Server
import FacetSearch.Json.Encoding
import FacetSearch.Json.Reader
import FacetSearch.Text.Blank
import FacetSearch.Text.Lines
import FacetSearch.Text.UpperCase
/-!
# Requests

A request has a method, a target and perhaps a body of some type. The target is an address, of which
scheme and host may be left out; it is read against the address of the server. An `Arrival` is a request
with what became of its target there. A body counts as JSON if its type says so and it can be read.
-/

namespace FacetSearch.Http

/-- A request as it is sent. -/
structure Request where
  method : String
  target : String
  contentType : Option String := none
  body : Option String := none

/-- A request where it arrives: under which scheme and host, at which root and path, and with which
query. -/
structure Arrival where
  request : Request
  scheme : List Char
  host : List Char
  root : List Char
  path : List Char
  query : List Char

namespace Request

/-- The address of the server, as a target completes it. -/
def base (s : Server) (target : Address) : Except Error Address := do
  let root ← s.rootPath
  let scheme := if target.scheme.isEmpty then s.scheme.plain.toList else target.scheme
  let host := if target.authority.isEmpty then s.usualHost.toList else target.authority
  let a ← Address.read (scheme ++ "://".toList ++ host ++ '/' :: root)
  let a ← Address.read (← a.encoded)
  if !a.query.isEmpty || !a.fragment.isEmpty then throw (.value (.address .baseWithQuery))
  return a

/-- The path of a target and its query. A path that looks like an address is taken as one. -/
def located (target : Address) : Except Error (List Char × List Char) := do
  let query := if target.query.isEmpty then [] else '?' :: target.query
  let rest ← Address.read (target.path ++ query)
  let path ← (← Address.read rest.path).encoded
  return (path, if query.isEmpty then [] else rest.query)

/-- The type of the body is written in one line, and the body can be encoded. -/
def checkBody (r : Request) : Except Error Unit :=
  if (r.contentType.getD "").toList.any fun c => c = '\r' ∨ c = '\n' then
    .error (.value .headerLineEnd)
  else if Text.hasHalf (r.body.getD "").toList then .error (.failure .encoding)
  else .ok ()

/-- The request where it arrives at a server. -/
def arrive (s : Server) (r : Request) : Except Error Arrival := do
  let target ← Address.read r.target.toList
  let _ ← s.rootPath
  let (path, query) ← located target
  let a ← base s target
  r.checkBody
  if Text.hasHalf query then throw (.failure .encoding)
  return {
    request := r
    scheme := a.scheme
    host := a.authority
    root := Text.trim (· = '/') (Percent.decode (Text.dropEndWhile (· = '/') a.path))
    path := '/' :: (Percent.decode path).dropWhile (· = '/')
    query }

/-- The type of the body without parameters and without spaces and tabs around it, in lower case. -/
def mediaType (r : Request) : String :=
  let kind := (r.contentType.getD "").toList.takeWhile (· ≠ ';')
  Text.lower (String.ofList (Text.trim (fun c => c == ' ' || c == '\t') kind))

/-- The type of the body is that of JSON or one that is written as JSON. -/
def isJson (r : Request) : Bool :=
  r.mediaType == "application/json" ||
    ("application/".toList.isPrefixOf r.mediaType.toList && "+json".toList.isSuffixOf r.mediaType.toList)

/-- The bytes of the body, which is sent in UTF-8. -/
def bodyBytes (r : Request) : List Nat := (r.body.getD "").toUTF8.toList.map UInt8.toNat

/-- How many bytes of the body are read, which are those of JSON. -/
def readLength (r : Request) : Nat := if r.isJson then (r.body.getD "").utf8ByteSize else 0

/-- The characters of the body as JSON, in the units that its bytes tell. -/
def jsonChars? (r : Request) : Option (List Char) :=
  match Json.Units.ofBytes? r.bodyBytes with
  | some units => units.decode? r.bodyBytes
  | none => some (Text.unmarked (r.body.getD "").toList)

/-- The value of the body, if it counts as JSON. -/
def json? (r : Request) : Except Error (Option Value) :=
  match if r.isJson then r.jsonChars? else none with
  | some text =>
    match Json.read text with
    | .ok v => .ok (some v)
    | .error f => (f.failure?.map Except.error).getD (.ok none)
  | none => .ok none

end Request

namespace Arrival

/-- The path as a text. -/
def pathText (a : Arrival) : String := String.ofList a.path

/-- The method in upper case. -/
def verb (a : Arrival) : String := Text.upper a.request.method

/-- The scheme is one of those that keep a connection open, under which nothing is answered. -/
def keepsOpen (a : Arrival) : Bool := a.scheme == "ws".toList || a.scheme == "wss".toList

/-- The address of another path at the same root, under a host. -/
def sibling (a : Arrival) (host path : List Char) : List Char :=
  Address.chars {
    scheme := if a.scheme.isEmpty then "http".toList else a.scheme
    authority := host
    path := a.root ++ '/' :: path.dropWhile (· = '/')
    query := a.query }

end Arrival

end FacetSearch.Http

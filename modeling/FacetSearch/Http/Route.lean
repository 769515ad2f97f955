import FacetSearch.Text.Percent
import FacetSearch.Text.Split
/-!
# Routes

Which endpoint a path leads to. A path is split at its slashes and compared part by part; the name of a
table is one part that is not empty. Files would be found under `static`. A path that leads somewhere
only after doubled slashes are made single is redirected.
-/

namespace FacetSearch.Http

/-- What a path leads to. -/
inductive Endpoint where
  | search (table : String)
  | extract (table : String)
  | tables
  | health
  | file
  deriving DecidableEq

/-- The methods that an endpoint takes. -/
def Endpoint.methods : Endpoint → List String
  | search _ | extract _ => ["POST", "OPTIONS"]
  | tables | health | file => ["GET", "HEAD", "OPTIONS"]

/-- The name of a file below another directory: it does not begin with a slash and has no line end behind
its first character. -/
def isFileName : List Char → Bool
  | [] => false
  | c :: cs => c != '/' && !cs.contains '\n'

/-- The endpoint that the parts of a path lead to. -/
def endpointOf (parts : List (List Char)) : Option Endpoint :=
  match parts.map String.ofList with
  | ["", "api", "search", table] => if table = "" then none else some (.search table)
  | ["", "api", "extract", table] => if table = "" then none else some (.extract table)
  | ["", "api", "tables"] => some .tables
  | ["", "api", "health"] => some .health
  | "" :: "static" :: file => if isFileName ("/".intercalate file).toList then some .file else none
  | _ => none

/-- The path with slashes that stand together made one. -/
def mergeSlashes : List Char → List Char
  | '/' :: '/' :: cs => mergeSlashes ('/' :: cs)
  | c :: cs => c :: mergeSlashes cs
  | [] => []

/-- Where a request goes. -/
inductive Route where
  | found (e : Endpoint)
  | redirect (path : List Char)
  | wrongMethod
  | missing
  deriving DecidableEq

/-- Where a request with a method and a path goes. -/
def route (method : String) (path : List Char) : Route :=
  match endpointOf (Text.splitChars '/' path) with
  | some e => if method ∈ e.methods then .found e else .wrongMethod
  | none =>
    match endpointOf (Text.splitChars '/' (mergeSlashes path)) with
    | some e => if method ∈ e.methods then .redirect (mergeSlashes path) else .wrongMethod
    | none => .missing

end FacetSearch.Http

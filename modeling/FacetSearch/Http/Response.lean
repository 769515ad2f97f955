import FacetSearch.Http.Request
import FacetSearch.Json.Writer
/-!
# Responses

A response has a status, a type and a body. Results and reported errors are JSON sorted by keys on one
line, or on many if the server says so; requests that are rejected are answered by JSON in the order of
its entries. The response to a `HEAD` request has no body.
-/

namespace FacetSearch.Http

/-- A response. -/
structure Response where
  status : Nat
  contentType : String
  body : String
  deriving DecidableEq

namespace Response

/-- The type of JSON. -/
def jsonType : String := "application/json"

/-- The type of a page. -/
def pageType : String := "text/html; charset=utf-8"

/-- The text for a value in a result that JSON has no form for. A date is its first moment. -/
def cellText : Value → Option String
  | .uuid u => some u.text
  | .decimal d => some d.text
  | .timestamp t => t.httpText?
  | .date d => (Timestamp.ofDate d).httpText?
  | _ => none

/-- An object with text keys. -/
def objectOf (entries : List (String × Value)) : Value := .object (entries.map fun (k, v) => (.text k, v))

/-- The layout of results and reported errors. -/
def layout (s : Server) : Json.Layout := if s.debug then Json.sortedLines cellText else Json.compact cellText

/-- A response with a value as its body, unless the value cannot be written. -/
def json? (s : Server) (status : Nat) (v : Value) : Option Response := do
  return ⟨status, jsonType, (← Json.write (layout s) v) ++ "\n"⟩

/-- The response to an error that is not reported. -/
def internalError (s : Server) : Response :=
  (json? s 500 (objectOf [("ok", .bool false), ("error", .text "Internal Server Error")])).getD
    ⟨500, jsonType, ""⟩

/-- The response to an error that is reported. -/
def ofError (s : Server) (a : Arrival) (kind : ReportKind) (text : String) : Response :=
  (json? s kind.httpStatus (objectOf [("ok", .bool false), ("error", .text kind.name),
    ("description", .text text), ("path", .text a.pathText), ("method", .text a.verb)])).getD
      (internalError s)

/-- Why a request is answered by nothing that it asked for. -/
inductive Rejection where
  | notFound
  | methodNotAllowed
  | malformed
  | untrusted (host : List Char)
  | tooLong
  | moved (address : List Char)
  | broken
  deriving DecidableEq

/-- The status of a rejection. -/
def Rejection.status : Rejection → Nat
  | moved _ => 308
  | malformed | untrusted _ => 400
  | notFound => 404
  | methodNotAllowed => 405
  | tooLong => 413
  | broken => 500

/-- The name of a rejection. -/
def Rejection.name : Rejection → String
  | moved _ => "Permanent Redirect"
  | malformed | untrusted _ => "Bad Request"
  | notFound => "Not Found"
  | methodNotAllowed => "Method Not Allowed"
  | tooLong => "Request Entity Too Large"
  | broken => "Internal Server Error"

/-- The words for a rejection. -/
def Rejection.description : Rejection → String
  | moved address => String.ofList address
  | malformed => "The browser (or proxy) sent a request that this server could not understand."
  | untrusted host => "Host " ++ Text.quoted (String.ofList host) ++ " is not trusted."
  | tooLong => "The data value transmitted exceeds the capacity limit."
  | notFound => "The requested URL was not found on the server. If you entered the URL manually please" ++
      " check your spelling and try again."
  | methodNotAllowed => "The method is not allowed for the requested URL."
  | broken => "The server encountered an internal error and was unable to complete your request." ++
      " Either the server is overloaded or there is an error in the application."

/-- The response to a request that is rejected. -/
def ofRejection (a : Arrival) (why : Rejection) : Response :=
  let v := objectOf [("ok", .bool false), ("error", .text why.name), ("code", .int why.status),
    ("description", .text why.description), ("path", .text a.pathText), ("method", .text a.verb)]
  ⟨why.status, jsonType, (Json.write Json.spaced v).getD ""⟩

/-- Marks that stand for themselves in a location. -/
def locationMarks : List Char := "!$&'()*+,/:;=@".toList

/-- A character in a page. -/
def pageChar : Char → List Char
  | '&' => "&amp;".toList
  | '<' => "&lt;".toList
  | '>' => "&gt;".toList
  | '"' => "&#34;".toList
  | '\'' => "&#39;".toList
  | c => [c]

/-- The page that leads to an address. -/
def ofRedirect (address : List Char) : Response :=
  let shown := String.ofList (address.flatMap pageChar)
  ⟨308, pageType, "<!doctype html>\n<html lang=en>\n<title>Redirecting...</title>\n" ++
    "<h1>Redirecting...</h1>\n<p>You should be redirected automatically to the target URL: <a href=\"" ++
    shown ++ "\">" ++ shown ++ "</a>. If not, click the link.\n"⟩

/-- The response that says which methods are taken. -/
def options : Response := ⟨200, pageType, ""⟩

/-- The response as it is sent for a method. -/
def sentFor (r : Response) (method : String) : Response :=
  if method = "HEAD" then { r with body := "" } else r

end Response

end FacetSearch.Http

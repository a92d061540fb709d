import Sluice.Json.Reader
import Sluice.Plugin.Outgoing

/-!
# `http`

Asks a server.  The answer is true once a reply has been read, whatever its status; the status, the
media type and the body of the reply are the result.
-/

namespace Sluice.Http

/-- The body of a request. -/
inductive Body where
  | json (v : Json)
  | string (s : String)

/-- The parameters. -/
structure Params where
  url : String
  method : String
  headers : List (String × String)
  query : List (String × String)
  body : Option Body
  response : String
  credentials : Option (String × String)

/-- A body among parameters. -/
def readBody : Json → Except ParamFlaw Body
  | .map [("json", v)] => .ok (.json v)
  | .map [("string", .string s)] => .ok (.string s)
  | v => .error (.wrongKind v "enum Body")

open Sluice.Params in
def Params.read (params : Fields Json) : Except ParamFlaw Params := do
  let url ← required text "url" params
  let method ← usually "GET" text "method" params
  let headers ← usually [] textsByName "headers" params
  let query ← usually [] textsByName "params" params
  let body ← optional readBody "body" params
  let response ← usually "STRING" text "response" params
  let credentials ← optional Outgoing.readCredentials "basic_auth" params
  return ⟨← filled "url" url, method, headers, query, body, response, credentials⟩

/-- The schema of mappings from names that are not empty to texts. -/
def textsByName : Schema := .of .object [
  .fieldNames (.keywords [.minLength 1]),
  .otherFields [] [] (some .text)]

def schema : Schema := .of .object [
  .fields [
    ("url", .someText),
    ("method", .text),
    ("headers", textsByName),
    ("params", textsByName),
    ("body", .of .object [
      .oneOf [.having ["json"], .having ["string"]],
      .otherFields [("json", .keywords []), ("string", .text)] [] none]),
    ("response", .text),
    ("basic_auth", Outgoing.credentialsSchema)],
  .required ["url"]]

/-- The methods that can be sent. -/
def methods : List String := ["GET", "HEAD", "OPTIONS", "POST", "PUT", "DELETE", "PATCH"]

/-- Whether requests of a method should have a body. -/
def needsBody (method : String) : Bool := ["POST", "PUT", "PATCH"].contains method

/-- The request that parameters ask for, with its URL. -/
def prepare (p : Params) : Except ParamFlaw (Url × Outgoing) := do
  let method := p.method.map Char.toUpper
  if ¬ methods.contains method then throw (.unsupportedMethod p.method)
  let response := p.response.map Char.toUpper
  if response ≠ "JSON" ∧ response ≠ "STRING" then throw (.badResponse response)
  let url ← match Url.parse p.url with
    | .ok url => pure (url.withQuery p.query)
    | .error flaw => throw (.badUrl p.url flaw)
  let accepted := ("Accept", if response = "JSON" then "application/json" else "*/*")
  let (kind, body) := match needsBody method, p.body with
    | true, some (.json v) => ([("Content-Type", "application/json")], some v.text)
    | true, some (.string s) => ([("Content-Type", "text/plain")], some s)
    | _, _ => ([], none)
  return (url, ⟨method, url.text, accepted :: kind ++ p.headers, p.credentials, body⟩)

/-- What a reply gives. -/
def result (response : Json) (reply : Reply) : Fields Json :=
  [("response", response), ("type", .string reply.kind), ("code", .nat reply.status)]

/-- The answer to a reply. -/
def answer (ctx : Context) (p : Params) (log : List Record) (reply : Reply) : Answer :=
  let body := Text.decode reply.body
  if p.response.map Char.toUpper = "JSON" then
    match Json.read body.toList with
    | .ok v => ⟨.ok true, some (result v reply), ctx, log⟩
    | .error refusal =>
      ⟨.ok false, none, ctx, log ++
       [⟨.error, some "Response is not JSON", [("error", refusal.message)]⟩]⟩
  else ⟨.ok true, some (result (.string body) reply), ctx, log⟩

/-- Asks the server. -/
def call (host : Host) (params : Fields Json) (ctx : Context) : Answer :=
  match Params.read params with
  | .error flaw => .fail ctx (.invalidParams flaw) []
  | .ok p => match prepare p with
    | .error flaw => .fail ctx (.invalidParams flaw) []
    | .ok (url, request) =>
      let log := if needsBody request.method ∧ p.body.isNone then
        [⟨.warn, some "Method should have a body", [("method", request.method)]⟩] else []
      match Outgoing.sendTo host.send url request with
      | .ok reply => answer ctx p log reply
      | .error reason =>
        .fail ctx (.failed ("request failed: " ++ reason))
          (log ++ [⟨.error, some "HTTP request failed", [("error", reason)]⟩])

def plugin (host : Host) : Plugin := ⟨"http", schema, call host⟩

end Sluice.Http

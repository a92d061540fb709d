import Sluice.Json.Reader
import Sluice.Plugin.Outgoing

/-!
# `jsonrpc`

Calls a procedure of a JSON-RPC 2.0 server.  The answer is false if the server objects; otherwise
what it returns is the result.
-/

namespace Sluice.JsonRpc

/-- The parameters. -/
structure Params where
  url : String
  procedure : String
  args : Option Json
  credentials : Option (String × String)

open Sluice.Params in
def Params.read (params : Fields Json) : Except ParamFlaw Params := do
  let url ← required text "url" params
  let procedure ← required text "procedure" params
  let args ← optional (fun v => .ok v) "params" params
  let credentials ← optional Outgoing.readCredentials "basic_auth" params
  return ⟨← filled "url" url, ← filled "procedure" procedure, args, credentials⟩

def schema : Schema := .of .object [
  .fields [
    ("url", .someText),
    ("procedure", .someText),
    ("params", .keywords []),
    ("basic_auth", Outgoing.credentialsSchema)],
  .required ["url", "procedure"]]

/-- The arguments of a call: lists and maps as they are, anything else in a list. -/
def arguments : Option Json → Fields Json
  | none => []
  | some (.list items) => [("params", .list items)]
  | some (.map fields) => [("params", .map fields)]
  | some v => [("params", .list [v])]

/-- The call that parameters ask for. -/
def payload (p : Params) : Json :=
  .map ([("jsonrpc", .string "2.0"), ("method", .string p.procedure), ("id", .nat 0)] ++
    arguments p.args)

/-- Asks the server. -/
def ask (host : Host) (p : Params) : Except String Json := do
  let url ← match Url.parse p.url with
    | .ok url => pure url
    | .error _ => throw (Outgoing.refusal none)
  let headers := [("Accept", "application/json"), ("Content-Type", "application/json")]
  let body := (payload p).text
  let reply ← Outgoing.sendTo host.send url ⟨"POST", url.text, headers, p.credentials, some body⟩
  if 400 ≤ reply.status then
    throw ("HTTP status " ++ toString reply.status ++ " for url (" ++ url.text ++ ")")
  match Json.read (Text.decode reply.body).toList with
  | .ok v => return v
  | .error _ => throw "error decoding response body"

/-- Calls the procedure. -/
def call (host : Host) (params : Fields Json) (ctx : Context) : Answer :=
  match Params.read params with
  | .error flaw => .fail ctx (.invalidParams flaw) []
  | .ok p => match ask host p with
    | .error reason => .fail ctx (.failed ("jsonrpc call failed: " ++ reason)) []
    | .ok reply => match reply.get? "error" with
      | none | some .null => .of ctx true (some [("response", (reply.get? "result").getD .null)])
      | some e => ⟨.ok false, none, ctx, [⟨.warn, some "jsonrpc call error", [("error", e.text)]⟩]⟩

def plugin (host : Host) : Plugin := ⟨"jsonrpc", schema, call host⟩

end Sluice.JsonRpc

import Sluice.Form
import Sluice.Index
import Sluice.Json.Basic

/-!
# Requests

What is known of an incoming request.  Header names do not depend on case and only the first value
of a header counts; query parameters keep all their values.
-/

namespace Sluice

/-- The facts of a request. -/
structure Request where
  method : String
  path : String
  headers : Index String
  query : Index (List String)
  body : List UInt8

namespace Request

/-- A request without headers, query parameters and body. -/
def of (method path : String) : Request := ⟨method, path, .empty, .empty, []⟩

def lower (name : String) : String := name.map Char.toLower

/-- Adds a header; the first value of a name stays. -/
def withHeader (r : Request) (name value : String) : Request :=
  { r with headers := r.headers.adjust (lower name) fun first => first.getD value }

/-- Adds a value of a query parameter, behind those it has. -/
def withQuery (r : Request) (name value : String) : Request :=
  { r with query := r.query.adjust name fun values => values.getD [] ++ [value] }

def withQueryString (r : Request) (query : String) : Request :=
  (Form.read query).foldl (fun r entry => r.withQuery entry.1 entry.2) r

/-- The value of a header. -/
def header? (r : Request) (name : String) : Option String := r.headers.get? (lower name)

def view (r : Request) : Json :=
  .map [
    ("Method", .string r.method),
    ("Path", .string r.path),
    ("Header", .map (r.headers.entries.map fun entry => (entry.1, .string entry.2))),
    ("Query", .map (r.query.entries.map fun entry => (entry.1, .list (entry.2.map .string))))]

/-- The path and the query string of a request target: what follows the host of an absolute one,
without what follows a `#`. -/
def splitTarget (target : String) : String × String :=
  let cs := target.toList.takeWhile (· ≠ '#')
  let isLocal : Bool := cs.head? = some '/' ∨ cs = ['*']
  let cs := match isLocal, Text.splitOnce? ':' cs with
    | false, some (_, '/' :: '/' :: rest) =>
      let rest := rest.dropWhile fun c => c ≠ '/' ∧ c ≠ '?'
      if rest.head? = some '/' then rest else '/' :: rest
    | false, _ => []
    | true, _ => cs
  let path := cs.takeWhile (· ≠ '?')
  (String.ofList path, String.ofList ((cs.dropWhile (· ≠ '?')).drop 1))

/-- The facts of a request as it arrives: its headers are bytes, its target has a path and a query
string. -/
def receive (method target : String) (headers : List (String × List UInt8)) (body : List UInt8) :
    Request :=
  let (path, query) := splitTarget target
  let bare := (Request.of method path).withQueryString query
  headers.foldl (fun r entry => r.withHeader entry.1 (Text.decode entry.2)) { bare with body }

end Request

end Sluice

import Sluice.Digest
import Sluice.Expr.Error
import Sluice.Expr.Fuzzy
import Sluice.Expr.Template
import Sluice.Query.Select

/-!
# Built-in functions

The functions that expressions can call.  The table is closed: no configuration adds to it.
-/

namespace Sluice.Expr

/-- What a function makes of its arguments. -/
abbrev Function := List Json → Except EvalError Json

namespace Function

/-- A function of a fixed number of arguments. -/
def refuseArity {α : Type} (name : String) (expected : Nat) (args : List Json) :
    Except EvalError α :=
  .error (.misuse name (.arity expected args.length))

/-- The text that stands at a place of the arguments. -/
def textAt (name : String) (place : Nat) (arg : Json) : Except EvalError String :=
  match arg with
  | .string s => .ok s
  | other => .error (.misuse name (.argument "string" place other.kind))

/-- What a query looks into: a map, a list, or a text that holds JSON. -/
def queried (data : Json) : Except EvalError Json :=
  match data with
  | .string s => (Json.read s.toList).mapError fun reason => .misuse "jsonpath" (.notJson reason)
  | .map fields => .ok (.map fields)
  | .list items => .ok (.list items)
  | other => .error (.misuse "jsonpath" (.noJson other.kind))

def query (path : String) (data : Json) : Except EvalError Json :=
  (Query.run path data).mapError (.query path)

def jsonpath : Function
  | [path, data] => do
    let path ← textAt "jsonpath" 1 path
    query path (← queried data)
  | args => refuseArity "jsonpath" 2 args

def textsOf (items : List Json) : Except EvalError (List String) :=
  items.mapM fun
    | .string s => .ok s
    | other => .error (.misuse "fuzzy" (.notText other))

/-- `fuzzy(needle, candidates)`: the closest candidate that holds the needle. -/
def fuzzy : Function
  | [needle, candidates] => do
    let needle ← textAt "fuzzy" 1 needle
    match candidates with
    | .list items => return .string (Fuzzy.closest needle (← textsOf items))
    | other => .error (.misuse "fuzzy" (.argument "list of strings" 2 other.kind))
  | args => refuseArity "fuzzy" 2 args

/-- `format(template, args...)`: a filled template. -/
def format : Function
  | [] => .error (.misuse "format" .noTemplate)
  | .string template :: args => .ok (.string (Template.format template args))
  | _ :: _ => .error (.misuse "format" .templateNotText)

/-- `len(list)`: how many items a list has. -/
def len : Function
  | [.list items] => .ok (.nat items.length)
  | [other] => .error (.misuse "len" (.notList other.kind))
  | args => refuseArity "len" 1 args

def upper : Function
  | [s] => do return .string (Text.upper (← textAt "upper" 1 s))
  | args => refuseArity "upper" 1 args

/-- A keyed digest of a text, in hexadecimal. -/
def keyed (name : String) (hash : List UInt8 → List UInt8) : Function
  | [key, data] => do
    let key ← textAt name 1 key
    let data ← textAt name 2 data
    let digest := Digest.hmac hash (Text.encode key) (Text.encode data)
    return .string (String.ofList (Text.hex digest))
  | args => refuseArity name 2 args

def table : List (String × Function) :=
  [("jsonpath", jsonpath), ("fuzzy", fuzzy), ("format", format), ("len", len), ("upper", upper),
   ("hmacSha1", keyed "hmacSha1" Digest.sha1), ("hmacSha256", keyed "hmacSha256" Digest.sha256)]

/-- Calls a function by name. -/
def call (name : String) (args : List Json) : Except EvalError Json :=
  match Fields.get? name table with
  | some f => f args
  | none => .error (.unknownFunction name)

end Sluice.Expr.Function

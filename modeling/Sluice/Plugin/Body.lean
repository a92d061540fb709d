import Sluice.Json.Reader
import Sluice.Plugin.Basic
import Sluice.Plugin.Params
import Sluice.Text.Property

/-!
# `body`

Looks at the body of a request.  Requests that have no body by their method are refused; so is
another media type than the demanded one.  With a `type`, the start of the body is read as JSON or
as text.
-/

namespace Sluice.Body

/-- How a body is read. -/
inductive Reading where
  | json | string
deriving DecidableEq, Repr

/-- The parameters. -/
structure Params where
  kind : Option Reading
  mime : Option String
  limit : Nat

/-- How many bytes of a body are read, unless the parameters say so. -/
def usualLimit : Nat := 1232896

/-- A way to read a body, by its name.  The other notation for a choice without data, a map with the
name as its only key and null under it, is refused here: the schema lets no map through to this
reader. -/
def reading : Json → Except ParamFlaw Reading
  | .string "json" => .ok .json
  | .string "string" => .ok .string
  | v => .error (.wrongKind v "json or string")

open Sluice.Params in
def Params.read (params : Fields Json) : Except ParamFlaw Params := do
  let kind ← optional reading "type" params
  let mime ← optional text "mime" params
  let limit ← usually usualLimit nat "limit" params
  return ⟨kind, ← filled? "mime" mime, limit⟩

def schema : Schema := .of .object [
  .fields [
    ("type", .keywords [.oneOfValues [.string "json", .string "string"]]),
    ("mime", .text),
    ("limit", .of .integer [.minimum (.ofNat 0)])]]

/-- Whether requests of a method have no body. -/
def isBodiless (method : String) : Bool := ["GET", "HEAD", "DELETE"].contains method

/-- The media type of a `Content-Type` header: what stands before the first `;`, without the blanks
around it and in lower case. -/
def mediaType (contentType : String) : String :=
  let isBlank := Text.Property.whiteSpace.has
  let cs := (contentType.toList.takeWhile (· ≠ ';')).dropWhile isBlank
  String.ofList ((cs.reverse.dropWhile isBlank).reverse.map Char.toLower)

/-- Whether a request has a media type, if one is demanded. -/
def hasMediaType (request : Request) : Option String → Bool
  | none => true
  | some mime => ((request.header? "content-type").map mediaType) = some (Request.lower mime)

/-- What the start of a body stands for. -/
def payload? : Reading → List UInt8 → Option Json
  | .string, bytes => some (.string (Text.decode bytes))
  | .json, bytes => do (Json.read (← Text.decode? bytes).toList).toOption

/-- Looks at the body. -/
def call (params : Fields Json) (ctx : Context) : Answer :=
  match Params.read params with
  | .error flaw => .fail ctx (.invalidParams flaw) []
  | .ok p =>
    if isBodiless ctx.request.method ∨ ¬ hasMediaType ctx.request p.mime then .of ctx false none
    else match p.kind with
      | none => .of ctx true none
      | some kind => match payload? kind (ctx.request.body.take p.limit) with
        | some v => .of ctx true (some [("payload", v)])
        | none => .of ctx false none

def plugin : Plugin := ⟨"body", schema, call⟩

end Sluice.Body

import Sluice.Plugin.Basic
import Sluice.Plugin.Params

/-!
# `header`

Gives the value of a header, empty if the request has none of this name, and compares it with a
value that is not empty.
-/

namespace Sluice.Header

/-- The parameters. -/
structure Params where
  name : String
  value : String

open Sluice.Params in
def Params.read (params : Fields Json) : Except ParamFlaw Params := do
  let name ← required text "name" params
  let value ← usually "" text "value" params
  return ⟨← filled "name" name, value⟩

def schema : Schema :=
  .of .object [.fields [("name", .someText), ("value", .text)], .required ["name"]]

/-- Looks the header up. -/
def call (params : Fields Json) (ctx : Context) : Answer :=
  match Params.read params with
  | .error flaw => .fail ctx (.invalidParams flaw) []
  | .ok p =>
    let value := (ctx.request.header? p.name).getD ""
    .of ctx (p.value = "" ∨ value = p.value) (some [("value", .string value)])

def plugin : Plugin := ⟨"header", schema, call⟩

end Sluice.Header

import Sluice.Pattern.Parser
import Sluice.Plugin.Basic
import Sluice.Plugin.Params

/-!
# `match`

Compares a text with a fixed value, or searches it for a regular expression.  A match of an
expression gives what all groups have matched, and what the named groups have matched by name.
-/

namespace Sluice.Match

/-- The parameters. -/
structure Params where
  string : String
  value : Option String
  regexp : Option String

open Sluice.Params in
def Params.read (params : Fields Json) : Except ParamFlaw Params := do
  let string ← required text "string" params
  let value ← optional text "value" params
  let regexp ← optional text "regexp" params
  return ⟨string, ← filled? "value" value, ← filled? "regexp" regexp⟩

def schema : Schema := .of .object [
  .fields [("string", .text), ("value", .someText), ("regexp", .someText)],
  .required ["string"],
  .oneOf [.having ["value"], .having ["regexp"]]]

/-- What a match gives. -/
def result (p : Pattern) (groups : List (Option String)) : Fields Json :=
  let named := p.names.filterMap fun (index, name) =>
    (groups[index]?.bind id).map fun s => (name, Json.string s)
  [("matches", .list (groups.map fun g => .string (g.getD ""))), ("named", .map named)]

/-- Compares or searches. -/
def call (params : Fields Json) (ctx : Context) : Answer :=
  match Params.read params with
  | .error flaw => .fail ctx (.invalidParams flaw) []
  | .ok ⟨string, some value, none⟩ => .of ctx (value = string) none
  | .ok ⟨string, none, some regexp⟩ =>
    match Pattern.ofText? regexp with
    | none => .fail ctx (.invalidParams .badPattern) []
    | some p => match p.captures string with
      | none => .of ctx false none
      | some groups => .of ctx true (some (result p groups))
  | .ok _ => .fail ctx (.invalidParams (.notOneOf "value" "regexp")) []

def plugin : Plugin := ⟨"match", schema, call⟩

end Sluice.Match

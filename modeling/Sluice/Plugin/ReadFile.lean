import Sluice.Host
import Sluice.Json.Reader
import Sluice.Plugin.Basic
import Sluice.Plugin.Params
import Sluice.Yaml.Value

/-!
# `readfile`

Reads a file as JSON or as YAML.
-/

namespace Sluice.ReadFile

/-- The parameters. -/
structure Params where
  json : Option String
  yaml : Option String

open Sluice.Params in
def Params.read (params : Fields Json) : Except ParamFlaw Params := do
  let json ← optional text "json" params
  let yaml ← optional text "yaml" params
  return ⟨← filled? "json" json, ← filled? "yaml" yaml⟩

def schema : Schema := .of .object [
  .fields [("json", .someText), ("yaml", .someText)],
  .oneOf [.having ["json"], .having ["yaml"]]]

/-- The answer when the text of a file has been read, or refused with a reason. -/
def answer (ctx : Context) (format path : String) : Except String Json → Answer
  | .ok content => .of ctx true (some [("content", content)])
  | .error reason =>
    .fail ctx (.failed ("invalid " ++ format ++ " in '" ++ path ++ "': " ++ reason))
      [⟨.error, some ("Invalid " ++ format), [("path", path), ("error", reason)]⟩]

def json (s : String) : Except String Json :=
  match Json.read s.toList with
  | .ok v => .ok v
  | .error refusal => .error refusal.message

def yaml (s : String) : Except String Json :=
  match Yaml.read? s.toList with
  | some v => .ok v
  | none => .error elided

/-- Reads the file. -/
def call (files : FileTree) (params : Fields Json) (ctx : Context) : Answer :=
  let load (format path : String) (reader : String → Except String Json) : Answer :=
    match files.read (files.expandHome path) with
    | .error fault => .fail ctx (.io fault) []
    | .ok s => answer ctx format path (reader s)
  match Params.read params with
  | .error flaw => .fail ctx (.invalidParams flaw) []
  | .ok ⟨some path, none⟩ => load "JSON" path json
  | .ok ⟨none, some path⟩ => load "YAML" path yaml
  | .ok _ => .fail ctx (.invalidParams (.notOneOf "json" "yaml")) []

def plugin (files : FileTree) : Plugin := ⟨"readfile", schema, call files⟩

end Sluice.ReadFile

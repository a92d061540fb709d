/-!
# Tokens of YAML
-/

namespace Sluice.Yaml

/-- A token.  Block collections start and end without a sign of their own, where the indentation
grows and shrinks; `key` and `value` stand before the key and the value of an entry. -/
inductive Token where
  | version (major minor : Nat)
  | tagShorthand (handle stem : String)
  | documentStart | documentEnd
  | blockListStart | blockMapStart | blockEnd
  | flowListStart | flowListEnd | flowMapStart | flowMapEnd
  | item | comma | key | value
  | alias (name : String) | anchor (name : String)
  | tag (handle suffix : String)
  | scalar (text : String) (plain : Bool)
  | finish
deriving DecidableEq, Repr

end Sluice.Yaml

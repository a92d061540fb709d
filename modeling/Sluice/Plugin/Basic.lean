import Sluice.Context
import Sluice.Log
import Sluice.Plugin.Error
import Sluice.Schema.Check

/-!
# Plugins

A plugin has a name, a schema of its parameters, and a function from bound parameters and a context
to an answer: true, false or an error, maybe a result to keep, the context afterwards and what it
has logged.
-/

namespace Sluice

/-- What a plugin answers. -/
structure Answer where
  outcome : Except PluginError Bool
  result : Option (Fields Json)
  context : Context
  log : List Record

namespace Answer

/-- An answer that leaves the context alone and logs nothing. -/
def of (ctx : Context) (outcome : Bool) (result : Option (Fields Json)) : Answer :=
  ⟨.ok outcome, result, ctx, []⟩

def fail (ctx : Context) (e : PluginError) (log : List Record) : Answer :=
  ⟨.error e, none, ctx, log⟩

/-- Whether the plugin has held; one that cannot answer has not. -/
def holds (a : Answer) : Bool :=
  match a.outcome with
  | .ok b => b
  | .error _ => false

end Answer

/-- A predicate that steps may call. -/
structure Plugin where
  name : String
  schema : Schema
  call : Fields Json → Context → Answer

end Sluice

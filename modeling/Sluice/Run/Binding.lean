import Sluice.Binding
import Sluice.Config.Basic

/-!
# Binding directives

The directives of a step are bound in a context when the step runs: conditions have to give
booleans, parameters of a plugin are its defaults overlaid by the fields of the step, and default
parameters are bound field by field.
-/

namespace Sluice

/-- What a condition says. -/
def Condition.holds (directive : String) (c : Condition) (ctx : Context) : Except StepError Bool :=
  match Binding.value ctx.view c.toJson with
  | .error e => .error (.unbound directive e)
  | .ok (.bool b) => .ok b
  | .ok v => .error (.notBoolean directive v)

/-- Whether a guard lets a step run. -/
def Control.opens (control : Control) (ctx : Context) : Except StepError Bool :=
  match control.guard with
  | none => .ok true
  | some c => c.holds "when" ctx

/-- The outcome of a step whose content has given a value. -/
def Control.decides (control : Control) (given : Bool) (ctx : Context) : Except StepError Bool :=
  match control.verdict with
  | none => .ok given
  | some c => c.holds "result" ctx

/-- The fields of a plugin before they are bound: its defaults, overlaid by those of the step. -/
def Context.rawParams (ctx : Context) (plugin : String) : Json → Except StepError (Fields Json)
  | .map fields => .ok (Fields.overlay (ctx.defaultsFor plugin) fields)
  | .null => .ok (ctx.defaultsFor plugin)
  | v => .error (.malformed plugin (.paramsNotMapping v))

def Context.bindFields (ctx : Context) (directive : String) (fields : Fields Json) :
    Except StepError (Fields Json) :=
  match Binding.fields ctx.view fields with
  | .ok bound => .ok bound
  | .error e => .error (.unbound directive e)

/-- The parameters of a plugin, bound. -/
def Context.bindParams (ctx : Context) (plugin : String) (raw : Json) :
    Except StepError (Fields Json) := do
  ctx.bindFields plugin (← ctx.rawParams plugin raw)

end Sluice

import Sluice.Config.Error
import Sluice.Plugin.Basic

/-!
# Registries of plugins

The plugins that configurations may name.  A plugin is only handed out for parameters that its
schema accepts.
-/

namespace Sluice

/-- Plugins by name. -/
abbrev Registry := Index Plugin

namespace Registry

/-- Adds a plugin; it takes the place of one with the same name. -/
def register (r : Registry) (p : Plugin) : Registry := r.insert p.name p

def ofList (plugins : List Plugin) : Registry := plugins.foldl register .empty

/-- The plugin of a name, if there is one, for parameters that its schema accepts. -/
def select (r : Registry) (name : String) (params : Fields Json) :
    Except StepError (Option Plugin) :=
  match r.get? name with
  | none => .ok none
  | some p => match p.schema.violations (.map params) with
    | [] => .ok (some p)
    | violations => .error (.rejected name violations)

end Registry

end Sluice

import Sluice.Expr.Eval
import Sluice.Request

/-!
# Contexts

The state of one run: the request, the variables, the registered results, the default parameters of
plugins, and the outcome of the last step.  Variables and results are never taken back; defaults
are, when the pipe that set them ends.
-/

namespace Sluice

/-- Default parameters by plugin. -/
abbrev Defaults := Index (Fields Json)

/-- The state of a run. -/
structure Context where
  request : Request
  defaults : Defaults
  assigned : Fields Json
  registered : Fields (Fields Json)
  result : Bool

namespace Context

def start (request : Request) : Context := ⟨request, .empty, [], [], false⟩

def empty : Context := start (.of "" "")

/-- The state for a request that starts where a seed has ended. -/
def ofSeed (seed : Context) (request : Request) : Context := { seed with request, result := false }

def setVariable (ctx : Context) (name : String) (value : Json) : Context :=
  { ctx with assigned := Fields.set name value ctx.assigned }

def getVariable? (ctx : Context) (name : String) : Option Json := Fields.get? name ctx.assigned

def register (ctx : Context) (name : String) (result : Fields Json) : Context :=
  { ctx with registered := Fields.set name result ctx.registered }

def defaultsFor (ctx : Context) (plugin : String) : Fields Json :=
  (ctx.defaults.get? plugin).getD []

/-- Writes default parameters of a plugin, field by field. -/
def mergeDefaults (ctx : Context) (plugin : String) (fields : Fields Json) : Context :=
  { ctx with defaults := ctx.defaults.adjust plugin fun old => Fields.overlay (old.getD []) fields }

/-- What expressions see. -/
def view (ctx : Context) : View :=
  ⟨ctx.request.view, .map ctx.assigned,
   .map (ctx.registered.map fun entry => (entry.1, .map entry.2))⟩

end Context

end Sluice

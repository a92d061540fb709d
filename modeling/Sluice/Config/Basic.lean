import Sluice.Config.Error

/-!
# Configurations

A configuration is an optional list of steps that run once at the start, and the pipes that run for
every request.  A step has one content (a plugin with its parameters, assignments, default
parameters or a list of steps) and control directives around it.  A step that makes no sense is kept
with the reason why.
-/

namespace Sluice

/-- The value of a directive that decides something: a constant, or a text to be evaluated. -/
inductive Condition where
  | constant (b : Bool)
  | text (s : String)
deriving DecidableEq, Repr

/-- The condition that a configuration value stands for. -/
def Condition.ofJson? : Json → Option Condition
  | .bool b => some (.constant b)
  | .string s => some (.text s)
  | _ => none

def Condition.toJson : Condition → Json
  | .constant b => .bool b
  | .text s => .string s

/-- The control directives of a step: its name, when it runs, what decides its outcome, and the name
under which the result of its plugin is kept. -/
structure Control where
  name : Option String
  guard : Option Condition
  verdict : Option Condition
  register : Option String

mutual

/-- What a step does. -/
inductive Content where
  | plugin (name : String) (params : Json)
  | assign (entries : List (String × Json))
  | defaults (entries : List (String × Fields Json))
  | pipe (steps : List Step)

inductive Step where
  | invalid (position : Position) (cause : StepError)
  | valid (position : Position) (control : Control) (content : Content)

end

/-- The directive that a content comes from. -/
def Content.kind : Content → String
  | .plugin name _ => name
  | .assign _ => "variable"
  | .defaults _ => "default"
  | .pipe _ => "pipe"

def Step.position : Step → Position
  | .invalid position _ => position
  | .valid position _ _ => position

/-- What a step is called in the log: its name, or its position. -/
def Step.label : Step → String
  | .invalid position _ => position.text
  | .valid position control _ => control.name.getD position.text

/-- A list of steps that runs for every request. -/
structure Pipe where
  name : Option String
  position : Position
  defaults : List (String × Fields Json)
  steps : List Step

/-- What a pipe is called where a configuration is shown: its name, or its position.  Events do not
name their pipe. -/
def Pipe.label (p : Pipe) : String := p.name.getD p.position.text

/-- A loaded configuration. -/
structure Config where
  init : Option (List Step)
  pipes : List Pipe

namespace Config

def empty : Config := ⟨none, []⟩

def append (a b : Config) : Config := ⟨a.init.or b.init, a.pipes ++ b.pipes⟩

end Config

end Sluice

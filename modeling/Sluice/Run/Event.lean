import Sluice.Config.Source
import Sluice.Plugin.Basic

/-!
# What happens in a run

The events of loading and running a configuration, and the log record of each.

At the levels `debug` and `trace` these are not quite what a service logs.  That a step starts is an
event, so that a run tells which steps it has come to, but no record is written of it.  That a pipe
starts is no event, although a record could tell, and no record names the pipe that it belongs to.
And the parameters of a plugin are noted when it is called and not as soon as they are bound, so not
if the plugin is unknown or refuses them.
-/

namespace Sluice

/-- Something that has happened. -/
inductive Event where
  | opened (opening : Opening)
  | stepStarted (position : Position)
  | stepInvalid (position : Position) (cause : StepError)
  | stepSkipped (position : Position)
  | guardFailed (position : Position) (cause : StepError)
  | stepFailed (position : Position) (label : String) (cause : StepError)
  | stepFinished (position : Position) (label : String) (outcome : Bool)
  | variableSet (name : String) (value : Json)
  | pluginCalled (plugin : String) (params : Fields Json) (context : Context)
  | pluginLogged (plugin : String) (record : Record)
  | pluginFailed (plugin : String) (cause : PluginError)
  | resultDiscarded (plugin register : String) (discarded : Json)
  | subPipeFinished (outcome : Bool)
  | pipeDefaultInvalid (position : Position) (cause : StepError)
  | pipeFinished (outcome : Bool)
  | initFinished (outcome : Bool)
  | initIncomplete
  | requestProcessed (method path : String) (outcome : Bool)

/-- Whether a record of an event is written. -/
def Event.isLogged : Event → Bool
  | .stepStarted _ => false
  | _ => true

/-- The log record of an event. -/
def Event.record : Event → Record
  | .opened o =>
    ⟨.debug, some "Loaded configuration file", [("path", o.file.text), ("depth", toString o.depth)]⟩
  | .stepStarted position => ⟨.trace, some "Step started", [("position", position.text)]⟩
  | .stepInvalid position cause =>
    ⟨.error, some "Invalid step", [("position", position.text), ("error", cause.message)]⟩
  | .stepSkipped position =>
    ⟨.debug, some "Guard is false, skipping step", [("position", position.text)]⟩
  | .guardFailed position cause =>
    ⟨.warn, some "Guard failed, skipping step",
     [("position", position.text), ("error", cause.message)]⟩
  | .stepFailed position label cause =>
    ⟨.error, some "Step failed",
     [("position", position.text), ("step", label), ("error", cause.message)]⟩
  | .stepFinished position label outcome =>
    ⟨.debug, some "Step finished",
      [("position", position.text), ("step", label), ("result", Record.ofBool outcome)]⟩
  | .variableSet name value =>
    ⟨.trace, some "Variable set", [("variable", name), ("value", value.text)]⟩
  | .pluginCalled plugin params _ =>
    ⟨.trace, some "Parameters bound", [("plugin", plugin), ("params", (Json.map params).text)]⟩
  | .pluginLogged _ record => record
  | .pluginFailed plugin cause =>
    ⟨.warn, some "Plugin failed", [("plugin", plugin), ("error", cause.message)]⟩
  | .resultDiscarded plugin register discarded =>
    ⟨.warn, some "Plugin field 'result' discarded",
      [("plugin", plugin), ("register", register), ("discarded", discarded.text)]⟩
  | .subPipeFinished outcome =>
    ⟨.debug, some "Sub-pipe finished", [("result", Record.ofBool outcome)]⟩
  | .pipeDefaultInvalid position cause =>
    ⟨.error, some "Invalid pipe default", [("position", position.text), ("error", cause.message)]⟩
  | .pipeFinished outcome => ⟨.debug, some "Pipe finished", [("result", Record.ofBool outcome)]⟩
  | .initFinished outcome => ⟨.debug, some "Init finished", [("result", Record.ofBool outcome)]⟩
  | .initIncomplete => ⟨.warn, some "Init did not complete; serving with the state it reached", []⟩
  | .requestProcessed method path outcome =>
    ⟨.debug, some "Request processed",
     [("method", method), ("path", path), ("result", Record.ofBool outcome)]⟩

end Sluice

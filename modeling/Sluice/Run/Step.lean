import Sluice.Plugin.Registry
import Sluice.Run.Basic
import Sluice.Run.Binding

/-!
# Running steps

A list of steps runs until one of them is false; an empty list is false.  A step whose guard is not
true is passed over as if it were not there.  Nothing stops a run for good: whatever goes wrong
makes the step false and is noted.  Default parameters that are set in a list of steps are taken
back at its end; variables and results stay.
-/

namespace Sluice

/-- What has been computed, or the reason why it could not be. -/
def Attempt.of {α : Type} (x : Except StepError α) : Attempt α := ExceptT.mk (pure x)

/-- Assigns variables one after the other; each one sees those before it. -/
def assign : List (String × Json) → Attempt Unit
  | [] => return ()
  | (name, raw) :: rest => do
    let ctx ← Run.context
    let value ← Attempt.of (match Binding.value ctx.view raw with
      | .ok v => .ok v
      | .error e => .error (.unbound "variable" e))
    Run.note (.variableSet name value)
    Run.update (·.setVariable name value)
    assign rest

def setDefaults : List (String × Fields Json) → Attempt Unit
  | [] => return ()
  | (plugin, raw) :: rest => do
    let ctx ← Run.context
    let fields ← Attempt.of (ctx.bindFields "default" raw)
    Run.update (·.mergeDefaults plugin fields)
    setDefaults rest

theorem setDefaults_cons_run (plugin : String) (raw : Fields Json)
    (rest : List (String × Fields Json)) (ctx : Context) :
    (setDefaults ((plugin, raw) :: rest)).run ctx =
      match ctx.bindFields "default" raw with
      | .error e => ⟨.error e, ctx, []⟩
      | .ok fields => (setDefaults rest).run (ctx.mergeDefaults plugin fields) := by
  have h : (setDefaults ((plugin, raw) :: rest)).run ctx =
      (Attempt.of (ctx.bindFields "default" raw) >>= fun fields => do
        Run.update (·.mergeDefaults plugin fields)
        setDefaults rest).run ctx := rfl
  rw [h]
  cases ctx.bindFields "default" raw with
  | error e => rfl
  | ok fields => rfl

/-- Keeps the result of a plugin together with its outcome. -/
def keep (plugin register : String) (a : Answer) : Run Unit := do
  let result := a.result.getD []
  match Fields.get? "result" result with
  | some discarded => Run.note (.resultDiscarded plugin register discarded)
  | none => pure ()
  Run.update (·.register register (Fields.set "result" (.bool a.holds) result))

def callPlugin (p : Plugin) (name : String) (params : Fields Json) : Run Answer := do
  let ctx ← Run.context
  Run.note (.pluginCalled name params ctx)
  let a := p.call params ctx
  Run.update fun _ => a.context
  Run.noteAll (a.log.map (.pluginLogged name))
  match a.outcome with
  | .error e => Run.note (.pluginFailed name e)
  | .ok _ => pure ()
  return a

/-- Invokes a plugin: binds its parameters, has them checked, calls it and keeps its result. -/
def invoke (registry : Registry) (name : String) (raw : Json) (control : Control) : Attempt Bool :=
  do
  let params ← Attempt.of ((← Run.context).bindParams name raw)
  match ← Attempt.of (registry.select name params) with
  | none => throw (.unknownPredicate name)
  | some p => do
    let a ← callPlugin p name params
    match control.register with
    | some register => keep name register a
    | none => pure ()
    Attempt.of (control.decides a.holds (← Run.context))

def conclude (position : Position) (label : String) (outcome : Bool) : Run Bool := do
  Run.note (.stepFinished position label outcome)
  Run.update fun ctx => { ctx with result := outcome }
  return outcome

/-- Runs something and takes back the default parameters that it has set. -/
def withDefaultsRestored {α : Type} (x : Run α) : Run α := do
  let before ← Run.context
  let a ← x
  Run.update fun ctx => { ctx with defaults := before.defaults }
  return a

mutual

/-- Runs a step. -/
def Step.run (registry : Registry) : Step → Run Bool
  | .invalid position cause => do
    Run.note (.stepStarted position)
    Run.note (.stepInvalid position cause)
    conclude position (Step.invalid position cause).label false
  | .valid position control content => do
    Run.note (.stepStarted position)
    match control.opens (← Run.context) with
    | .ok false => do
      Run.note (.stepSkipped position)
      return true
    | .error e => do
      Run.note (.guardFailed position e)
      return true
    | .ok true => do
      let label := (Step.valid position control content).label
      match ← (content.run registry control).run with
      | .ok outcome => conclude position label outcome
      | .error e => do
        Run.note (.stepFailed position label e)
        conclude position label false

def Content.run (registry : Registry) (control : Control) : Content → Attempt Bool
  | .plugin name params => invoke registry name params control
  | .assign entries => do
    assign entries
    return true
  | .defaults entries => do
    setDefaults entries
    return true
  | .pipe steps => do
    let outcome ← ExceptT.lift (withDefaultsRestored
      (if steps.isEmpty then pure false else runAll registry steps))
    Run.note (.subPipeFinished outcome)
    Attempt.of (control.decides true (← Run.context))

def runAll (registry : Registry) : List Step → Run Bool
  | [] => return true
  | step :: rest => do
    if ← step.run registry then runAll registry rest else return false

end

/-- Runs a list of steps; an empty one is false. -/
def runSteps (registry : Registry) (steps : List Step) : Run Bool :=
  if steps.isEmpty then pure false else runAll registry steps

/-- Runs a pipe with its own default parameters. -/
def Pipe.run (registry : Registry) (p : Pipe) : Run Bool := do
  let outcome ← withDefaultsRestored do
    match ← (setDefaults p.defaults).run with
    | .ok () => runSteps registry p.steps
    | .error e => do
      Run.note (.pipeDefaultInvalid p.position e)
      return false
  Run.note (.pipeFinished outcome)
  return outcome

/-- Runs pipes in order; the last one decides. -/
def runPipes (registry : Registry) (pipes : List Pipe) : Run Bool :=
  pipes.foldlM (fun _ p => p.run registry) false

/-- Runs the steps of an `init` block. -/
def runInit (registry : Registry) (steps : List Step) : Run Bool := do
  let outcome ← runSteps registry steps
  Run.note (.initFinished outcome)
  return outcome

end Sluice

import Sluice.Proofs.Binding.Values

/-!
# Runs that ask for expressions

Steps once more, but nothing in their runs parses a text.  Wherever an expression is needed, an
oracle is asked for it.  It is told the text behind the `=` and all default parameters that the run
has declared so far, and it may answer as it likes.  So what such a run comes to depends on the
texts that it asks for and on no others.

* `Oracle` : who is asked; the parser is one that does not care what has been declared;
* `Asking` : a run that remembers what it has declared;
* `Binding.valueBy` : binding, with the evaluation of the texts given;
* `Asking.pipes`, `Asking.init` : the runs of pipes and of an `init` block.
-/

namespace Sluice

/-- Gives the expression of a text to a run that has declared some default parameters so far. -/
abbrev Oracle : Type := List (String × Fields Json) → String → Except SyntaxError Expr

/-! ## Evaluating and binding -/

/-- The value of a text if expressions come from elsewhere.  The expression is evaluated as it
comes, and its value is given as it is. -/
def Expr.evaluateBy (parse : String → Except SyntaxError Expr) (view : View) (raw : String) :
    Except EvalError Json :=
  match raw.toList with
  | '=' :: source => match parse (String.ofList source) with
    | .error e => .error (.malformed e)
    | .ok e => e.eval view none
  | _ => .ok (.string raw)

namespace Binding

variable (evaluate : String → Except EvalError Json)

/-- A value whose texts are evaluated in order and then replaced. -/
def valueBy (raw : Json) : Except EvalError Json :=
  (raw.texts.mapM evaluate).map fun _ => raw.filled fun s => (evaluate s).toOption.getD .null

def fieldsBy (raw : Fields Json) : Except EvalError (Fields Json) :=
  ((Json.textsOfFields raw).mapM evaluate).map fun _ =>
    Json.filledFields (fun s => (evaluate s).toOption.getD .null) raw

end Binding

/-! ## Runs -/

/-- Something that runs in a context and remembers which default parameters have been declared. -/
abbrev Asking (α : Type) : Type := StateT (List (String × Fields Json)) Run α

/-- Something that does so and may fail. -/
abbrev AskingAttempt (α : Type) : Type := ExceptT StepError Asking α

namespace Asking

variable {α : Type} (oracle : Oracle) (registry : Registry)

def attempt (x : Except StepError α) : AskingAttempt α := ExceptT.mk (pure x)

/-- How texts are evaluated at this point of the run. -/
def evaluator : Asking (String → Except EvalError Json) := do
  let ctx ← Run.context
  return Expr.evaluateBy (oracle (← get)) ctx.view

def bindValue (directive : String) (raw : Json) : AskingAttempt Json := do
  let evaluate ← evaluator oracle
  attempt ((Binding.valueBy evaluate raw).mapError (.unbound directive))

def bindFields (directive : String) (raw : Fields Json) : AskingAttempt (Fields Json) := do
  let evaluate ← evaluator oracle
  attempt ((Binding.fieldsBy evaluate raw).mapError (.unbound directive))

theorem run_bindValue (directive : String) (raw : Json) (declared : List (String × Fields Json))
    (ctx : Context) :
    (bindValue oracle directive raw).run.run declared ctx =
      ⟨((Binding.valueBy (Expr.evaluateBy (oracle declared) ctx.view) raw).mapError
        (.unbound directive), declared), ctx, []⟩ := rfl

theorem run_bindFields (directive : String) (raw : Fields Json)
    (declared : List (String × Fields Json)) (ctx : Context) :
    (bindFields oracle directive raw).run.run declared ctx =
      ⟨((Binding.fieldsBy (Expr.evaluateBy (oracle declared) ctx.view) raw).mapError
        (.unbound directive), declared), ctx, []⟩ := rfl

def holds (directive : String) (c : Condition) : AskingAttempt Bool := do
  match ← bindValue oracle directive c.toJson with
  | .bool b => return b
  | v => throw (.notBoolean directive v)

theorem run_holds (directive : String) (c : Condition) (declared : List (String × Fields Json))
    (ctx : Context) :
    (holds oracle directive c).run.run declared ctx =
      ⟨(match Binding.valueBy (Expr.evaluateBy (oracle declared) ctx.view) c.toJson with
        | .error e => .error (.unbound directive e)
        | .ok (.bool b) => .ok b
        | .ok v => .error (.notBoolean directive v), declared), ctx, []⟩ := by
  rw [holds, ExceptT.run_bind, StateT.run_bind, Run.bind_apply, run_bindValue]
  cases Binding.valueBy (Expr.evaluateBy (oracle declared) ctx.view) c.toJson with
  | error e => rfl
  | ok v => cases v <;> rfl

def opens (control : Control) : AskingAttempt Bool :=
  match control.guard with
  | none => return true
  | some c => holds oracle "when" c

def decides (control : Control) (given : Bool) : AskingAttempt Bool :=
  match control.verdict with
  | none => return given
  | some c => holds oracle "result" c

def assign : List (String × Json) → AskingAttempt Unit
  | [] => return ()
  | (name, raw) :: rest => do
    let value ← bindValue oracle "variable" raw
    Run.note (.variableSet name value)
    Run.update (·.setVariable name value)
    assign rest

/-- Sets default parameters and remembers each entry as it has been bound. -/
def setDefaults : List (String × Fields Json) → AskingAttempt Unit
  | [] => return ()
  | (plugin, raw) :: rest => do
    let fields ← bindFields oracle "default" raw
    Run.update (·.mergeDefaults plugin fields)
    modify (· ++ [(plugin, fields)])
    setDefaults rest

/-- The parameters of a plugin: its defaults are bound once more, together with its own fields. -/
def bindParams (name : String) (raw : Json) : AskingAttempt (Fields Json) := do
  let ctx ← Run.context
  let fields ← attempt (ctx.rawParams name raw)
  bindFields oracle name fields

def invoke (name : String) (raw : Json) (control : Control) : AskingAttempt Bool := do
  let params ← bindParams oracle name raw
  match ← attempt (registry.select name params) with
  | none => throw (.unknownPredicate name)
  | some p => do
    let a ← callPlugin p name params
    match control.register with
    | some register => keep name register a
    | none => pure ()
    decides oracle control a.holds

/-- Runs something and takes back the default parameters that it has set; they stay remembered. -/
def withDefaultsRestored (x : Asking α) : Asking α := do
  let before ← Run.context
  let a ← x
  Run.update fun ctx => { ctx with defaults := before.defaults }
  return a

mutual

/-- Runs a step. -/
def step : Step → Asking Bool
  | .invalid position cause => do
    Run.note (.stepStarted position)
    Run.note (.stepInvalid position cause)
    conclude position (Step.invalid position cause).label false
  | .valid position control body => do
    Run.note (.stepStarted position)
    match ← (opens oracle control).run with
    | .ok false => do
      Run.note (.stepSkipped position)
      return true
    | .error e => do
      Run.note (.guardFailed position e)
      return true
    | .ok true => do
      let label := (Step.valid position control body).label
      match ← (content control body).run with
      | .ok outcome => conclude position label outcome
      | .error e => do
        Run.note (.stepFailed position label e)
        conclude position label false

def content (control : Control) : Content → AskingAttempt Bool
  | .plugin name params => invoke oracle registry name params control
  | .assign entries => do
    assign oracle entries
    return true
  | .defaults entries => do
    setDefaults oracle entries
    return true
  | .pipe steps => do
    let outcome ← ExceptT.lift (withDefaultsRestored
      (if steps.isEmpty then pure false else all steps))
    Run.note (.subPipeFinished outcome)
    decides oracle control true

def all : List Step → Asking Bool
  | [] => return true
  | first :: rest => do
    if ← step first then all rest else return false

end

def steps (list : List Step) : Asking Bool :=
  if list.isEmpty then pure false else all oracle registry list

def pipe (p : Pipe) : Asking Bool := do
  let outcome ← withDefaultsRestored do
    match ← (setDefaults oracle p.defaults).run with
    | .ok () => steps oracle registry p.steps
    | .error e => do
      Run.note (.pipeDefaultInvalid p.position e)
      return false
  Run.note (.pipeFinished outcome)
  return outcome

/-- Runs pipes in order; the last one decides. -/
def pipes (list : List Pipe) : Asking Bool :=
  list.foldlM (fun _ p => pipe oracle registry p) false

/-- Runs the steps of an `init` block. -/
def init (list : List Step) : Asking Bool := do
  let outcome ← steps oracle registry list
  Run.note (.initFinished outcome)
  return outcome

end Asking

end Sluice

import Sluice.Run.Step
import Mathlib.Logic.Function.Basic

/-!
# Runs, one access at a time

A run as the sequence of its accesses to the context: it loads a part, stores a part, or notes that
something has happened, and goes on with what it has loaded.  Between any two of these others may
act.  `Thread.toRun_ofPipes` says that this is the run of the pipes.

* `Part` : the parts of a context that are kept apart in memory;
* `Thread` : a run that stops before each access, with `Thread.toRun` as its meaning;
* `Thread.ofPipes` : the thread of a list of pipes.
-/

namespace Sluice

/-! ## Parts -/

/-- The parts of a context. -/
inductive Part where
  | request | assigned | registered | defaults | result
deriving DecidableEq

namespace Part

/-- What a part holds. -/
abbrev Value : Part → Type
  | .request => Request
  | .assigned => Fields Json
  | .registered => Fields (Fields Json)
  | .defaults => Defaults
  | .result => Bool

def all : List Part := [.request, .defaults, .assigned, .registered, .result]

theorem mem_all (p : Part) : p ∈ all := by
  cases p <;> decide

end Part

namespace Context

/-- A part of a context. -/
def part (ctx : Context) : (p : Part) → p.Value
  | .request => ctx.request
  | .assigned => ctx.assigned
  | .registered => ctx.registered
  | .defaults => ctx.defaults
  | .result => ctx.result

/-- The context of some parts. -/
def ofParts (parts : (p : Part) → p.Value) : Context :=
  ⟨parts .request, parts .defaults, parts .assigned, parts .registered, parts .result⟩

/-- A context with another part. -/
def withPart (ctx : Context) (p : Part) (value : p.Value) : Context :=
  ofParts (Function.update ctx.part p value)

@[simp] theorem ofParts_part (ctx : Context) : ofParts ctx.part = ctx := rfl

@[simp] theorem part_ofParts (parts : (p : Part) → p.Value) (p : Part) :
    (ofParts parts).part p = parts p := by
  cases p <;> rfl

end Context

/-! ## Threads -/

/-- What is left if some events come first. -/
def Report.after {α : Type} (r : Report α) (before : List Event) : Report α :=
  { r with events := before ++ r.events }

theorem Report.after_after {α : Type} (r : Report α) (before between : List Event) :
    (r.after between).after before = r.after (before ++ between) :=
  congrArg (Report.mk r.value r.context) (List.append_assoc before between r.events).symm

/-- A run that stops before each of its accesses. -/
inductive Thread (α : Type) where
  | done (value : α)
  | load (p : Part) (next : p.Value → Thread α)
  | store (p : Part) (value : p.Value) (next : Thread α)
  | note (e : Event) (next : Thread α)

namespace Thread

variable {α β : Type}

/-- A thread that goes on with the value of another one. -/
def bind : Thread α → (α → Thread β) → Thread β
  | .done a, f => f a
  | .load p next, f => .load p fun value => (next value).bind f
  | .store p value next, f => .store p value (next.bind f)
  | .note e next, f => .note e (next.bind f)

instance : Monad Thread where
  pure := .done
  bind := bind

/-- What a thread does if no one else acts. -/
def toRun : Thread α → Run α
  | .done a => pure a
  | .load p next => fun ctx => (next (ctx.part p)).toRun ctx
  | .store p value next => fun ctx => next.toRun (ctx.withPart p value)
  | .note e next => do
    Run.note e
    next.toRun

/-- The number of accesses of a thread if no one else acts. -/
def accesses : Thread α → Context → Nat
  | .done _, _ => 0
  | .load p next, ctx => (next (ctx.part p)).accesses ctx + 1
  | .store p value next, ctx => next.accesses (ctx.withPart p value) + 1
  | .note _ next, ctx => next.accesses ctx + 1

@[simp] theorem toRun_bind (x : Thread α) (f : α → Thread β) :
    (x >>= f).toRun = x.toRun >>= fun a => (f a).toRun := by
  change (x.bind f).toRun = _
  induction x with
  | done a => rfl
  | load p next ih =>
    funext ctx
    exact congrFun (ih (ctx.part p)) ctx
  | store p value next ih =>
    funext ctx
    exact congrFun ih (ctx.withPart p value)
  | note e next ih => rw [bind, toRun, toRun, ih, bind_assoc]

theorem toRun_ite (c : Bool) (x y : Thread α) :
    (if c then x else y).toRun = if c then x.toRun else y.toRun := by
  cases c <;> rfl

theorem toRun_note (e : Event) (next : Thread α) (ctx : Context) :
    (Thread.note e next).toRun ctx = (next.toRun ctx).after [e] := rfl

/-! ## Accesses -/

/-- Loads the parts of the context. -/
def context : Thread Context :=
  .load .request fun request => .load .defaults fun defaults => .load .assigned fun assigned =>
    .load .registered fun registered => .load .result fun result =>
      .done ⟨request, defaults, assigned, registered, result⟩

/-- Replaces a part by a function of it. -/
def modify (p : Part) (f : p.Value → p.Value) : Thread Unit :=
  .load p fun value => .store p (f value) (.done ())

def replace (ctx : Context) : Thread Unit :=
  .store .request ctx.request <| .store .defaults ctx.defaults <| .store .assigned ctx.assigned <|
    .store .registered ctx.registered <| .store .result ctx.result <| .done ()

def tell (e : Event) : Thread Unit := .note e (.done ())

def tellAll : List Event → Thread Unit
  | [] => pure ()
  | e :: es => .note e (tellAll es)

@[simp] theorem toRun_context : context.toRun = Run.context := rfl

@[simp] theorem toRun_replace (ctx : Context) : (replace ctx).toRun = Run.update fun _ => ctx := rfl

@[simp] theorem toRun_tell (e : Event) : (tell e).toRun = Run.note e := rfl

@[simp] theorem toRun_tellAll (es : List Event) : (tellAll es).toRun = Run.noteAll es := by
  induction es with
  | nil => rfl
  | cons e es ih =>
    rw [tellAll, toRun, ih]
    rfl

/-! ## Threads that may fail -/

/-- What a thread that may fail does if no one else acts. -/
def toAttempt (x : ExceptT StepError Thread α) : Attempt α := ExceptT.mk x.run.toRun

def attempt (x : Except StepError α) : ExceptT StepError Thread α := ExceptT.mk (pure x)

@[simp] theorem toRun_run (x : ExceptT StepError Thread α) : x.run.toRun = (toAttempt x).run := rfl

@[simp] theorem toAttempt_attempt (x : Except StepError α) :
    toAttempt (attempt x) = Attempt.of x := rfl

@[simp] theorem toAttempt_bind (x : ExceptT StepError Thread α)
    (f : α → ExceptT StepError Thread β) :
    toAttempt (x >>= f) = toAttempt x >>= fun a => toAttempt (f a) := by
  have h : (x >>= f).run = x.run >>= fun r => ExceptT.bindCont f r := rfl
  refine ExceptT.ext ?_
  change (x >>= f).run.toRun = _
  rw [h, toRun_bind]
  refine bind_congr fun r => ?_
  cases r <;> rfl

@[simp] theorem toAttempt_liftM (x : Thread α) :
    toAttempt (liftM x : ExceptT StepError Thread α) = liftM x.toRun := by
  refine ExceptT.ext ?_
  change (x >>= fun a => pure (Except.ok a)).toRun = _
  rw [toRun_bind]
  rfl

theorem toAttempt_lift (x : Thread α) : toAttempt (ExceptT.lift x) = ExceptT.lift x.toRun :=
  toAttempt_liftM x

/-! ## Steps and pipes -/

/-- Assigns variables one after the other. -/
def assign : List (String × Json) → ExceptT StepError Thread Unit
  | [] => return ()
  | (name, raw) :: rest => do
    let ctx ← context
    let value ← attempt (match Binding.value ctx.view raw with
      | .ok v => .ok v
      | .error e => .error (.unbound "variable" e))
    tell (.variableSet name value)
    modify .assigned (Fields.set name value)
    assign rest

theorem toAttempt_assign (entries : List (String × Json)) :
    toAttempt (assign entries) = Sluice.assign entries := by
  induction entries with
  | nil => rfl
  | cons entry rest ih =>
    obtain ⟨name, raw⟩ := entry
    rw [assign, Sluice.assign, toAttempt_bind, toAttempt_liftM, toRun_context]
    refine bind_congr fun ctx => ?_
    rw [toAttempt_bind, toAttempt_attempt]
    cases Binding.value ctx.view raw with
    | error e => rfl
    | ok value =>
      refine bind_congr fun value => ?_
      rw [toAttempt_bind, toAttempt_liftM, toAttempt_bind, toAttempt_liftM, ih]
      rfl

def setDefaults : List (String × Fields Json) → ExceptT StepError Thread Unit
  | [] => return ()
  | (plugin, raw) :: rest => do
    let ctx ← context
    let fields ← attempt (ctx.bindFields "default" raw)
    modify .defaults (·.adjust plugin fun old => Fields.overlay (old.getD []) fields)
    setDefaults rest

theorem toAttempt_setDefaults (entries : List (String × Fields Json)) :
    toAttempt (setDefaults entries) = Sluice.setDefaults entries := by
  induction entries with
  | nil => rfl
  | cons entry rest ih =>
    obtain ⟨plugin, raw⟩ := entry
    simp only [setDefaults, Sluice.setDefaults, toAttempt_bind, toAttempt_liftM, toAttempt_attempt,
      toRun_context, ih]
    rfl

/-- Keeps the result of a plugin together with its outcome. -/
def keep (plugin register : String) (a : Answer) : Thread Unit := do
  let result := a.result.getD []
  match Fields.get? "result" result with
  | some discarded => tell (.resultDiscarded plugin register discarded)
  | none => pure ()
  modify .registered (Fields.set register (Fields.set "result" (.bool a.holds) result))

theorem toRun_keep (plugin register : String) (a : Answer) :
    (keep plugin register a).toRun = Sluice.keep plugin register a := by
  rw [keep, Sluice.keep]
  cases Fields.get? "result" (a.result.getD []) <;> rfl

def callPlugin (p : Plugin) (name : String) (params : Fields Json) : Thread Answer := do
  let ctx ← context
  tell (.pluginCalled name params ctx)
  let a := p.call params ctx
  replace a.context
  tellAll (a.log.map (.pluginLogged name))
  match a.outcome with
  | .error e => tell (.pluginFailed name e)
  | .ok _ => pure ()
  return a

theorem toRun_callPlugin (p : Plugin) (name : String) (params : Fields Json) :
    (callPlugin p name params).toRun = Sluice.callPlugin p name params := by
  simp only [callPlugin, Sluice.callPlugin, toRun_bind, toRun_context, toRun_tell, toRun_replace,
    toRun_tellAll]
  refine bind_congr fun ctx => ?_
  cases (p.call params ctx).outcome <;> rfl

/-- Invokes a plugin. -/
def invoke (registry : Registry) (name : String) (raw : Json) (control : Control) :
    ExceptT StepError Thread Bool := do
  let params ← attempt ((← context).bindParams name raw)
  match ← attempt (registry.select name params) with
  | none => throw (.unknownPredicate name)
  | some p => do
    let a ← callPlugin p name params
    match control.register with
    | some register => keep name register a
    | none => pure ()
    attempt (control.decides a.holds (← context))

theorem toAttempt_invoke (registry : Registry) (name : String) (raw : Json) (control : Control) :
    toAttempt (invoke registry name raw control) = Sluice.invoke registry name raw control := by
  simp only [invoke, Sluice.invoke, toAttempt_bind, toAttempt_liftM, toAttempt_attempt,
    toRun_context]
  refine bind_congr fun ctx => bind_congr fun params => bind_congr fun found => ?_
  cases found with
  | none => rfl
  | some p =>
    dsimp only
    rw [toAttempt_bind, toAttempt_liftM, toRun_callPlugin]
    refine bind_congr fun a => ?_
    cases control.register with
    | none => rfl
    | some register =>
      dsimp only
      rw [toAttempt_bind, toAttempt_liftM, toRun_keep]
      rfl

def conclude (position : Position) (label : String) (outcome : Bool) : Thread Bool := do
  tell (.stepFinished position label outcome)
  modify .result fun _ => outcome
  return outcome

/-- Runs something and takes back the default parameters that it has set. -/
def withDefaultsRestored (x : Thread α) : Thread α :=
  .load .defaults fun before => do
    let a ← x
    .store .defaults before (.done a)

theorem toRun_withDefaultsRestored (x : Thread α) :
    (withDefaultsRestored x).toRun = Sluice.withDefaultsRestored x.toRun := by
  funext ctx
  have h : (withDefaultsRestored x).toRun ctx =
      (x >>= fun a => Thread.store .defaults ctx.defaults (.done a)).toRun ctx := rfl
  rw [h, toRun_bind]
  rfl

mutual

/-- Runs a step. -/
def ofStep (registry : Registry) : Step → Thread Bool
  | .invalid position cause => do
    tell (.stepStarted position)
    tell (.stepInvalid position cause)
    conclude position (Step.invalid position cause).label false
  | .valid position control content => do
    tell (.stepStarted position)
    match control.opens (← context) with
    | .ok false => do
      tell (.stepSkipped position)
      return true
    | .error e => do
      tell (.guardFailed position e)
      return true
    | .ok true => do
      let label := (Step.valid position control content).label
      match ← (ofContent registry control content).run with
      | .ok outcome => conclude position label outcome
      | .error e => do
        tell (.stepFailed position label e)
        conclude position label false

def ofContent (registry : Registry) (control : Control) :
    Content → ExceptT StepError Thread Bool
  | .plugin name params => invoke registry name params control
  | .assign entries => do
    assign entries
    return true
  | .defaults entries => do
    setDefaults entries
    return true
  | .pipe steps => do
    let outcome ← ExceptT.lift (withDefaultsRestored
      (if steps.isEmpty then pure false else ofSteps registry steps))
    tell (.subPipeFinished outcome)
    attempt (control.decides true (← context))

def ofSteps (registry : Registry) : List Step → Thread Bool
  | [] => return true
  | step :: rest => do
    if ← ofStep registry step then ofSteps registry rest else return false

end

def ofPipe (registry : Registry) (p : Pipe) : Thread Bool := do
  let outcome ← withDefaultsRestored do
    match ← (setDefaults p.defaults).run with
    | .ok () => if p.steps.isEmpty then pure false else ofSteps registry p.steps
    | .error e => do
      tell (.pipeDefaultInvalid p.position e)
      return false
  tell (.pipeFinished outcome)
  return outcome

/-- Runs pipes in order; the last one decides. -/
def ofPipes (registry : Registry) (pipes : List Pipe) : Thread Bool :=
  pipes.foldlM (fun _ p => ofPipe registry p) false

mutual

theorem toRun_ofStep (registry : Registry) :
    ∀ step : Step, (ofStep registry step).toRun = step.run registry
  | .invalid position cause => rfl
  | .valid position control content => by
    have hcontent := toAttempt_ofContent registry control content
    rw [ofStep, Step.run, toRun_bind]
    refine bind_congr fun _ => ?_
    rw [toRun_bind]
    refine bind_congr fun ctx => ?_
    cases control.opens ctx with
    | error e => rfl
    | ok b =>
      cases b with
      | false => rfl
      | true =>
        dsimp only
        rw [toRun_bind, toRun_run, hcontent]
        refine bind_congr fun r => ?_
        cases r <;> rfl

theorem toAttempt_ofContent (registry : Registry) (control : Control) :
    ∀ content : Content,
      toAttempt (ofContent registry control content) = content.run registry control
  | .plugin name params => toAttempt_invoke registry name params control
  | .assign entries => by
    rw [ofContent, Content.run, toAttempt_bind, toAttempt_assign]
    rfl
  | .defaults entries => by
    rw [ofContent, Content.run, toAttempt_bind, toAttempt_setDefaults]
    rfl
  | .pipe steps => by
    rw [ofContent, Content.run, toAttempt_bind, toAttempt_lift, toRun_withDefaultsRestored,
      toRun_ite, toRun_ofSteps registry steps]
    rfl

theorem toRun_ofSteps (registry : Registry) :
    ∀ steps : List Step, (ofSteps registry steps).toRun = runAll registry steps
  | [] => rfl
  | step :: rest => by
    have hstep := toRun_ofStep registry step
    have hrest := toRun_ofSteps registry rest
    rw [ofSteps, runAll, toRun_bind, hstep]
    refine bind_congr fun b => ?_
    cases b with
    | false => rfl
    | true => exact hrest

end

theorem toRun_ofPipe (registry : Registry) (p : Pipe) :
    (ofPipe registry p).toRun = p.run registry := by
  rw [ofPipe, Pipe.run, toRun_bind, toRun_withDefaultsRestored, toRun_bind, toRun_run,
    toAttempt_setDefaults]
  refine congrArg (Sluice.withDefaultsRestored · >>= _) (bind_congr fun r => ?_)
  cases r with
  | error e => rfl
  | ok _ =>
    dsimp only
    rw [toRun_ite, toRun_ofSteps]
    rfl

/-- The thread of a list of pipes is their run. -/
theorem toRun_ofPipes (registry : Registry) (pipes : List Pipe) :
    (ofPipes registry pipes).toRun = runPipes registry pipes := by
  have hfold : ∀ outcome, (pipes.foldlM (fun _ p => ofPipe registry p) outcome).toRun =
      pipes.foldlM (fun _ p => p.run registry) outcome := by
    induction pipes with
    | nil => exact fun _ => rfl
    | cons p pipes ih =>
      intro outcome
      rw [List.foldlM_cons, List.foldlM_cons, toRun_bind, toRun_ofPipe]
      exact bind_congr ih
  exact hfold false

end Thread

end Sluice

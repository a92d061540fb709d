import Sluice.Proofs.Running.ResultFlag

/-!
# Default parameters of a pipe and in a first step

The default parameters that a pipe declares are those of a `default` step at its top: both pipes
give the same, and leave the same variables, results and default parameters.  The two runs differ in
the outcome of the last step that the first step behind the declaration finds, and in what they
note about the declaration itself.
-/

namespace Sluice

/-- The calls of plugins among events: the plugin, its parameters, and what it has seen but for the
outcome of the last step. -/
def calls (events : List Event) : List (String × Fields Json × Context) :=
  events.filterMap fun
    | .pluginCalled plugin params ctx => some (plugin, params, ctx.unflagged)
    | _ => none

/-- A pipe whose default parameters are set by a step in front of the others. -/
def Pipe.withDefaultStep (p : Pipe) (position : Position) (control : Control) : Pipe :=
  { p with defaults := [], steps := .valid position control (.defaults p.defaults) :: p.steps }

@[simp] theorem calls_nil : calls [] = [] := rfl

@[simp] theorem calls_append (es fs : List Event) : calls (es ++ fs) = calls es ++ calls fs :=
  List.filterMap_append

theorem calls_map_unflagged (events : List Event) :
    calls (events.map Event.unflagged) = calls events := by
  rw [calls, calls, List.filterMap_map]
  refine congrArg (List.filterMap · events) (funext fun e => ?_)
  cases e <;> rfl

theorem calls_eq_of_unflagged {es fs : List Event}
    (h : es.map Event.unflagged = fs.map Event.unflagged) : calls es = calls fs := by
  rw [← calls_map_unflagged es, h, calls_map_unflagged]

/-! ## The two pipes -/

section Pipes

variable {registry : Registry} {p : Pipe} {control : Control} {ctx entered : Context}

theorem Pipe.withDefaultStep_run (position : Position) (ctx : Context) :
    (p.withDefaultStep position control).run registry ctx =
      let r := runAll registry (.valid position control (.defaults p.defaults) :: p.steps) ctx
      ⟨r.value, { r.context with defaults := ctx.defaults }, r.events ++ [.pipeFinished r.value]⟩ :=
  Pipe.run_of_ok rfl

/-- Where the default parameters can be set, the step in front of the others makes no difference to
what they do. -/
theorem Pipe.withDefaultStep_of_ok (hr : registry.IgnoresResult) (hsteps : p.steps ≠ [])
    (position : Position) (hguard : control.guard = none)
    (h : (setDefaults p.defaults).run ctx = ⟨.ok (), entered, []⟩) :
    ((p.withDefaultStep position control).run registry ctx).unflagged =
      ⟨(p.run registry ctx).value, (p.run registry ctx).context.unflagged,
        .stepStarted position ::
          .stepFinished position (control.name.getD position.text) true ::
            (p.run registry ctx).events.map Event.unflagged⟩ := by
  obtain ⟨hv, hc, he⟩ := Report.unflagged_eq_iff.1
    (alike_runAll hr p.steps { entered with result := true } entered rfl)
  obtain ⟨hrequest, -, hassigned, hregistered⟩ := Context.alike_iff.1 hc
  rw [Pipe.withDefaultStep_run, Pipe.run_of_ok h, runAll_cons,
    run_defaultStep_of_ok position (Control.opens_of_guard hguard ctx) h, if_pos rfl,
    runSteps_of_ne_nil hsteps]
  simp [Report.unflagged, Context.unflagged, hv, he, hrequest, hassigned, hregistered,
    Event.unflagged]

/-- Where they cannot be set, neither pipe runs a step. -/
theorem Pipe.withDefaultStep_of_error (position : Position) (hguard : control.guard = none)
    {e : StepError} (h : (setDefaults p.defaults).run ctx = ⟨.error e, entered, []⟩) :
    (p.withDefaultStep position control).run registry ctx =
      ⟨false, { ctx with result := false },
        [.stepStarted position, .stepFailed position (control.name.getD position.text) e,
          .stepFinished position (control.name.getD position.text) false,
          .pipeFinished false]⟩ := by
  obtain ⟨outcome, d, hd⟩ := exists_setDefaults_run p.defaults ctx
  obtain rfl : { ctx with defaults := d } = entered := by
    rw [h] at hd
    exact (congrArg Report.context hd).symm
  rw [Pipe.withDefaultStep_run, runAll_cons,
    run_defaultStep_of_error position (Control.opens_of_guard hguard ctx) h]
  rfl

end Pipes

/-- Default parameters declared by a pipe, and the same ones set by a `default` step in front of its
steps: both pipes give the same, leave the same variables, results and default parameters, and call
the same plugins with the same parameters, in contexts that differ at most in the outcome of the
last step.  If the declaration cannot be bound, both fail for the same reason and run no step of
the pipe, and the pipe with the declaration leaves the whole context as it was. -/
theorem Pipe.run_eq_run_withDefaultStep :
    (∀ host, (Registry.builtin host).IgnoresResult) ∧
    ∀ registry : Registry, registry.IgnoresResult → ∀ p : Pipe, p.steps ≠ [] →
      ∀ (position : Position) (control : Control), control.guard = none → ∀ ctx : Context,
      let label := control.name.getD position.text
      let declared := p.run registry ctx
      let stepped := (p.withDefaultStep position control).run registry ctx
      stepped.value = declared.value ∧
      stepped.context.assigned = declared.context.assigned ∧
      stepped.context.registered = declared.context.registered ∧
      stepped.context.defaults = declared.context.defaults ∧
      stepped.context.request = declared.context.request ∧
      calls stepped.events = calls declared.events ∧
      match (setDefaults p.defaults).run ctx with
      | ⟨.ok (), _, _⟩ =>
        stepped.events.map Event.unflagged = .stepStarted position ::
          .stepFinished position label true :: declared.events.map Event.unflagged
      | ⟨.error e, _, _⟩ =>
        declared = ⟨false, ctx, [.pipeDefaultInvalid p.position e, .pipeFinished false]⟩ ∧
        stepped = ⟨false, { ctx with result := false }, [.stepStarted position,
          .stepFailed position label e, .stepFinished position label false,
          .pipeFinished false]⟩ := by
  refine ⟨fun host => (Registry.readsRequest_builtin host).ignoresResult, ?_⟩
  intro registry hr p hsteps position control hguard ctx label declared stepped
  obtain ⟨outcome, d, h⟩ := exists_setDefaults_run p.defaults ctx
  cases outcome with
  | ok u =>
    -- the step leaves its own outcome in the context, so the two are the same only without it
    have hstepped : stepped.unflagged = ⟨declared.value, declared.context.unflagged,
        .stepStarted position :: .stepFinished position label true ::
          declared.events.map Event.unflagged⟩ :=
      Pipe.withDefaultStep_of_ok hr hsteps position hguard h
    have hvalue : stepped.unflagged.value = declared.value := by rw [hstepped]
    have hevents : stepped.events.map Event.unflagged = .stepStarted position ::
        .stepFinished position label true :: declared.events.map Event.unflagged :=
      congrArg Report.events hstepped
    have hcontext : stepped.context.Alike declared.context := congrArg Report.context hstepped
    obtain ⟨hrequest, hdefaults, hassigned, hregistered⟩ := Context.alike_iff.1 hcontext
    refine ⟨hvalue, hassigned, hregistered, hdefaults, hrequest, ?_, ?_⟩
    · rw [← calls_map_unflagged, hevents, ← calls_map_unflagged declared.events]
      rfl
    · rw [h]
      exact hevents
  | error e =>
    have hdeclared : declared =
        ⟨false, ctx, [.pipeDefaultInvalid p.position e, .pipeFinished false]⟩ :=
      Pipe.run_of_error h
    have hstepped : stepped = ⟨false, { ctx with result := false }, [.stepStarted position,
        .stepFailed position label e, .stepFinished position label false, .pipeFinished false]⟩ :=
      Pipe.withDefaultStep_of_error position hguard h
    rw [hdeclared, hstepped, h]
    exact ⟨rfl, rfl, rfl, rfl, rfl, rfl, rfl, rfl⟩

/-- A pipe that declares a message and logs it. -/
def greeting : Pipe :=
  ⟨none, ⟨"greeting", []⟩, [("log", [("msg", .string "hello")])],
    [.valid ⟨"greeting", [.item 0]⟩ ⟨none, none, none, none⟩ (.plugin "log" .null)]⟩

/-- Both pipes log the message. -/
theorem run_greeting_withDefaultStep :
    (Registry.ofList [Log.plugin]).IgnoresResult ∧ greeting.steps ≠ [] ∧
    let declared := greeting.run (.ofList [Log.plugin]) .empty
    let stepped := (greeting.withDefaultStep ⟨"default", []⟩ ⟨none, none, none, none⟩).run
      (.ofList [Log.plugin]) .empty
    declared.value = true ∧ stepped.value = true ∧
    calls declared.events = [("log", [("msg", .string "hello")], { Context.empty with
      defaults := Defaults.extend .empty [("log", [("msg", .string "hello")])] })] ∧
    calls stepped.events = calls declared.events := by
  have hr : (Registry.ofList [Log.plugin]).IgnoresResult := Registry.readsRequest_log.ignoresResult
  have hsteps : greeting.steps ≠ [] := List.cons_ne_nil _ _
  obtain ⟨hvalue, -, -, -, -, hcalls, -⟩ := Pipe.run_eq_run_withDefaultStep.2 _ hr greeting hsteps
    ⟨"default", []⟩ ⟨none, none, none, none⟩ rfl .empty
  exact ⟨hr, hsteps, rfl, hvalue, rfl, hcalls⟩

end Sluice

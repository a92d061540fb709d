import Sluice.Run.Step

/-!
# The parts of a step

What the parts of a step leave, as equations: a step whose guard opens does its content and ends
with what this gives, assignments are done one after the other, and an invocation calls its plugin
with bound parameters and keeps what it answers.
-/

namespace Sluice

/-! ## Single steps -/

section Step

variable {registry : Registry} {control : Control} {ctx : Context}

/-- A guard that is not there opens. -/
theorem Control.opens_of_guard (h : control.guard = none) (ctx : Context) :
    control.opens ctx = .ok true := by rw [opens, h]

/-- A step that makes no sense is false. -/
theorem Step.run_invalid (position : Position) (cause : StepError) (ctx : Context) :
    (Step.invalid position cause).run registry ctx =
      ⟨false, { ctx with result := false }, [.stepStarted position, .stepInvalid position cause,
        .stepFinished position position.text false]⟩ := by
  rw [Step.run]
  rfl

/-- A step whose guard does not open is passed over. -/
theorem Step.run_of_closed (position : Position) (content : Content)
    (h : control.opens ctx ≠ .ok true) :
    (Step.valid position control content).run registry ctx =
      ⟨true, ctx, [.stepStarted position, match control.opens ctx with
        | .error e => .guardFailed position e
        | .ok _ => .stepSkipped position]⟩ := by
  rw [Step.run, Run.bind_apply, Run.note_apply, Run.bind_apply, Run.context_apply]
  cases hopens : control.opens ctx with
  | error e => rfl
  | ok opened => cases opened with
    | false => rfl
    | true => exact absurd hopens h

/-- A step whose guard opens ends with what its content gives. -/
theorem Step.run_of_opens (position : Position) (content : Content)
    (h : control.opens ctx = .ok true) :
    (Step.valid position control content).run registry ctx =
      let label := control.name.getD position.text
      let r := (content.run registry control).run ctx
      match r.value with
      | .ok outcome => ⟨outcome, { r.context with result := outcome },
          .stepStarted position :: r.events ++ [.stepFinished position label outcome]⟩
      | .error e => ⟨false, { r.context with result := false },
          .stepStarted position :: r.events ++
            [.stepFailed position label e, .stepFinished position label false]⟩ := by
  rw [Step.run, Run.bind_apply, Run.note_apply, Run.bind_apply, Run.context_apply, h]
  dsimp only
  rw [Run.bind_apply]
  cases ((content.run registry control).run ctx).value with
  | ok outcome => rfl
  | error e => rfl

end Step

/-! ## Runs that may fail -/

section Attempts

variable {α β : Type}

theorem Attempt.of_ok_bind (a : α) (f : α → Attempt β) (ctx : Context) :
    (Attempt.of (.ok a) >>= f).run ctx = (f a).run ctx := rfl

theorem Attempt.lift_bind (x : Run α) (f : α → Attempt β) (ctx : Context) :
    (ExceptT.lift x >>= f : Attempt β).run ctx =
      let s := (f (x ctx).value).run (x ctx).context
      ⟨s.value, s.context, (x ctx).events ++ s.events⟩ := by
  rw [ExceptT.run_bind_lift]
  rfl

end Attempts

/-! ## Contents -/

section Contents

variable {registry : Registry} {α β : Type}

theorem assign_cons_run (name : String) (raw : Json) (rest : List (String × Json)) (ctx : Context) :
    (assign ((name, raw) :: rest)).run ctx =
      match Binding.value ctx.view raw with
      | .ok v =>
        let r := (assign rest).run (ctx.setVariable name v)
        ⟨r.value, r.context, .variableSet name v :: r.events⟩
      | .error e => ⟨.error (.unbound "variable" e), ctx, []⟩ := by
  have h : (assign ((name, raw) :: rest)).run ctx =
      (Attempt.of (match Binding.value ctx.view raw with
        | .ok v => .ok v
        | .error e => .error (.unbound "variable" e)) >>= fun value => do
          Run.note (.variableSet name value)
          Run.update (·.setVariable name value)
          assign rest).run ctx := rfl
  rw [h]
  cases Binding.value ctx.view raw with
  | error e => rfl
  | ok v => rfl

theorem run_bind_return (x : Attempt α) (b : β) (ctx : Context) :
    (do let _ ← x; return b : Attempt β).run ctx =
      ⟨(x.run ctx).value.map fun _ => b, (x.run ctx).context, (x.run ctx).events⟩ := by
  rw [ExceptT.run_bind, Run.bind_apply]
  cases (x.run ctx).value with
  | ok a => exact congrArg (Report.mk _ _) (List.append_nil _)
  | error e => exact congrArg (Report.mk _ _) (List.append_nil _)

theorem Content.run_assign (control : Control) (entries : List (String × Json)) (ctx : Context) :
    ((Content.assign entries).run registry control).run ctx =
      let r := (Sluice.assign entries).run ctx
      ⟨r.value.map fun _ => true, r.context, r.events⟩ := by
  rw [Content.run, run_bind_return]

theorem Content.run_setDefaults (control : Control) (entries : List (String × Fields Json))
    (ctx : Context) :
    ((Content.defaults entries).run registry control).run ctx =
      let r := (setDefaults entries).run ctx
      ⟨r.value.map fun _ => true, r.context, r.events⟩ := by
  rw [Content.run, run_bind_return]

/-- A step that has set its default parameters. -/
theorem run_defaultStep_of_ok {control : Control} {entries : List (String × Fields Json)}
    {ctx entered : Context} (position : Position) (hopens : control.opens ctx = .ok true)
    (h : (setDefaults entries).run ctx = ⟨.ok (), entered, []⟩) :
    (Step.valid position control (.defaults entries)).run registry ctx =
      ⟨true, { entered with result := true }, [.stepStarted position,
        .stepFinished position (control.name.getD position.text) true]⟩ := by
  rw [Step.run_of_opens position _ hopens, Content.run_setDefaults, h]
  rfl

/-- A step that has set some of its default parameters. -/
theorem run_defaultStep_of_error {control : Control} {entries : List (String × Fields Json)}
    {ctx entered : Context} (position : Position) (hopens : control.opens ctx = .ok true)
    {e : StepError} (h : (setDefaults entries).run ctx = ⟨.error e, entered, []⟩) :
    (Step.valid position control (.defaults entries)).run registry ctx =
      ⟨false, { entered with result := false }, [.stepStarted position,
        .stepFailed position (control.name.getD position.text) e,
        .stepFinished position (control.name.getD position.text) false]⟩ := by
  rw [Step.run_of_opens position _ hopens, Content.run_setDefaults, h]
  rfl

end Contents

/-! ## Invocations -/

section Invocations

variable {registry : Registry}

/-- A call leaves the context of its answer, and notes what the plugin has logged and whether it has
failed. -/
theorem callPlugin_apply (p : Plugin) (name : String) (params : Fields Json) (ctx : Context) :
    callPlugin p name params ctx =
      let a := p.call params ctx
      ⟨a, a.context, .pluginCalled name params ctx :: a.log.map (.pluginLogged name) ++
        match a.outcome with
        | .error e => [.pluginFailed name e]
        | .ok _ => []⟩ := by
  simp only [callPlugin, Run.bind_apply, Run.context_apply, Run.note_apply, Run.update_apply,
    Run.noteAll_apply]
  cases (p.call params ctx).outcome with
  | error e => simp
  | ok b => simp

theorem callPlugin_value (p : Plugin) (name : String) (params : Fields Json) (ctx : Context) :
    (callPlugin p name params ctx).value = p.call params ctx := by
  rw [callPlugin_apply]

theorem callPlugin_context (p : Plugin) (name : String) (params : Fields Json) (ctx : Context) :
    (callPlugin p name params ctx).context = (p.call params ctx).context := by
  rw [callPlugin_apply]

/-- What is kept of an answer: its result, with the outcome as the field `result`. -/
theorem keep_apply (plugin register : String) (a : Answer) (ctx : Context) :
    keep plugin register a ctx =
      ⟨(), ctx.register register (Fields.set "result" (.bool a.holds) (a.result.getD [])),
        match Fields.get? "result" (a.result.getD []) with
        | some discarded => [.resultDiscarded plugin register discarded]
        | none => []⟩ := by
  unfold keep
  dsimp only
  cases Fields.get? "result" (a.result.getD []) with
  | none => rfl
  | some discarded => rfl

/-- What an invocation does with the answer of its plugin. -/
theorem keepAndDecide_run (name : String) (control : Control) (a : Answer) (ctx : Context) :
    (do
      match control.register with
      | some register => keep name register a
      | none => pure ()
      Attempt.of (control.decides a.holds (← Run.context)) : Attempt Bool).run ctx =
      let kept := match control.register with
        | some register => keep name register a ctx
        | none => ⟨(), ctx, []⟩
      ⟨control.decides a.holds kept.context, kept.context, kept.events⟩ := by
  cases control.register with
  | none => rfl
  | some register =>
    refine (Attempt.lift_bind _ _ ctx).trans ?_
    exact congrArg (Report.mk _ _) (List.append_nil _)

theorem invoke_run (name : String) (raw : Json) (control : Control) (ctx : Context) :
    (invoke registry name raw control).run ctx =
      match ctx.bindParams name raw with
      | .error e => ⟨.error e, ctx, []⟩
      | .ok params => match registry.select name params with
        | .error e => ⟨.error e, ctx, []⟩
        | .ok none => ⟨.error (.unknownPredicate name), ctx, []⟩
        | .ok (some p) =>
          let a := p.call params ctx
          let kept := match control.register with
            | some register => keep name register a a.context
            | none => ⟨(), a.context, []⟩
          ⟨control.decides a.holds kept.context, kept.context,
            (callPlugin p name params ctx).events ++ kept.events⟩ := by
  refine (Attempt.lift_bind Run.context _ ctx).trans ?_
  dsimp only [Run.context_apply]
  -- the three ways to fail come before the call, and so leave the context and the log alone
  cases ctx.bindParams name raw with
  | error e => rfl
  | ok params =>
    rw [Attempt.of_ok_bind, List.nil_append]
    dsimp only
    cases registry.select name params with
    | error e => rfl
    | ok found =>
      rw [Attempt.of_ok_bind]
      cases found with
      | none => rfl
      | some p =>
        refine (Attempt.lift_bind (callPlugin p name params) _ ctx).trans ?_
        rw [callPlugin_value, callPlugin_context]
        exact congrArg (fun s : Report (Except StepError Bool) =>
          (⟨s.value, s.context, (callPlugin p name params ctx).events ++ s.events⟩ :
            Report (Except StepError Bool)))
          (keepAndDecide_run name control (p.call params ctx) (p.call params ctx).context)

end Invocations

end Sluice

import Sluice.Proofs.Running.Lists
import Sluice.Proofs.Running.Parts

/-!
# Pipes and sub-pipes

A pipe runs its steps behind its own default parameters and gives the default parameters back as it
has got them; so does a sub-pipe.  Pipes follow each other whatever they give.
-/

namespace Sluice

/-! ## Setting default parameters -/

/-- Setting default parameters touches nothing else, and nothing is noted, whether it succeeds or
not. -/
theorem exists_setDefaults_run (entries : List (String × Fields Json)) (ctx : Context) :
    ∃ outcome d, (setDefaults entries).run ctx = ⟨outcome, { ctx with defaults := d }, []⟩ := by
  induction entries generalizing ctx with
  | nil => exact ⟨.ok (), ctx.defaults, rfl⟩
  | cons entry rest ih =>
    obtain ⟨plugin, raw⟩ := entry
    rw [setDefaults_cons_run]
    cases ctx.bindFields "default" raw with
    | error e => exact ⟨.error e, ctx.defaults, rfl⟩
    | ok fields =>
      obtain ⟨outcome, d, h⟩ := ih (ctx.mergeDefaults plugin fields)
      exact ⟨outcome, d, h⟩

/-! ## Restoring them -/

theorem withDefaultsRestored_apply {α : Type} (x : Run α) (ctx : Context) :
    withDefaultsRestored x ctx =
      ⟨(x ctx).value, { (x ctx).context with defaults := ctx.defaults }, (x ctx).events⟩ := by
  simp only [withDefaultsRestored, Run.bind_apply, Run.context_apply, Run.update_apply,
    Run.pure_apply, List.nil_append, List.append_nil]

/-! ## Sub-pipes and pipes -/

section Pipes

variable {registry : Registry} {p : Pipe} {ctx entered : Context}

theorem Content.run_pipe (control : Control) (steps : List Step) (ctx : Context) :
    ((Content.pipe steps).run registry control).run ctx =
      let r := runSteps registry steps ctx
      let after := { r.context with defaults := ctx.defaults }
      ⟨control.decides true after, after, r.events ++ [.subPipeFinished r.value]⟩ := by
  have h : ((Content.pipe steps).run registry control).run ctx =
      (withDefaultsRestored (runSteps registry steps) >>= fun outcome =>
        (do
          Run.note (.subPipeFinished outcome)
          Attempt.of (control.decides true (← Run.context)) : Attempt Bool).run) ctx := by
    rw [Content.run, ExceptT.run_bind_lift]
    rfl
  rw [h, Run.bind_apply, withDefaultsRestored_apply]
  rfl

/-- A pipe whose default parameters have been set. -/
theorem Pipe.run_of_ok (h : (setDefaults p.defaults).run ctx = ⟨.ok (), entered, []⟩) :
    p.run registry ctx =
      let r := runSteps registry p.steps entered
      ⟨r.value, { r.context with defaults := ctx.defaults },
        r.events ++ [.pipeFinished r.value]⟩ := by
  rw [Pipe.run, Run.bind_apply, withDefaultsRestored_apply]
  simp only [Run.bind_apply, h, Run.note_apply, Run.pure_apply, List.nil_append, List.append_nil]

/-- A pipe whose default parameters cannot be set. -/
theorem Pipe.run_of_error {e : StepError}
    (h : (setDefaults p.defaults).run ctx = ⟨.error e, entered, []⟩) :
    p.run registry ctx = ⟨false, ctx, [.pipeDefaultInvalid p.position e, .pipeFinished false]⟩ := by
  obtain ⟨outcome, d, hd⟩ := exists_setDefaults_run p.defaults ctx
  obtain ⟨-, rfl⟩ : outcome = .error e ∧ { ctx with defaults := d } = entered := by
    rw [h] at hd
    exact ⟨(congrArg Report.value hd).symm, (congrArg Report.context hd).symm⟩
  rw [Pipe.run, Run.bind_apply, withDefaultsRestored_apply]
  simp only [Run.bind_apply, h, Run.note_apply, Run.pure_apply, List.nil_append, List.append_nil,
    List.cons_append]

/-! ## Lists of pipes -/

theorem foldlM_run_cons (p : Pipe) (pipes : List Pipe) (b : Bool) (ctx : Context) :
    (p :: pipes).foldlM (fun _ p => p.run registry) b ctx =
      Report.joined ctx (Run.chain ((p :: pipes).map (·.run registry)) ctx) := by
  induction pipes generalizing p b ctx with
  | nil =>
    simp [List.foldlM_cons, Report.joined_singleton]
  | cons q pipes ih =>
    rw [List.foldlM_cons, Run.bind_apply, ih]
    simp only [List.map_cons, Run.chain_cons, Report.joined_cons_cons]

/-- All pipes are run, each from where the one before it has ended, and the last one decides. -/
theorem runPipes_eq_joined (pipes : List Pipe) (ctx : Context) :
    runPipes registry pipes ctx =
      Report.joined ctx (Run.chain (pipes.map (·.run registry)) ctx) := by
  cases pipes with
  | nil => rfl
  | cons p pipes => exact foldlM_run_cons p pipes false ctx

end Pipes

end Sluice

import Sluice.Proofs.Running.Renaming

/-!
# What a run executes

All of it: the visits of a run stand in the order of the document, every list of steps is run up to
its first false step, and all pipes are run.
-/

namespace Sluice

section Order

variable {registry : Registry}

/-- Wherever a run comes, there is a step. -/
theorem isSome_of_mem_visits {pipes : List Pipe} {ctx : Context} {a : Address}
    (h : a ∈ pipeVisitsFrom registry 0 pipes ctx) : (pipeStepAt? pipes a).isSome := by
  have ha : (pipeStepAt? pipes a).map Step.position ∈
      (started (runPipes registry pipes ctx).events).map some := by
    rw [started_runPipes]
    exact List.mem_map_of_mem h
  obtain ⟨position, -, hposition⟩ := List.mem_map.1 ha
  rw [← Option.isSome_map (f := Step.position), ← hposition, Option.isSome_some]

/-- With positions that tell where the steps stand, the events tell where a run has come. -/
theorem started_runPipes_renamed (f : Address → Position) (pipes : List Pipe) (ctx : Context) :
    started (runPipes registry (pipesRenamedFrom f 0 pipes) ctx).events =
      (pipeVisitsFrom registry 0 pipes ctx).map f := by
  refine (List.map_inj_right fun _ _ => Option.some.inj).1 ?_
  rw [started_runPipes, pipeVisitsFrom_renamedFrom, positionsAt, List.map_map]
  refine List.map_congr_left fun a ha => ?_
  obtain ⟨step, hstep⟩ := Option.isSome_iff_exists.1 (isSome_of_mem_visits ha)
  rw [pipeStepAt?_renamedFrom, hstep]
  rfl

theorem sameCourse_runPipes_renamed (f : Address → Position) (pipes : List Pipe) :
    SameCourse (runPipes registry (pipesRenamedFrom f 0 pipes)) (runPipes registry pipes) := by
  rw [runPipes, runPipes]
  generalize false = outcome
  generalize 0 = k
  induction pipes generalizing k outcome with
  | nil => exact .refl _
  | cons p rest ih =>
    rw [pipesRenamedFrom, List.foldlM_cons, List.foldlM_cons]
    exact (p.sameCourse_renamed _).bind fun outcome => ih outcome (k + 1)

end Order

/-- What a run executes.  The processed steps stand in the order of the document, each of them once;
of every list of steps a prefix is processed, up to the first step that is false, and what is left
is what this prefix leaves; pipes give the default parameters back, and all pipes are run. -/
theorem runPipes_processes_in_order (registry : Registry) :
    (∀ (pipes : List Pipe) (ctx : Context),
      let visits := pipeVisitsFrom registry 0 pipes ctx
      let r := runPipes registry pipes ctx
      visits.Pairwise (· < ·) ∧ (∀ a ∈ visits, (pipeStepAt? pipes a).isSome) ∧
      (started r.events).map some = positionsAt (pipeStepAt? pipes) visits ∧
      (∀ f : Address → Position,
        let r' := runPipes registry (pipesRenamedFrom f 0 pipes) ctx
        started r'.events = visits.map f ∧ r'.value = r.value ∧ r'.context = r.context) ∧
      r = .joined ctx (Run.chain (pipes.map (·.run registry)) ctx)) ∧
    (∀ (p : Pipe) (ctx : Context),
      match (setDefaults p.defaults).run ctx with
      | ⟨.ok (), entered, _⟩ =>
        let r := runSteps registry p.steps entered
        p.run registry ctx = ⟨r.value, { r.context with defaults := ctx.defaults },
          r.events ++ [.pipeFinished r.value]⟩
      | ⟨.error e, _, _⟩ =>
        p.run registry ctx =
          ⟨false, ctx, [.pipeDefaultInvalid p.position e, .pipeFinished false]⟩) ∧
    (∀ (control : Control) (steps : List Step) (ctx : Context),
      ((Content.pipe steps).run registry control).run ctx =
        let r := runSteps registry steps ctx
        let after := { r.context with defaults := ctx.defaults }
        ⟨control.decides true after, after, r.events ++ [.subPipeFinished r.value]⟩) ∧
    (∀ (steps : List Step) (ctx : Context), ∃ done rest,
      steps = done ++ rest ∧ (steps ≠ [] → done ≠ []) ∧ Processed registry ctx done rest ∧
      runSteps registry steps ctx =
        .joined ctx (Run.chain (done.map (·.run registry)) ctx)) ∧
    (∀ (x y : Step) (xs ys : List Step),
      runSteps registry (x :: xs ++ y :: ys) = do
        if ← runSteps registry (x :: xs) then runSteps registry (y :: ys) else return false) ∧
    runSteps registry [] = pure false := by
  refine ⟨fun pipes ctx => ?_, fun p ctx => ?_, Content.run_pipe, exists_processed,
    runSteps_append, rfl⟩
  · refine ⟨pairwise_pipeVisitsFrom 0 pipes ctx, fun a => isSome_of_mem_visits,
      started_runPipes pipes ctx, fun f => ⟨started_runPipes_renamed f pipes ctx, ?_⟩,
      runPipes_eq_joined pipes ctx⟩
    exact sameCourse_runPipes_renamed f pipes ctx
  · obtain ⟨outcome, d, h⟩ := exists_setDefaults_run p.defaults ctx
    rw [h]
    cases outcome with
    | ok u => exact Pipe.run_of_ok h
    | error e => exact Pipe.run_of_error h

/-- Three pipes: the first one has a sub-pipe that stops at an invalid step, the second one has no
steps, and the third one passes over a step.  All positions are the same. -/
def stoppingPipes : List Pipe :=
  let here : Position := ⟨"stopping", []⟩
  let free : Control := ⟨none, none, none, none⟩
  let assigns (name : String) : Step := .valid here free (.assign [(name, .bool true)])
  [⟨none, here, [], [
      .valid here free (.pipe [assigns "a", .invalid here .noContent, assigns "b"]),
      assigns "c"]⟩,
    ⟨none, here, [], []⟩,
    ⟨none, here, [], [
      .valid here { free with guard := some (.constant false) } (.assign [("d", .bool true)]),
      assigns "e"]⟩]

/-- The sub-pipe ends behind its invalid step, and both the list around it and the other pipes go
on. -/
theorem runPipes_stoppingPipes :
    let f : Address → Position := fun a => ⟨"stopping", a.map .item⟩
    pipeVisitsFrom .empty 0 stoppingPipes .empty =
      [[0, 0], [0, 0, 0], [0, 0, 1], [0, 1], [2, 0], [2, 1]] ∧
    started (runPipes .empty (pipesRenamedFrom f 0 stoppingPipes) .empty).events =
      [f [0, 0], f [0, 0, 0], f [0, 0, 1], f [0, 1], f [2, 0], f [2, 1]] ∧
    (runPipes .empty stoppingPipes .empty).context.assigned =
      [("a", .bool true), ("c", .bool true), ("e", .bool true)] := by
  intro f
  obtain ⟨-, -, -, h, -⟩ := (runPipes_processes_in_order .empty).1 stoppingPipes .empty
  exact ⟨rfl, (h f).1, rfl⟩

end Sluice

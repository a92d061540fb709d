import Sluice.Proofs.Running.Visits

/-!
# The events of a run name the visited steps

A step notes its start, and nothing else does: what runs beside the steps is `Silent`.  So the
starts among the events of a run are those of its visits, in the same order.
-/

namespace Sluice

variable {α β : Type}

@[simp] theorem started_nil : started [] = [] := rfl

@[simp] theorem started_append (es fs : List Event) :
    started (es ++ fs) = started es ++ started fs :=
  List.filterMap_append

/-! ## What starts no step -/

/-- Whether a run starts no step, wherever it begins. -/
def Silent (x : Run α) : Prop := ∀ ctx, started (x ctx).events = []

section Silence

theorem silent_pure (a : α) : Silent (pure a : Run α) := fun _ => rfl

theorem silent_context : Silent Run.context := fun _ => rfl

theorem silent_update (f : Context → Context) : Silent (Run.update f) := fun _ => rfl

theorem silent_note {e : Event} (h : started [e] = []) : Silent (Run.note e) := fun _ => h

theorem silent_noteLog (plugin : String) (log : List Record) :
    Silent (Run.noteAll (log.map (.pluginLogged plugin))) := by
  intro ctx
  rw [Run.noteAll_apply, started, List.filterMap_map]
  exact List.filterMap_eq_nil_iff.2 fun _ _ => rfl

theorem Silent.bind {x : Run α} {f : α → Run β} (hx : Silent x) (hf : ∀ a, Silent (f a)) :
    Silent (x >>= f) := by
  intro ctx
  rw [Run.bind_apply, started_append, hx ctx, hf, List.append_nil]

theorem silent_of (x : Except StepError α) : Silent (Attempt.of x).run := fun _ => rfl

theorem Silent.lift {x : Run α} (h : Silent x) : Silent (ExceptT.lift x : Attempt α).run :=
  h.bind fun _ => silent_pure _

theorem Silent.bindAttempt {x : Attempt α} {f : α → Attempt β} (hx : Silent x.run)
    (hf : ∀ a, Silent (f a).run) : Silent (x >>= f).run :=
  Silent.bind hx fun r => by
    cases r with
    | ok a => exact hf a
    | error e => exact silent_pure (Except.error e)

theorem silent_assign (entries : List (String × Json)) : Silent (assign entries).run := by
  induction entries with
  | nil => exact silent_pure _
  | cons entry rest ih =>
    obtain ⟨name, raw⟩ := entry
    refine silent_context.lift.bindAttempt fun ctx => (silent_of _).bindAttempt fun value => ?_
    refine (silent_note rfl).lift.bindAttempt fun _ => ?_
    exact (silent_update _).lift.bindAttempt fun _ => ih

theorem silent_setDefaults (entries : List (String × Fields Json)) :
    Silent (setDefaults entries).run := by
  intro ctx
  obtain ⟨outcome, d, h⟩ := exists_setDefaults_run entries ctx
  rw [h, started_nil]

theorem silent_keep (plugin register : String) (a : Answer) : Silent (keep plugin register a) := by
  unfold keep
  dsimp only
  cases Fields.get? "result" (a.result.getD []) with
  | none => exact silent_update _
  | some discarded => exact (silent_note rfl).bind fun _ => silent_update _

theorem silent_callPlugin (p : Plugin) (name : String) (params : Fields Json) :
    Silent (callPlugin p name params) := by
  refine silent_context.bind fun ctx => (silent_note rfl).bind fun _ => ?_
  refine (silent_update _).bind fun _ => (silent_noteLog name _).bind fun _ => ?_
  cases (p.call params ctx).outcome with
  | error e => exact (silent_note rfl).bind fun _ => silent_pure _
  | ok b => exact silent_pure _

theorem silent_invoke (registry : Registry) (name : String) (raw : Json) (control : Control) :
    Silent (invoke registry name raw control).run := by
  refine silent_context.lift.bindAttempt fun ctx => (silent_of _).bindAttempt fun params => ?_
  refine (silent_of _).bindAttempt fun found => ?_
  cases found with
  | none => exact silent_pure _
  | some p =>
    refine (silent_callPlugin p name params).lift.bindAttempt fun a => ?_
    cases control.register with
    | none => exact silent_context.lift.bindAttempt fun _ => silent_of _
    | some register =>
      refine (silent_keep name register a).lift.bindAttempt fun _ => ?_
      exact silent_context.lift.bindAttempt fun _ => silent_of _

theorem silent_conclude (position : Position) (label : String) (outcome : Bool) :
    Silent (conclude position label outcome) :=
  (silent_note rfl).bind fun _ => (silent_update _).bind fun _ => silent_pure _

end Silence

/-! ## Starts and visits -/

section Starts

variable {registry : Registry}

/-- The positions of the steps at some addresses; `none` where no step stands. -/
def positionsAt (at? : Address → Option Step) (visits : List Address) : List (Option Position) :=
  visits.map fun a => (at? a).map Step.position

theorem started_step_valid (position : Position) (control : Control) (content : Content)
    (ctx : Context) :
    started ((Step.valid position control content).run registry ctx).events =
      position :: match control.opens ctx with
        | .ok true => started ((content.run registry control).run ctx).events
        | _ => [] := by
  by_cases hopens : control.opens ctx = .ok true
  · rw [Step.run_of_opens position content hopens, hopens]
    dsimp only
    cases ((content.run registry control).run ctx).value with
    | ok outcome => simp [started]
    | error e => simp [started]
  · rw [Step.run_of_closed position content hopens]
    cases h : control.opens ctx with
    | error e => rfl
    | ok opened => cases opened with
      | false => rfl
      | true => exact absurd h hopens

mutual

theorem Step.started_run (ctx : Context) : ∀ step : Step,
    (started (step.run registry ctx).events).map some =
      positionsAt step.at? (step.visits registry ctx)
  | .invalid position cause => by
    have hquiet : Silent (do
        Run.note (.stepInvalid position cause)
        conclude position (Step.invalid position cause).label false) :=
      (silent_note rfl).bind fun _ => silent_conclude position _ false
    rw [Step.run, Step.visits, Run.bind_apply, started_append, hquiet]
    rfl
  | .valid position control content => by
    have hinner := content.started_run control ctx
    rw [started_step_valid, Step.visits]
    cases control.opens ctx with
    | error e => rfl
    | ok opens =>
      cases opens with
      | false => rfl
      | true =>
        dsimp only
        rw [List.map_cons, hinner]
        refine congrArg (some position :: ·) (List.map_congr_left fun a ha => ?_)
        -- no step inside has the address of the step itself
        cases a with
        | nil => exact absurd ((content.pairwise_visits ctx).2 [] ha) (List.lt_irrefl [])
        | cons i rest => rfl

theorem Content.started_run (control : Control) (ctx : Context) : ∀ content : Content,
    (started ((content.run registry control).run ctx).events).map some =
      positionsAt (stepAt? content.inner) (content.visits registry ctx)
  | .plugin name params => by
    rw [Content.run, Content.visits, silent_invoke registry name params control ctx]
    rfl
  | .assign entries => by
    have hquiet : Silent (do assign entries; return true : Attempt Bool).run :=
      (silent_assign entries).bindAttempt fun _ => silent_pure _
    rw [Content.run, Content.visits, hquiet ctx]
    rfl
  | .defaults entries => by
    have hquiet : Silent (do setDefaults entries; return true : Attempt Bool).run :=
      (silent_setDefaults entries).bindAttempt fun _ => silent_pure _
    rw [Content.run, Content.visits, hquiet ctx]
    rfl
  | .pipe steps => by
    have hsteps := started_runAll ctx steps 0 steps rfl
    rw [Content.run_pipe, Content.visits, Content.inner, ← hsteps]
    simp [runSteps_events, started]

theorem started_runAll (ctx : Context) (list : List Step) (i : Nat) :
    ∀ steps : List Step, list.drop i = steps →
    (started (runAll registry steps ctx).events).map some =
      positionsAt (stepAt? list) (visitsFrom registry i steps ctx)
  | [], _ => rfl
  | step :: rest, h => by
    have hstep := step.started_run ctx
    obtain ⟨hat, hdrop⟩ := getElem?_of_drop_eq_cons h
    have hrest := started_runAll (step.run registry ctx).context list (i + 1) rest hdrop
    have hhere : positionsAt (stepAt? list) ((step.visits registry ctx).map (i :: ·)) =
        (started (step.run registry ctx).events).map some := by
      rw [hstep, positionsAt, List.map_map]
      refine List.map_congr_left fun a _ => ?_
      rw [Function.comp_apply, stepAt?, hat, Option.bind_some]
    rw [visitsFrom, positionsAt, List.map_append, ← positionsAt, hhere, runAll_cons]
    split
    · rw [started_append, List.map_append, hrest]
      rfl
    · simp

end

theorem started_runSteps (ctx : Context) (steps : List Step) :
    (started (runSteps registry steps ctx).events).map some =
      positionsAt (stepAt? steps) (visitsFrom registry 0 steps ctx) := by
  rw [runSteps_events]
  exact started_runAll ctx steps 0 steps rfl

theorem Pipe.started_run (p : Pipe) (ctx : Context) :
    (started (p.run registry ctx).events).map some =
      positionsAt (stepAt? p.steps) (p.visits registry ctx) := by
  obtain ⟨outcome, d, h⟩ := exists_setDefaults_run p.defaults ctx
  rw [Pipe.visits, h]
  cases outcome with
  | error e =>
    rw [Pipe.run_of_error h]
    rfl
  | ok u =>
    rw [Pipe.run_of_ok h, ← started_runSteps]
    simp [started]

theorem started_chain (list : List Pipe) (k : Nat) (pipes : List Pipe) (h : list.drop k = pipes)
    (ctx : Context) :
    (started ((Run.chain (pipes.map (·.run registry)) ctx).flatMap (·.events))).map some =
      positionsAt (pipeStepAt? list) (pipeVisitsFrom registry k pipes ctx) := by
  induction pipes generalizing k ctx with
  | nil => rfl
  | cons p rest ih =>
    obtain ⟨hat, hdrop⟩ := getElem?_of_drop_eq_cons h
    have hhere : positionsAt (pipeStepAt? list) ((p.visits registry ctx).map (k :: ·)) =
        (started (p.run registry ctx).events).map some := by
      rw [p.started_run ctx, positionsAt, List.map_map]
      refine List.map_congr_left fun a _ => ?_
      rw [Function.comp_apply, pipeStepAt?, hat, Option.bind_some]
    rw [pipeVisitsFrom, positionsAt, List.map_append, ← positionsAt, ← positionsAt, hhere,
      List.map_cons, Run.chain_cons, List.flatMap_cons, started_append, List.map_append,
      ih (k + 1) hdrop]

theorem started_runPipes (pipes : List Pipe) (ctx : Context) :
    (started (runPipes registry pipes ctx).events).map some =
      positionsAt (pipeStepAt? pipes) (pipeVisitsFrom registry 0 pipes ctx) := by
  rw [runPipes_eq_joined]
  exact started_chain pipes 0 pipes rfl ctx

end Starts

end Sluice

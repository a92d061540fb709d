import Sluice.Proofs.Running.PipeDefault

/-!
# Sub-pipes

A sub-pipe is transparent but for default parameters and its outcome.  Where its steps are true, it
can be replaced by them: what is run behind it finds the same variables, results and default
parameters, as the default parameters that it takes back are those that its steps have not touched.
Its own outcome is that of its `result`, and the steps inside only supply what this reads.
-/

namespace Sluice

/-! ## Steps that set default parameters -/

/-- Whether a content sets default parameters for the steps behind it. -/
def Content.setsDefaults : Content → Bool
  | .defaults _ => true
  | _ => false

def Step.setsDefaults : Step → Bool
  | .valid _ _ content => content.setsDefaults
  | .invalid .. => false

section Kept

variable {registry : Registry}

theorem assign_defaults (entries : List (String × Json)) (ctx : Context) :
    ((assign entries).run ctx).context.defaults = ctx.defaults := by
  have h : Follows ctx.defaults ctx.defaults (assign entries).run _ ctx.store :=
    follows_assign entries ctx.store
  rw [Follows, Context.under_store] at h
  rw [h]
  rfl

theorem invoke_defaults (hr : registry.KeepsDefaults) (name : String) (raw : Json)
    (control : Control) (ctx : Context) :
    ((invoke registry name raw control).run ctx).context.defaults = ctx.defaults := by
  have hscope : Scope.defaults ⟨[], []⟩ ctx.defaults = ctx.defaults := rfl
  have h : Follows ctx.defaults (Scope.defaults ⟨[], []⟩ ctx.defaults)
      (invoke registry name raw control).run _ ctx.store :=
    follows_invoke hr name raw control ctx.store
  rw [hscope, Follows, Context.under_store] at h
  rw [h]
  rfl

theorem Content.run_defaults (hr : registry.KeepsDefaults) {content : Content}
    (h : content.setsDefaults = false) (control : Control) (ctx : Context) :
    ((content.run registry control).run ctx).context.defaults = ctx.defaults := by
  cases content with
  | plugin name params =>
    rw [Content.run]
    exact invoke_defaults hr name params control ctx
  | assign entries =>
    rw [Content.run_assign]
    exact assign_defaults entries ctx
  | defaults entries => cases h
  | pipe steps => rw [Content.run_pipe]

theorem Step.run_defaults (hr : registry.KeepsDefaults) {step : Step}
    (h : step.setsDefaults = false) (ctx : Context) :
    (step.run registry ctx).context.defaults = ctx.defaults := by
  cases step with
  | invalid position cause => rw [Step.run_invalid]
  | valid position control content =>
    by_cases hopens : control.opens ctx = .ok true
    · have hcontent := Content.run_defaults hr h control ctx
      rw [Step.run_of_opens position content hopens]
      dsimp only
      split <;> exact hcontent
    · rw [Step.run_of_closed position content hopens]

theorem runAll_defaults (hr : registry.KeepsDefaults) {steps : List Step}
    (h : ∀ step ∈ steps, step.setsDefaults = false) (ctx : Context) :
    (runAll registry steps ctx).context.defaults = ctx.defaults := by
  induction steps generalizing ctx with
  | nil => rw [runAll, Run.pure_apply]
  | cons step rest ih =>
    have hstep := Step.run_defaults hr (h step List.mem_cons_self) ctx
    rw [runAll_cons]
    split
    · exact (ih (fun s hs => h s (List.mem_cons_of_mem _ hs)) _).trans hstep
    · exact hstep

end Kept

/-! ## The step of a sub-pipe -/

section Pipe

variable {control : Control} {ctx : Context}

/-- A sub-pipe that is not passed over: its steps are run, their defaults are taken back and their
outcome is only noted. -/
theorem Step.run_pipe (registry : Registry) (position : Position) (steps : List Step)
    (h : control.opens ctx = .ok true) :
    (Step.valid position control (.pipe steps)).run registry ctx =
      let label := control.name.getD position.text
      let inner := runSteps registry steps ctx
      let left := { inner.context with defaults := ctx.defaults }
      let events := .stepStarted position :: inner.events ++ [.subPipeFinished inner.value]
      match control.decides true left with
      | .ok outcome => ⟨outcome, { left with result := outcome },
          events ++ [.stepFinished position label outcome]⟩
      | .error e => ⟨false, { left with result := false },
          events ++ [.stepFailed position label e, .stepFinished position label false]⟩ := by
  rw [Step.run_of_opens position _ h, Content.run_pipe]
  dsimp only
  cases control.decides true { (runSteps registry steps ctx).context with defaults := ctx.defaults }
    with
  | ok outcome => simp
  | error e => simp

variable {ys : List Step}

/-- A sub-pipe whose steps are true, and these steps: what is behind them does the same. -/
theorem runAll_nested (hk : registry.KeepsDefaults) (hr : registry.IgnoresResult) (hys : ys ≠ [])
    (hdefaults : ∀ step ∈ ys, step.setsDefaults = false) (hguard : control.guard = none)
    (hverdict : control.verdict = none) (htrue : (runSteps registry ys ctx).value = true)
    (position : Position) (post : List Step) :
    let nested := runAll registry (.valid position control (.pipe ys) :: post) ctx
    let flat := runAll registry (ys ++ post) ctx
    nested.value = flat.value ∧ nested.context.Alike flat.context ∧
      calls nested.events = calls flat.events := by
  have hopens : control.opens ctx = .ok true := by rw [Control.opens, hguard]
  have hdecides (after : Context) : control.decides true after = .ok true := by
    rw [Control.decides, hverdict]
  rw [runSteps_of_ne_nil hys] at htrue
  have hstep := Step.run_pipe registry position ys hopens
  simp only [hdecides, runSteps_of_ne_nil hys, htrue] at hstep
  -- what the two leave in front of the steps behind differs in the outcome of the last step
  have halike : ((Step.valid position control (.pipe ys)).run registry ctx).context.Alike
      (runAll registry ys ctx).context := by
    rw [hstep]
    exact Context.alike_iff.2 ⟨rfl, (runAll_defaults hk hdefaults ctx).symm, rfl, rfl⟩
  have hvalue : ((Step.valid position control (.pipe ys)).run registry ctx).value = true := by
    rw [hstep]
  have hcalls : calls ((Step.valid position control (.pipe ys)).run registry ctx).events =
      calls (runAll registry ys ctx).events := by
    rw [hstep]
    simp [calls]
  obtain ⟨hv, hc, he⟩ := Report.unflagged_eq_iff.1 (alike_runAll hr post _ _ halike)
  intro nested flat
  have hnested : nested = _ := (runAll_cons _ post ctx).trans (if_pos hvalue)
  have hflat : flat = _ := (runAll_append_apply ys post ctx).trans (if_pos htrue)
  rw [hnested, hflat]
  refine ⟨hv, hc, ?_⟩
  rw [calls_append, calls_append, hcalls, calls_eq_of_unflagged he]

end Pipe

/-- Nesting is transparent but for default parameters and the outcome.  In the middle of a list, a
sub-pipe without a guard and a `result` may be replaced by its steps, if these are true there and
set no default parameters themselves: both lists give the same, leave the same variables, results
and default parameters, and call the same plugins with the same parameters.  Whatever the steps of
a sub-pipe give, its own outcome is true, or exactly what its `result` says of the variables and
results that they have left. -/
theorem runSteps_nested_eq_flat :
    (∀ host, (Registry.builtin host).KeepsDefaults ∧ (Registry.builtin host).IgnoresResult) ∧
    (∀ registry : Registry, registry.KeepsDefaults → registry.IgnoresResult →
      ∀ (pre ys post : List Step) (position : Position) (control : Control) (ctx : Context),
      ys ≠ [] → (∀ step ∈ ys, step.setsDefaults = false) →
      control.guard = none → control.verdict = none →
      ((runAll registry pre ctx).value = true →
        (runSteps registry ys (runAll registry pre ctx).context).value = true) →
      let nested := runSteps registry (pre ++ [.valid position control (.pipe ys)] ++ post) ctx
      let flat := runSteps registry (pre ++ ys ++ post) ctx
      nested.value = flat.value ∧
      nested.context.assigned = flat.context.assigned ∧
      nested.context.registered = flat.context.registered ∧
      nested.context.defaults = flat.context.defaults ∧
      nested.context.request = flat.context.request ∧
      calls nested.events = calls flat.events) ∧
    ∀ (registry : Registry) (position : Position) (control : Control) (steps : List Step)
      (ctx : Context), control.opens ctx = .ok true →
      let label := control.name.getD position.text
      let inner := runSteps registry steps ctx
      let left := { inner.context with defaults := ctx.defaults }
      let events := .stepStarted position :: inner.events ++ [.subPipeFinished inner.value]
      let r := (Step.valid position control (.pipe steps)).run registry ctx
      match control.verdict with
      | none =>
        r = ⟨true, { left with result := true }, events ++ [.stepFinished position label true]⟩
      | some c => match c.holds "result" left with
        | .ok outcome => r = ⟨outcome, { left with result := outcome },
            events ++ [.stepFinished position label outcome]⟩
        | .error e => r = ⟨false, { left with result := false },
            events ++ [.stepFailed position label e, .stepFinished position label false]⟩ := by
  refine ⟨fun host => ⟨Registry.keepsDefaults_builtin host,
    (Registry.readsRequest_builtin host).ignoresResult⟩, ?_, ?_⟩
  · intro registry hk hr pre ys post position control ctx hys hdefaults hguard hverdict htrue
    have hmiddle (nested : List Step) (h : nested ≠ []) :
        runSteps registry (pre ++ nested ++ post) = runAll registry (pre ++ (nested ++ post)) := by
      rw [List.append_assoc, runSteps_of_ne_nil (by simp [h])]
    intro nested flat
    have hnested : nested = _ :=
      (congrFun (hmiddle _ (List.cons_ne_nil _ _)) ctx).trans (runAll_append_apply pre _ ctx)
    have hflat : flat = _ := (congrFun (hmiddle ys hys) ctx).trans (runAll_append_apply pre _ ctx)
    rw [hnested, hflat]
    -- the steps behind play no part when those in front are false
    by_cases hpre : (runAll registry pre ctx).value = true
    · obtain ⟨hv, hc, he⟩ := runAll_nested hk hr hys hdefaults hguard hverdict (htrue hpre)
        position post
      obtain ⟨hrequest, hd, hassigned, hregistered⟩ := Context.alike_iff.1 hc
      rw [if_pos hpre, if_pos hpre]
      refine ⟨hv, hassigned, hregistered, hd, hrequest, ?_⟩
      rw [calls_append, calls_append]
      exact congrArg (calls (runAll registry pre ctx).events ++ ·) he
    · rw [if_neg hpre, if_neg hpre]
      exact ⟨rfl, rfl, rfl, rfl, rfl, rfl⟩
  · intro registry position control steps ctx hopens label inner left events r
    -- the outcome of the list inside is only reported: `verdict` alone decides
    have hr : r = _ := Step.run_pipe _ position steps hopens
    simp only [Control.decides] at hr
    cases hverdict : control.verdict with
    | none => rw [hr, hverdict]
    | some c =>
      rw [hr, hverdict]
      dsimp only
      cases c.holds "result" left with
      | ok outcome => rfl
      | error e => rfl

/-- Steps that assign a variable and log a message; the default of the message is set in a sub-pipe
of its own. -/
def announcing (name : String) : List Step :=
  let here : Position := ⟨"announcing", []⟩
  let free : Control := ⟨none, none, none, none⟩
  [.valid here free (.assign [(name, .bool true)]),
    .valid here free (.pipe [
      .valid here free (.defaults [("log", [("msg", .string name)])]),
      .valid here free (.plugin "log" .null)])]

/-- One announcement between two others, nested and flat, and a sub-pipe whose false outcome is
replaced by that of its `result`. -/
theorem runSteps_announcing :
    (Registry.ofList [Log.plugin]).KeepsDefaults ∧ (Registry.ofList [Log.plugin]).IgnoresResult ∧
    let free : Control := ⟨none, none, none, none⟩
    let nested := runSteps (.ofList [Log.plugin]) (announcing "a" ++
      [.valid ⟨"announcing", []⟩ free (.pipe (announcing "b"))] ++ announcing "c") .empty
    let flat := runSteps (.ofList [Log.plugin]) (announcing "a" ++ announcing "b" ++
      announcing "c") .empty
    nested.value = flat.value ∧ nested.context.assigned = flat.context.assigned ∧
    calls nested.events = calls flat.events ∧ flat.value = true ∧
    flat.context.assigned = [("a", .bool true), ("b", .bool true), ("c", .bool true)] ∧
    (calls flat.events).map (·.2.1) =
      [[("msg", .string "a")], [("msg", .string "b")], [("msg", .string "c")]] ∧
    ((Step.valid ⟨"empty", []⟩ { free with verdict := some (.constant false) } (.pipe [])).run
      (.ofList [Log.plugin]) .empty).value = false := by
  have hk : (Registry.ofList [Log.plugin]).KeepsDefaults := Registry.readsRequest_log.keepsDefaults
  have hr : (Registry.ofList [Log.plugin]).IgnoresResult := Registry.readsRequest_log.ignoresResult
  have hdefaults : ∀ step ∈ announcing "b", step.setsDefaults = false := by decide
  obtain ⟨-, htransparent, hstep⟩ := runSteps_nested_eq_flat
  obtain ⟨hvalue, hassigned, -, -, -, hcalls⟩ := htransparent _ hk hr (announcing "a")
    (announcing "b") (announcing "c") ⟨"announcing", []⟩ ⟨none, none, none, none⟩ .empty
    (List.cons_ne_nil _ _) hdefaults rfl rfl fun _ => rfl
  have hempty := hstep (.ofList [Log.plugin]) ⟨"empty", []⟩
    ⟨none, none, some (.constant false), none⟩ [] .empty rfl
  exact ⟨hk, hr, hvalue, hassigned, hcalls, rfl, rfl, rfl, congrArg Report.value hempty⟩

end Sluice

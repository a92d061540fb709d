import Sluice.Proofs.Running.Pipes
import Sluice.Proofs.Scope.Simulation

/-!
# The contexts on the way of a run

A run changes its context by one write after the other.  Its trail has the context behind every
write, in order, so it passes through all states in between, and ends in the context that the run
leaves.

* `Move` : one write;
* `Step.trail`, `Pipe.trail`, `trailOf`, `pipesTrail` : the trails, computed along a run;
* `Traced` : a trail leads from the start of a run to its end by single moves, and passes through
  every context that a plugin is called in.
-/

namespace Sluice

variable {α β γ : Type}

/-! ## Moves -/

/-- A context and the one behind a single write. -/
inductive Move (registry : Registry) : Context → Context → Prop where
  /-- A variable is assigned. -/
  | assigned (ctx : Context) (name : String) (value : Json) :
    Move registry ctx (ctx.setVariable name value)
  /-- Default parameters of a plugin are set. -/
  | declared (ctx : Context) (plugin : String) (fields : Fields Json) :
    Move registry ctx (ctx.mergeDefaults plugin fields)
  /-- A plugin is called. -/
  | called {name : String} {p : Plugin} (h : registry.get? name = some p) (params : Fields Json)
    (ctx : Context) : Move registry ctx (p.call params ctx).context
  /-- The result of a plugin is kept, together with its outcome. -/
  | kept {name : String} {p : Plugin} (h : registry.get? name = some p) (params : Fields Json)
    (seen ctx : Context) (register : String) :
    Move registry ctx (ctx.register register (Fields.set "result"
      (.bool (p.call params seen).holds) ((p.call params seen).result.getD [])))
  /-- Default parameters are given back. -/
  | restored (ctx : Context) (d : Defaults) : Move registry ctx { ctx with defaults := d }
  /-- A step ends. -/
  | concluded (ctx : Context) (outcome : Bool) : Move registry ctx { ctx with result := outcome }

/-- Moves that follow each other: where they start, the context behind each, and where they end. -/
inductive Trail (registry : Registry) : Context → List Context → Context → Prop where
  | nil (ctx : Context) : Trail registry ctx [] ctx
  | cons {ctx next last : Context} {later : List Context} (move : Move registry ctx next)
    (rest : Trail registry next later last) : Trail registry ctx (next :: later) last

theorem Trail.append {registry : Registry} {ctx middle last : Context} {xs ys : List Context}
    (hxs : Trail registry ctx xs middle) (hys : Trail registry middle ys last) :
    Trail registry ctx (xs ++ ys) last := by
  induction hxs with
  | nil => exact hys
  | cons move _ ih => exact .cons move (ih hys)

/-! ## The trails of runs -/

def assignTrail : List (String × Json) → Context → List Context
  | [], _ => []
  | (name, raw) :: rest, ctx =>
    match Binding.value ctx.view raw with
    | .ok v => ctx.setVariable name v :: assignTrail rest (ctx.setVariable name v)
    | .error _ => []

def declareTrail : List (String × Fields Json) → Context → List Context
  | [], _ => []
  | (plugin, raw) :: rest, ctx =>
    match ctx.bindFields "default" raw with
    | .error _ => []
    | .ok fields => ctx.mergeDefaults plugin fields ::
        declareTrail rest (ctx.mergeDefaults plugin fields)

/-- The trail of keeping an answer, if it is kept. -/
def keepTrail (a : Answer) (ctx : Context) : Option String → List Context
  | none => []
  | some register =>
    [ctx.register register (Fields.set "result" (.bool a.holds) (a.result.getD []))]

def invokeTrail (registry : Registry) (name : String) (raw : Json) (control : Control)
    (ctx : Context) : List Context :=
  match ctx.bindParams name raw with
  | .error _ => []
  | .ok params => match registry.select name params with
    | .ok (some p) =>
      let a := p.call params ctx
      a.context :: keepTrail a a.context control.register
    | _ => []

mutual

/-- The trail of a step. -/
def Step.trail (registry : Registry) : Step → Context → List Context
  | .invalid .., ctx => [{ ctx with result := false }]
  | .valid position control content, ctx =>
    match control.opens ctx with
    | .ok true => content.trail registry control ctx ++
        [((Step.valid position control content).run registry ctx).context]
    | _ => []

def Content.trail (registry : Registry) (control : Control) : Content → Context → List Context
  | .plugin name params, ctx => invokeTrail registry name params control ctx
  | .assign entries, ctx => assignTrail entries ctx
  | .defaults entries, ctx => declareTrail entries ctx
  | .pipe steps, ctx => trailOf registry steps ctx ++
      [{ (runSteps registry steps ctx).context with defaults := ctx.defaults }]

def trailOf (registry : Registry) : List Step → Context → List Context
  | [], _ => []
  | step :: rest, ctx => step.trail registry ctx ++
      if (step.run registry ctx).value then trailOf registry rest (step.run registry ctx).context
      else []

end

def Pipe.trail (registry : Registry) (p : Pipe) (ctx : Context) : List Context :=
  declareTrail p.defaults ctx ++
    (match (setDefaults p.defaults).run ctx with
      | ⟨.ok (), entered, _⟩ => trailOf registry p.steps entered
      | ⟨.error _, _, _⟩ => []) ++
    [(p.run registry ctx).context]

def pipesTrail (registry : Registry) : List Pipe → Context → List Context
  | [], _ => []
  | p :: rest, ctx => p.trail registry ctx ++ pipesTrail registry rest (p.run registry ctx).context

/-! ## Trails lead through runs -/

/-- A trail leads from the start of a run to its end, through every context that a plugin is called
in. -/
structure Traced (registry : Registry) (ctx : Context) (trail : List Context) (r : Report α) :
    Prop where
  leads : Trail registry ctx trail r.context
  passes : ∀ plugin params seen, .pluginCalled plugin params seen ∈ r.events →
    seen ∈ ctx :: trail

section Rules

variable {registry : Registry} {ctx : Context} {xs ys : List Context}

theorem Trail.last_mem {last : Context} (h : Trail registry ctx xs last) : last ∈ ctx :: xs := by
  induction h with
  | nil => exact List.mem_cons_self
  | cons _ _ ih => exact List.mem_cons_of_mem _ ih

theorem Traced.of_quiet {r : Report α} (hcontext : r.context = ctx)
    (hevents : ∀ e ∈ r.events, e.isCall = false) : Traced registry ctx [] r where
  leads := hcontext ▸ .nil _
  passes _ _ _ h := absurd (hevents _ h) Bool.noConfusion

theorem Traced.withValue {r : Report α} (h : Traced registry ctx xs r) (value : β) :
    Traced registry ctx xs ⟨value, r.context, r.events⟩ :=
  ⟨h.leads, h.passes⟩

/-- A run that goes on where another one has ended. -/
theorem Traced.append {r : Report α} {s : Report β} {value : γ} {events : List Event}
    (hr : Traced registry ctx xs r) (hs : Traced registry r.context ys s)
    (hevents : events = r.events ++ s.events) :
    Traced registry ctx (xs ++ ys) ⟨value, s.context, events⟩ where
  leads := hr.leads.append hs.leads
  passes plugin params seen h := by
    rw [hevents, List.mem_append] at h
    rcases h with h | h
    · exact List.mem_append_left ys (hr.passes plugin params seen h)
    · rcases List.mem_cons.1 (hs.passes plugin params seen h) with rfl | hmem
      · exact List.mem_append_left ys hr.leads.last_mem
      · exact List.mem_append_right (ctx :: xs) hmem

/-- A move in front of a run, beside which plugins are called only in the context at the start. -/
theorem Traced.cons {r : Report α} {value : β} {next : Context} {events : List Event}
    (move : Move registry ctx next) (h : Traced registry next xs r)
    (hevents : ∀ plugin params seen, .pluginCalled plugin params seen ∈ events →
      seen = ctx ∨ .pluginCalled plugin params seen ∈ r.events) :
    Traced registry ctx (next :: xs) ⟨value, r.context, events⟩ where
  leads := .cons move h.leads
  passes plugin params seen hmem := by
    rcases hevents plugin params seen hmem with rfl | hmem
    · exact List.mem_cons_self
    · exact List.mem_cons_of_mem _ (h.passes plugin params seen hmem)

/-- One more move, beside which no plugin is called. -/
theorem Traced.snoc {r : Report α} {value : β} {next : Context} {events : List Event}
    (h : Traced registry ctx xs r) (move : Move registry r.context next)
    (hevents : ∀ plugin params seen, .pluginCalled plugin params seen ∈ events →
      .pluginCalled plugin params seen ∈ r.events) :
    Traced registry ctx (xs ++ [next]) ⟨value, next, events⟩ where
  leads := h.leads.append (.cons move (.nil next))
  passes plugin params seen hmem :=
    List.mem_append_left [next] (h.passes plugin params seen (hevents _ _ _ hmem))

end Rules

section Steps

variable {registry : Registry}

theorem traced_assign (entries : List (String × Json)) (ctx : Context) :
    Traced registry ctx (assignTrail entries ctx) ((assign entries).run ctx) := by
  induction entries generalizing ctx with
  | nil => exact .of_quiet rfl (by simp [assign])
  | cons entry rest ih =>
    obtain ⟨name, raw⟩ := entry
    rw [assign_cons_run, assignTrail]
    cases Binding.value ctx.view raw with
    | error e => exact .of_quiet rfl (by simp)
    | ok v =>
      refine .cons (.assigned ctx name v) (ih _) fun plugin params seen h => .inr ?_
      exact (List.mem_cons.1 h).resolve_left Event.noConfusion

theorem traced_setDefaults (entries : List (String × Fields Json)) (ctx : Context) :
    Traced registry ctx (declareTrail entries ctx) ((setDefaults entries).run ctx) := by
  induction entries generalizing ctx with
  | nil => exact .of_quiet rfl (by simp [setDefaults])
  | cons entry rest ih =>
    obtain ⟨plugin, raw⟩ := entry
    rw [setDefaults_cons_run, declareTrail]
    cases ctx.bindFields "default" raw with
    | error e => exact .of_quiet rfl (by simp)
    | ok fields => exact .cons (.declared ctx plugin fields) (ih _) fun _ _ _ h => .inr h

/-- No plugin is called beside the first event of a call. -/
theorem traced_callPlugin {name : String} {p : Plugin} (hp : registry.get? name = some p)
    (params : Fields Json) (ctx : Context) :
    Traced registry ctx [(p.call params ctx).context] (callPlugin p name params ctx) := by
  rw [callPlugin_apply]
  refine .cons (r := ⟨(), _, []⟩) (.called hp params ctx) (.of_quiet rfl (by simp)) ?_
  intro plugin given seen h
  split at h <;> simp at h <;> exact .inl h.2.2

theorem traced_keep {name : String} {p : Plugin} (hp : registry.get? name = some p)
    (params : Fields Json) (seen ctx : Context) (plugin : String) (register? : Option String) :
    Traced registry ctx (keepTrail (p.call params seen) ctx register?)
      (match register? with
        | some register => keep plugin register (p.call params seen) ctx
        | none => ⟨(), ctx, []⟩) := by
  cases register? with
  | none => exact .of_quiet rfl (by simp)
  | some register =>
    dsimp only
    rw [keep_apply]
    refine .cons (.kept hp params seen ctx register) (.of_quiet (r := ⟨(), _, []⟩) rfl (by simp)) ?_
    intro plugin params seen h
    split at h <;> simp at h

theorem traced_invoke (name : String) (raw : Json) (control : Control) (ctx : Context) :
    Traced registry ctx (invokeTrail registry name raw control ctx)
      ((invoke registry name raw control).run ctx) := by
  rw [invoke_run, invokeTrail]
  cases ctx.bindParams name raw with
  | error e => exact .of_quiet rfl (by simp)
  | ok params =>
    dsimp only
    cases hselect : registry.select name params with
    | error e => exact .of_quiet rfl (by simp)
    | ok found => cases found with
      | none => exact .of_quiet rfl (by simp)
      | some p =>
        have hp : registry.get? name = some p := Registry.get?_of_select hselect
        refine (traced_callPlugin hp params ctx).append ?_ rfl
        rw [callPlugin_context]
        exact traced_keep hp params ctx (p.call params ctx).context name control.register

theorem Traced.runSteps {steps : List Step} {ctx : Context} {xs : List Context}
    (h : Traced registry ctx xs (runAll registry steps ctx)) :
    Traced registry ctx xs (runSteps registry steps ctx) := by
  cases steps with
  | nil => exact h.withValue false
  | cons step rest => exact h

mutual

theorem Step.traced_run (ctx : Context) : ∀ step : Step,
    Traced registry ctx (step.trail registry ctx) (step.run registry ctx)
  | .invalid position cause => by
    rw [Step.run_invalid, Step.trail]
    exact .cons (r := ⟨(), _, []⟩) (.concluded ctx false) (.of_quiet rfl (by simp)) (by simp)
  | .valid position control content => by
    have hcontent := content.traced_run control ctx
    rw [Step.trail]
    cases hopens : control.opens ctx with
    | error e =>
      rw [Step.run_of_closed position content (by simp [hopens]), hopens]
      exact .of_quiet rfl (by simp [Event.isCall])
    | ok opened => cases opened with
      | false =>
        rw [Step.run_of_closed position content (by simp [hopens]), hopens]
        exact .of_quiet rfl (by simp [Event.isCall])
      | true =>
        dsimp only
        rw [Step.run_of_opens position content hopens]
        dsimp only
        cases ((content.run registry control).run ctx).value with
        | ok outcome => exact hcontent.snoc (.concluded _ outcome) (by simp)
        | error e => exact hcontent.snoc (.concluded _ false) (by simp)

theorem Content.traced_run (control : Control) (ctx : Context) : ∀ content : Content,
    Traced registry ctx (content.trail registry control ctx)
      ((content.run registry control).run ctx)
  | .plugin name params => by
    rw [Content.run, Content.trail]
    exact traced_invoke name params control ctx
  | .assign entries => by
    rw [Content.run_assign, Content.trail]
    exact (traced_assign entries ctx).withValue _
  | .defaults entries => by
    rw [Content.run_setDefaults, Content.trail]
    exact (traced_setDefaults entries ctx).withValue _
  | .pipe steps => by
    have hsteps := Traced.runSteps (traced_runAll ctx steps)
    rw [Content.run_pipe, Content.trail]
    exact hsteps.snoc (.restored _ ctx.defaults) (by simp)

theorem traced_runAll (ctx : Context) : ∀ steps : List Step,
    Traced registry ctx (trailOf registry steps ctx) (runAll registry steps ctx)
  | [] => by
    rw [trailOf, runAll]
    exact .of_quiet rfl (by simp)
  | step :: rest => by
    have hstep := step.traced_run ctx
    have hrest := traced_runAll (step.run registry ctx).context rest
    rw [runAll_cons, trailOf]
    split
    · exact hstep.append hrest rfl
    · rw [List.append_nil]
      exact hstep

end

theorem traced_runSteps (steps : List Step) (ctx : Context) :
    Traced registry ctx (trailOf registry steps ctx) (runSteps registry steps ctx) :=
  .runSteps (traced_runAll ctx steps)

theorem traced_runInit (steps : List Step) (ctx : Context) :
    Traced registry ctx (trailOf registry steps ctx) (runInit registry steps ctx) := by
  have h : Traced registry ctx (trailOf registry steps ctx) (runSteps registry steps ctx) :=
    traced_runSteps steps ctx
  rw [runInit_apply]
  refine ⟨h.leads, fun plugin params seen hmem => h.passes plugin params seen ?_⟩
  simpa using hmem

/-! ## Pipes -/

theorem Pipe.traced_run (p : Pipe) (ctx : Context) :
    Traced registry ctx (p.trail registry ctx) (p.run registry ctx) := by
  have hdeclared : Traced registry ctx (declareTrail p.defaults ctx)
      ((setDefaults p.defaults).run ctx) := traced_setDefaults p.defaults ctx
  obtain ⟨outcome, d, h⟩ := exists_setDefaults_run p.defaults ctx
  rw [h] at hdeclared
  rw [Pipe.trail, h]
  cases outcome with
  | error e =>
    rw [Pipe.run_of_error h, List.append_nil]
    exact hdeclared.snoc (.restored _ ctx.defaults) (by simp)
  | ok u =>
    have hsteps : Traced registry { ctx with defaults := d }
        (trailOf registry p.steps { ctx with defaults := d })
        (runSteps registry p.steps { ctx with defaults := d }) := traced_runSteps p.steps _
    rw [Pipe.run_of_ok h]
    exact (hdeclared.append hsteps rfl).snoc (.restored _ ctx.defaults) (by simp)

theorem traced_foldlM_run (pipes : List Pipe) (outcome : Bool) (ctx : Context) :
    Traced registry ctx (pipesTrail registry pipes ctx)
      (pipes.foldlM (fun _ p => p.run registry) outcome ctx) := by
  induction pipes generalizing outcome ctx with
  | nil => exact .of_quiet rfl (by simp)
  | cons p rest ih =>
    rw [List.foldlM_cons, Run.bind_apply, pipesTrail]
    exact (p.traced_run ctx).append (ih _ _) rfl

theorem traced_runPipes (pipes : List Pipe) (ctx : Context) :
    Traced registry ctx (pipesTrail registry pipes ctx) (runPipes registry pipes ctx) :=
  traced_foldlM_run pipes false ctx

end Steps

end Sluice

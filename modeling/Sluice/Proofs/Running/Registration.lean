import Sluice.Proofs.Parameters.Accepted
import Sluice.Proofs.Running.Parts
import Sluice.Proofs.Scope.Simulation

/-!
# What a step with a plugin leaves

A step whose guard opens comes to its plugin if the parameters can be bound, the plugin is there and
its schema accepts them; otherwise no plugin is called and the step is false.  Once it has been
called, its answer is kept under the name that `register` gives before the `result` directive is
looked at, so what is kept has the outcome of the plugin and not that of the step.

* `Registry.Reaches` : what it takes to call a plugin;
* `Answer.entry`, `Answer.settled` : what is kept of an answer, and the context in which the
  outcome of the step is decided.
-/

namespace Sluice

/-- What it takes to call a plugin: its parameters can be bound, it is registered, and it accepts
them. -/
structure Registry.Reaches (registry : Registry) (ctx : Context) (name : String) (raw : Json)
    (p : Plugin) (params : Fields Json) : Prop where
  bound : ctx.bindParams name raw = .ok params
  found : registry.get? name = some p
  accepted : p.schema.accepts (.map params) = true

/-- What is kept of an answer: its result, empty if there is none, with the outcome under
`result`. -/
def Answer.entry (a : Answer) : Fields Json :=
  Fields.set "result" (.bool a.holds) (a.result.getD [])

/-- The context that a plugin has left, with its answer kept in it if there is a name for it. -/
def Answer.settled (a : Answer) : Option String → Context
  | none => a.context
  | some register => a.context.register register a.entry

/-! ## What is kept -/

section Kept

variable (a : Answer) (register : Option String)

theorem Answer.get?_entry (key : String) :
    Fields.get? key a.entry =
      if key = "result" then some (.bool a.holds) else Fields.get? key (a.result.getD []) := by
  rw [entry, Fields.get?_set]
  simp only [eq_comm]

theorem Answer.holds_iff : a.holds = true ↔ a.outcome = .ok true := by
  cases h : a.outcome with
  | error e => simp [holds, h]
  | ok b => simp [holds, h]

/-- Keeping an answer changes nothing but the results. -/
theorem Answer.settled_eq :
    a.settled register = { a.context with registered := (a.settled register).registered } := by
  cases register <;> rfl

/-- Of the results, keeping an answer changes the one of its name. -/
theorem Answer.get?_registered_settled (name : String) :
    Fields.get? name (a.settled register).registered =
      if register = some name then some a.entry else Fields.get? name a.context.registered := by
  cases register with
  | none => simp [settled]
  | some register =>
    rw [settled, Context.register, Fields.get?_set]
    simp only [Option.some.injEq]

/-- Keeping an answer calls no plugin. -/
theorem keep_eq (plugin name : String) (ctx : Context) :
    ∃ events, events.filter Event.isCall = [] ∧
      keep plugin name a ctx = ⟨(), ctx.register name a.entry, events⟩ := by
  refine ⟨_, ?_, keep_apply plugin name a ctx⟩
  cases Fields.get? "result" (a.result.getD []) <;> rfl

end Kept

/-! ## Invocations -/

section Invocations

variable {registry : Registry} {ctx : Context} {name : String} {raw : Json} {p : Plugin}
  {params : Fields Json}

theorem Registry.select_eq_some_iff :
    registry.select name params = .ok (some p) ↔
      registry.get? name = some p ∧ p.schema.accepts (.map params) = true := by
  rw [Schema.accepts_iff]
  refine ⟨fun h => ⟨get?_of_select h, ?_⟩, fun ⟨hget, haccepts⟩ => ?_⟩
  · have hget := get?_of_select h
    rw [select, hget] at h
    dsimp only at h
    split at h
    · assumption
    · cases h
  · rw [select, hget]
    dsimp only
    rw [haccepts]

/-- An invocation that does not come to its plugin leaves everything as it is. -/
theorem invoke_run_of_not_reaches (control : Control)
    (h : ¬ ∃ p params, registry.Reaches ctx name raw p params) :
    ∃ e, (invoke registry name raw control).run ctx = ⟨.error e, ctx, []⟩ := by
  rw [invoke_run]
  cases hbound : ctx.bindParams name raw with
  | error e => exact ⟨e, rfl⟩
  | ok params =>
    dsimp only
    cases hselect : registry.select name params with
    | error e => exact ⟨e, rfl⟩
    | ok found =>
      cases found with
      | none => exact ⟨.unknownPredicate name, rfl⟩
      | some p =>
        obtain ⟨hget, haccepts⟩ := Registry.select_eq_some_iff.1 hselect
        exact absurd ⟨p, params, hbound, hget, haccepts⟩ h

theorem filter_isCall_callPlugin (p : Plugin) (name : String) (params : Fields Json)
    (ctx : Context) :
    (callPlugin p name params ctx : Report Answer).events.filter Event.isCall =
      [.pluginCalled name params ctx] := by
  have hlog : ((p.call params ctx).log.map (.pluginLogged name)).filter Event.isCall = [] := by
    rw [List.filter_eq_nil_iff]
    intro e he
    obtain ⟨record, -, rfl⟩ := List.mem_map.1 he
    exact Bool.false_ne_true
  rw [callPlugin_apply]
  dsimp only
  rw [List.filter_append, List.filter_cons_of_pos rfl, hlog]
  cases (p.call params ctx).outcome <;> rfl

/-- An invocation that comes to its plugin calls it once, in the context it has found, and decides
in the context that the answer has been kept in. -/
theorem invoke_run_of_reaches (control : Control) (h : registry.Reaches ctx name raw p params) :
    let a := p.call params ctx
    ∃ events, events.filter Event.isCall = [.pluginCalled name params ctx] ∧
      (invoke registry name raw control).run ctx =
        ⟨control.decides a.holds (a.settled control.register), a.settled control.register,
          events⟩ := by
  intro a
  have hselect : registry.select name params = .ok (some p) :=
    Registry.select_eq_some_iff.2 ⟨h.found, h.accepted⟩
  have hcall := filter_isCall_callPlugin p name params ctx
  rw [invoke_run, h.bound]
  dsimp only
  rw [hselect]
  dsimp only
  cases control.register with
  | none => exact ⟨_, by rw [List.append_nil, hcall], rfl⟩
  | some register =>
    obtain ⟨events, hevents, hkeep⟩ :=
      keep_eq (p.call params ctx) name register (p.call params ctx).context
    dsimp only
    rw [hkeep]
    refine ⟨_, ?_, rfl⟩
    rw [List.filter_append, hcall, hevents, List.append_nil]

end Invocations

/-! ## Steps -/

section Steps

variable {registry : Registry} {control : Control} {ctx : Context}

/-- What decides the outcome of a step: the outcome of its plugin, or that the condition of the step
gives true. -/
theorem Control.decides_eq_true_iff (given : Bool) :
    control.decides given ctx = .ok true ↔
      (control.verdict = none → given = true) ∧
        ∀ c, control.verdict = some c → Binding.value ctx.view c.toJson = .ok (.bool true) := by
  cases hverdict : control.verdict with
  | none => simp [decides, hverdict]
  | some c =>
    simp only [decides, hverdict, Condition.holds]
    cases hvalue : Binding.value ctx.view c.toJson with
    | error e => simp [hvalue]
    | ok v => cases v <;> simp [hvalue]

/-- A step that has done its content is true if this has given true, and false if it has given
anything else. -/
theorem Step.run_of_content (position : Position) (content : Content)
    (hopens : control.opens ctx = .ok true) {outcome : Except StepError Bool} {after : Context}
    {events : List Event}
    (h : (content.run registry control).run ctx = ⟨outcome, after, events⟩) :
    let r := (Step.valid position control content).run registry ctx
    (r.value = true ↔ outcome = .ok true) ∧ r.context = { after with result := r.value } ∧
      r.events.filter Event.isCall = events.filter Event.isCall := by
  dsimp only
  rw [Step.run_of_opens position content hopens, h]
  cases outcome with
  | error e => simp [Event.isCall]
  | ok b => simp [Event.isCall]

/-- A step with a plugin.  If its parameters cannot be bound, or the plugin is not there or does not
accept them, then no plugin is called and the step is false.  Otherwise the plugin is called once;
its answer is kept under the name of the step, with the outcome of the plugin in it, and nothing
else that the plugin has left is changed.  The step is true if the plugin is, or, if the step has a
condition of its own, if this gives true in the context that the answer has been kept in. -/
theorem Step.run_plugin_registers (registry : Registry) (position : Position) (control : Control)
    (name : String) (raw : Json) (ctx : Context) (hopens : control.opens ctx = .ok true) :
    let r := (Step.valid position control (.plugin name raw)).run registry ctx
    let called := r.events.filter Event.isCall
    ((¬ ∃ p params, registry.Reaches ctx name raw p params) →
      called = [] ∧ r.value = false ∧ r.context = { ctx with result := false }) ∧
    ∀ p params, registry.Reaches ctx name raw p params →
      let a := p.call params ctx
      let settled := a.settled control.register
      called = [.pluginCalled name params ctx] ∧
      r.context = { settled with result := r.value } ∧
      settled = { a.context with registered := settled.registered } ∧
      (∀ register, Fields.get? register settled.registered =
        if control.register = some register then some a.entry
        else Fields.get? register a.context.registered) ∧
      (∀ key, Fields.get? key a.entry =
        if key = "result" then some (.bool a.holds) else Fields.get? key (a.result.getD [])) ∧
      (a.holds = true ↔ a.outcome = .ok true) ∧
      (r.value = true ↔
        (control.verdict = none → a.outcome = .ok true) ∧
        ∀ c, control.verdict = some c →
          Binding.value settled.view c.toJson = .ok (.bool true)) := by
  intro r called
  have hcontent : ((Content.plugin name raw).run registry control).run ctx =
      (invoke registry name raw control).run ctx := by rw [Content.run]
  constructor
  · intro h
    -- the parameters or the plugin are missing, so that the step fails before the call
    obtain ⟨e, hinvoke⟩ := invoke_run_of_not_reaches control h
    obtain ⟨hvalue, hcontext, hcalled⟩ :=
      Step.run_of_content position _ hopens (hcontent.trans hinvoke)
    have hfalse : r.value = false := by simpa using hvalue
    exact ⟨hcalled, hfalse, hcontext.trans (by rw [hfalse])⟩
  · intro p params h a settled
    obtain ⟨events, hevents, hinvoke⟩ := invoke_run_of_reaches control h
    obtain ⟨hvalue, hcontext, hcalled⟩ :=
      Step.run_of_content position _ hopens (hcontent.trans hinvoke)
    refine ⟨hcalled.trans hevents, hcontext, a.settled_eq control.register,
      a.get?_registered_settled control.register, a.get?_entry, a.holds_iff, ?_⟩
    rw [hvalue, Control.decides_eq_true_iff, a.holds_iff]

end Steps

/-- A plugin that fails when it has set a variable and got half of its result. -/
def faltering : Plugin :=
  ⟨"falter", .of .object [], fun _ ctx => ⟨.error (.failed "half done"),
    some [("result", .string "none"), ("part", .nat 1)], ctx.setVariable "seen" .null, []⟩⟩

/-- Its half of a result is kept as that of a plugin that has failed, and stays although the
condition of the step gives no boolean.  A plugin that is not there keeps nothing. -/
theorem Step.run_plugin_registers_faltering :
    let registry := Registry.ofList [faltering]
    let control : Control := ⟨none, none, some (.text "so"), some "kept"⟩
    let ctx := Context.empty.register "other" []
    let run (name : String) :=
      (Step.valid ⟨"main", []⟩ control (.plugin name .null)).run registry ctx
    control.opens ctx = .ok true ∧
    registry.Reaches ctx "falter" .null faltering [] ∧
    (¬ ∃ p params, registry.Reaches ctx "stutter" .null p params) ∧
    (run "falter").value = false ∧ (run "falter").context.assigned = [("seen", .null)] ∧
    (run "falter").context.registered =
      [("other", []), ("kept", [("result", .bool false), ("part", .nat 1)])] ∧
    (run "stutter").value = false ∧ (run "stutter").context = ctx := by
  intro registry control ctx run
  have hopens : control.opens ctx = .ok true := rfl
  have hreaches : registry.Reaches ctx "falter" .null faltering [] := ⟨rfl, rfl, rfl⟩
  have hmissing : ¬ ∃ p params, registry.Reaches ctx "stutter" .null p params := by
    rintro ⟨p, params, -, hfound, -⟩
    cases hfound
  have hfalter := (Step.run_plugin_registers registry ⟨"main", []⟩ control "falter" .null ctx
    hopens).2 faltering [] hreaches
  have hstutter := (Step.run_plugin_registers registry ⟨"main", []⟩ control "stutter" .null ctx
    hopens).1 hmissing
  obtain ⟨-, hcontext, -, -, -, -, hvalue⟩ := hfalter
  obtain ⟨-, hfalse, hsame⟩ := hstutter
  have hverdict : ¬ (run "falter").value = true := by
    rw [show (run "falter").value = true ↔ _ from hvalue]
    rintro ⟨-, hcondition⟩
    have htrue := hcondition (.text "so") rfl
    cases htrue
  refine ⟨hopens, hreaches, hmissing, by simpa using hverdict, ?_, ?_, hfalse, hsame⟩
  · exact congrArg Context.assigned hcontext
  · exact congrArg Context.registered hcontext

end Sluice

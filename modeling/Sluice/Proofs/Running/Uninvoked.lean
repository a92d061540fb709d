import Sluice.Proofs.Running.Coupling
import Sluice.Proofs.Scope.Builtin

/-!
# Default parameters of plugins that no step invokes

Default parameters are for their own plugin.  Where no step invokes a plugin, runs from contexts
that differ in its default parameters make the same calls, give the same, and leave contexts that
again differ in nothing else, whatever `default` entries there are for it on the way.

* `Context.AgreeBut q` : contexts that agree on everything but the default parameters of `q`;
* `IgnoresDefaults` : plugins that neither read nor write default parameters.
-/

namespace Sluice

/-- Contexts that agree on everything but the default parameters of one plugin. -/
structure Context.AgreeBut (q : String) (ctx ctx' : Context) : Prop where
  request : ctx.request = ctx'.request
  assigned : ctx.assigned = ctx'.assigned
  registered : ctx.registered = ctx'.registered
  result : ctx.result = ctx'.result
  defaultsFor : ∀ plugin, plugin ≠ q → ctx.defaultsFor plugin = ctx'.defaultsFor plugin

/-- Whether a plugin neither reads nor writes the default parameters of a context. -/
def Plugin.IgnoresDefaults (p : Plugin) : Prop :=
  ∀ params ctx d, p.call params { ctx with defaults := d } =
    let a := p.call params ctx
    { a with context := { a.context with defaults := d } }

/-- Whether no plugin of a registry reads or writes them. -/
def Registry.IgnoresDefaults (registry : Registry) : Prop :=
  ∀ name p, registry.get? name = some p → p.IgnoresDefaults

/-- The plugin that an event has called, and its parameters. -/
def Event.invocation? : Event → Option (String × Fields Json)
  | .pluginCalled plugin params _ => some (plugin, params)
  | _ => none

/-- The calls of plugins among events, in order. -/
def invocations (events : List Event) : List (String × Fields Json) :=
  events.filterMap Event.invocation?

theorem Registry.ReadsRequest.ignoresDefaults {registry : Registry} (h : registry.ReadsRequest) :
    registry.IgnoresDefaults := by
  intro name p hp params ctx d
  have hcall := h name p hp
  rw [hcall params ctx, hcall params { ctx with defaults := d }]

/-! ## Agreement is kept -/

section Agreement

variable {q : String} {ctx ctx' : Context}

theorem Context.AgreeBut.view_eq (h : AgreeBut q ctx ctx') : ctx.view = ctx'.view := by
  rw [view, view, h.request, h.assigned, h.registered]

theorem Context.AgreeBut.mergeDefaults (plugin : String) (fields : Fields Json)
    (h : AgreeBut q ctx ctx') :
    AgreeBut q (ctx.mergeDefaults plugin fields) (ctx'.mergeDefaults plugin fields) where
  request := h.request
  assigned := h.assigned
  registered := h.registered
  result := h.result
  defaultsFor other hother := by
    rw [defaultsFor_mergeDefaults, defaultsFor_mergeDefaults, h.defaultsFor other hother]
    split
    · next heq => rw [heq, h.defaultsFor other hother]
    · rfl

/-- A plugin that ignores default parameters answers alike, and leaves those that it has found. -/
theorem Plugin.IgnoresDefaults.answer_coupled {p : Plugin} (hp : p.IgnoresDefaults)
    (params : Fields Json) (h : ctx.AgreeBut q ctx') :
    (p.call params ctx).Coupled (Context.AgreeBut q) (p.call params ctx') := by
  obtain ⟨d, rfl⟩ : ∃ d, ctx' = { ctx with defaults := d } :=
    ⟨ctx'.defaults, by rw [h.request, h.assigned, h.registered, h.result]⟩
  have hdefaults : (p.call params ctx).context.defaults = ctx.defaults :=
    congrArg (·.context.defaults) (hp params ctx ctx.defaults)
  rw [hp params ctx d]
  refine ⟨rfl, rfl, rfl, rfl, rfl, rfl, rfl, fun plugin hplugin => ?_⟩
  rw [Context.defaultsFor, hdefaults]
  exact h.defaultsFor plugin hplugin

/-- Steps that do not invoke a plugin do not tell contexts apart that differ in its default
parameters. -/
theorem Context.coupling_agreeBut {registry : Registry} (hr : registry.IgnoresDefaults)
    (q : String) : Coupling registry (· ≠ q) (AgreeBut q) where
  view_eq := AgreeBut.view_eq
  defaultsFor_eq h hplugin := h.defaultsFor _ hplugin
  setVariable name value h := ⟨h.request, congrArg (Fields.set name value) h.assigned,
    h.registered, h.result, h.defaultsFor⟩
  register name result h := ⟨h.request, h.assigned,
    congrArg (Fields.set name result) h.registered, h.result, h.defaultsFor⟩
  mergeDefaults := AgreeBut.mergeDefaults
  conclude _ h := ⟨h.request, h.assigned, h.registered, rfl, h.defaultsFor⟩
  restore h h' := ⟨h'.request, h'.assigned, h'.registered, h'.result, h.defaultsFor⟩
  answer params hp _ h := (hr _ _ hp).answer_coupled params h

theorem Event.Coupled.invocation?_eq {rel : Context → Context → Prop} {e e' : Event}
    (h : e.Coupled rel e') : e.invocation? = e'.invocation? := by
  cases h <;> rfl

theorem invocations_eq_of_coupled {rel : Context → Context → Prop} {es fs : List Event}
    (h : List.Forall₂ (Event.Coupled rel) es fs) : invocations es = invocations fs := by
  induction h with
  | nil => rfl
  | @cons e e' _ _ hevent _ ih =>
    rw [invocations, invocations, List.filterMap_cons, List.filterMap_cons, hevent.invocation?_eq]
    cases e'.invocation? with
    | none => exact ih
    | some call => exact congrArg (call :: ·) ih

end Agreement

/-- Default parameters of a plugin affect nothing but this plugin.  Where no step of the pipes
invokes it, contexts that agree on everything but its default parameters cannot be told apart: the
runs call the same plugins with the same parameters in the same order, give the same and leave the
same variables, results and outcome of the last step, and the contexts that they leave and hand to
plugins agree on everything but these default parameters again. -/
theorem runPipes_eq_of_agreeBut :
    (∀ host, (Registry.builtin host).IgnoresDefaults) ∧
    ∀ registry : Registry, registry.IgnoresDefaults → ∀ (config : Config) (q : String),
      (∀ p ∈ config.pipes, q ∉ p.plugins) → ∀ ctx ctx' : Context, ctx.AgreeBut q ctx' →
      let r := runPipes registry config.pipes ctx
      let r' := runPipes registry config.pipes ctx'
      invocations r.events = invocations r'.events ∧
      r.value = r'.value ∧
      r.context.assigned = r'.context.assigned ∧
      r.context.registered = r'.context.registered ∧
      r.context.result = r'.context.result ∧
      r.context.AgreeBut q r'.context ∧
      List.Forall₂ (Event.Coupled (Context.AgreeBut q)) r.events r'.events := by
  refine ⟨fun host => (Registry.readsRequest_builtin host).ignoresDefaults, ?_⟩
  intro registry hr config q hq ctx ctx' hctx r r'
  have hnames : ∀ p ∈ config.pipes, ∀ name ∈ p.plugins, name ≠ q :=
    fun p hp name hname heq => hq p hp (heq ▸ hname)
  obtain ⟨hv, hc, he⟩ :=
    coupled_runPipes (Context.coupling_agreeBut hr q) config.pipes hnames ctx ctx' hctx
  exact ⟨invocations_eq_of_coupled he, hv, hc.assigned, hc.registered, hc.result, hc, he⟩

/-- A pipe with defaults for two plugins, of which only one is invoked. -/
def halfUsed : Config :=
  let free : Control := ⟨none, none, none, none⟩
  ⟨none, [⟨none, ⟨"half", []⟩, [("header", [("name", .string "a")])], [
    .valid ⟨"half", [.item 0]⟩ free (.defaults [("header", [("value", .string "b")]),
      ("log", [("msg", .string "hello")])]),
    .valid ⟨"half", [.item 1]⟩ free (.plugin "log" .null)]⟩]⟩

/-- Whatever default the other one has at the start, the message is the same. -/
theorem runPipes_halfUsed :
    (Registry.ofList [Log.plugin]).IgnoresDefaults ∧ (∀ p ∈ halfUsed.pipes, "header" ∉ p.plugins) ∧
    let seeded := Context.empty.mergeDefaults "header" [("name", .string "c")]
    Context.empty.AgreeBut "header" seeded ∧ seeded.defaultsFor "header" ≠ [] ∧
    let r := runPipes (.ofList [Log.plugin]) halfUsed.pipes .empty
    let r' := runPipes (.ofList [Log.plugin]) halfUsed.pipes seeded
    r.value = true ∧ r'.value = true ∧
    invocations r.events = [("log", [("msg", .string "hello")])] ∧
    invocations r'.events = [("log", [("msg", .string "hello")])] := by
  have hr : (Registry.ofList [Log.plugin]).IgnoresDefaults :=
    Registry.readsRequest_log.ignoresDefaults
  have hq : ∀ p ∈ halfUsed.pipes, "header" ∉ p.plugins := by decide
  have hagree : Context.empty.AgreeBut "header"
      (Context.empty.mergeDefaults "header" [("name", .string "c")]) := by
    refine ⟨rfl, rfl, rfl, rfl, fun plugin hplugin => ?_⟩
    rw [Context.defaultsFor_mergeDefaults, if_neg hplugin.symm]
  obtain ⟨hcalls, hvalue, -⟩ :=
    runPipes_eq_of_agreeBut.2 _ hr halfUsed "header" hq .empty _ hagree
  exact ⟨hr, hq, hagree, by decide, rfl, hvalue.symm, rfl, hcalls.symm⟩

end Sluice

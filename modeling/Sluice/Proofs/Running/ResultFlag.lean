import Sluice.Proofs.Running.Coupling
import Sluice.Proofs.Scope.Builtin

/-!
# The outcome of the last step

A context holds the outcome of the last step, and no step reads it: with plugins that ignore it,
runs from contexts that differ in it do the same, up to this outcome in the contexts that they
leave and hand to plugins.

* `unflagged` forgets the outcome, in contexts, events, reports and answers;
* `Alike x y` : from contexts that differ in the outcome, `x` and `y` do the same.
-/

namespace Sluice

variable {α : Type}

/-- A context without the outcome of the last step. -/
def Context.unflagged (ctx : Context) : Context := { ctx with result := false }

def Event.unflagged : Event → Event
  | .pluginCalled plugin params ctx => .pluginCalled plugin params ctx.unflagged
  | e => e

def Report.unflagged (r : Report α) : Report α :=
  ⟨r.value, r.context.unflagged, r.events.map Event.unflagged⟩

def Answer.unflagged (a : Answer) : Answer := { a with context := a.context.unflagged }

/-- Contexts that differ at most in the outcome of the last step. -/
def Context.Alike (ctx ctx' : Context) : Prop := ctx.unflagged = ctx'.unflagged

/-- From contexts that differ in the outcome of the last step, the runs do the same. -/
def Alike (x y : Run α) : Prop :=
  ∀ ctx ctx', ctx.Alike ctx' → (x ctx).unflagged = (y ctx').unflagged

/-- Whether a plugin answers the same whatever the outcome of the last step. -/
def Plugin.IgnoresResult (p : Plugin) : Prop :=
  ∀ params ctx, (p.call params ctx).unflagged = (p.call params ctx.unflagged).unflagged

def Registry.IgnoresResult (registry : Registry) : Prop :=
  ∀ name p, registry.get? name = some p → p.IgnoresResult

/-! ## Contexts -/

section Contexts

variable {ctx ctx' : Context}

theorem Context.alike_iff :
    ctx.Alike ctx' ↔ ctx.request = ctx'.request ∧ ctx.defaults = ctx'.defaults ∧
      ctx.assigned = ctx'.assigned ∧ ctx.registered = ctx'.registered := by
  simp [Context.Alike, Context.unflagged]

theorem Context.Alike.view_eq (h : ctx.Alike ctx') : ctx.view = ctx'.view := by
  obtain ⟨hrequest, -, hassigned, hregistered⟩ := alike_iff.1 h
  rw [view, view, hrequest, hassigned, hregistered]

theorem Context.Alike.defaultsFor_eq (h : ctx.Alike ctx') (plugin : String) :
    ctx.defaultsFor plugin = ctx'.defaultsFor plugin := by
  rw [defaultsFor, defaultsFor, (alike_iff.1 h).2.1]

theorem Report.unflagged_eq_iff {r r' : Report α} :
    r.unflagged = r'.unflagged ↔ r.value = r'.value ∧ r.context.Alike r'.context ∧
      r.events.map Event.unflagged = r'.events.map Event.unflagged := by
  simp [unflagged, Context.Alike]

theorem Answer.unflagged_eq_iff {a a' : Answer} :
    a.unflagged = a'.unflagged ↔ a.outcome = a'.outcome ∧ a.result = a'.result ∧
      a.context.Alike a'.context ∧ a.log = a'.log := by
  simp [unflagged, Context.Alike]

theorem Plugin.IgnoresResult.call_eq {p : Plugin} (hp : p.IgnoresResult) (params : Fields Json)
    (h : ctx.Alike ctx') : (p.call params ctx).unflagged = (p.call params ctx').unflagged := by
  rw [hp params ctx, hp params ctx', h]

end Contexts

/-! ## Runs -/

section Runs

variable {registry : Registry}

/-- Steps do not tell contexts apart that differ in the outcome of the last step. -/
theorem Context.coupling_alike (hr : registry.IgnoresResult) :
    Coupling registry (fun _ => True) Alike where
  view_eq := Alike.view_eq
  defaultsFor_eq h _ := h.defaultsFor_eq _
  setVariable name value h := congrArg (fun c : Context => c.setVariable name value) h
  register name result h := congrArg (fun c : Context => c.register name result) h
  mergeDefaults plugin fields h := congrArg (fun c : Context => c.mergeDefaults plugin fields) h
  conclude _ h := h
  restore h h' := by
    obtain ⟨hrequest, -, hassigned, hregistered⟩ := alike_iff.1 h'
    exact alike_iff.2 ⟨hrequest, (alike_iff.1 h).2.1, hassigned, hregistered⟩
  answer params hp _ h := by
    obtain ⟨houtcome, hresult, hcontext, hlog⟩ :=
      Answer.unflagged_eq_iff.1 ((hr _ _ hp).call_eq params h)
    exact ⟨houtcome, hresult, hlog, hcontext⟩

theorem Event.unflagged_of_coupled {e e' : Event} (h : e.Coupled Context.Alike e') :
    e.unflagged = e'.unflagged := by
  cases h with
  | called plugin params h => exact congrArg (Event.pluginCalled plugin params) h
  | noted quiet => rfl

theorem alike_of_coupled {x y : Run α} (h : Run.Coupled Context.Alike Eq x y) : Alike x y := by
  intro ctx ctx' hctx
  obtain ⟨hv, hc, he⟩ := h ctx ctx' hctx
  refine Report.unflagged_eq_iff.2 ⟨hv, hc, ?_⟩
  rw [← List.forall₂_eq_eq_eq, List.forall₂_map_left_iff, List.forall₂_map_right_iff]
  exact he.imp fun _ _ => Event.unflagged_of_coupled

theorem Registry.ReadsRequest.ignoresResult (h : registry.ReadsRequest) :
    registry.IgnoresResult := by
  intro name p hp params ctx
  have hrequest : ctx.unflagged.request = ctx.request := rfl
  rw [h name p hp params ctx, h name p hp params ctx.unflagged, hrequest]
  rfl

theorem alike_runAll (hr : registry.IgnoresResult) (steps : List Step) :
    Alike (runAll registry steps) (runAll registry steps) :=
  alike_of_coupled (coupled_runAll (Context.coupling_alike hr) steps fun _ _ => trivial)

end Runs

end Sluice

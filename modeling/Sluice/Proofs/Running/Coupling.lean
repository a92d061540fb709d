import Mathlib.Data.List.Forall2
import Sluice.Proofs.Binding.Parameters
import Sluice.Proofs.Running.Pipes
import Sluice.Proofs.Scope.Simulation

/-!
# Two runs side by side

Two runs of the same pipes, from contexts that may differ in what their steps do not read.  A
relation between contexts is a `Coupling` for some plugins if related contexts look the same to
everything that reads them and stay related by everything that writes them.  Then whole runs from
related contexts give the same, leave related contexts, and note the same events up to the contexts
that plugins are called in.

* `Coupling` : what a relation between contexts has to do;
* `Run.Coupled` : runs that give related values and leave related contexts;
* `Step.plugins`, `Pipe.plugins` : the plugins that steps invoke, at any depth.
-/

namespace Sluice

variable {α β γ δ : Type}

/-! ## Plugins of steps -/

mutual

/-- The plugins that a step invokes, at any depth. -/
def Step.plugins : Step → List String
  | .invalid .. => []
  | .valid _ _ content => content.plugins

def Content.plugins : Content → List String
  | .plugin name _ => [name]
  | .assign _ => []
  | .defaults _ => []
  | .pipe steps => pluginsOf steps

def pluginsOf : List Step → List String
  | [] => []
  | step :: rest => step.plugins ++ pluginsOf rest

end

def Pipe.plugins (p : Pipe) : List String := pluginsOf p.steps

/-! ## Couplings -/

/-- Answers that are the same up to the contexts that they leave. -/
structure Answer.Coupled (rel : Context → Context → Prop) (a b : Answer) : Prop where
  outcome_eq : a.outcome = b.outcome
  result_eq : a.result = b.result
  log_eq : a.log = b.log
  context : rel a.context b.context

/-- Events that are the same up to the contexts that plugins are called in. -/
inductive Event.Coupled (rel : Context → Context → Prop) : Event → Event → Prop where
  | called (plugin : String) (params : Fields Json) {ctx ctx' : Context} (h : rel ctx ctx') :
    Coupled rel (.pluginCalled plugin params ctx) (.pluginCalled plugin params ctx')
  | noted {e : Event} (quiet : e.isCall = false) : Coupled rel e e

/-- Runs of which the second one goes like the first one, if the contexts they start in are related:
the values are related by `val`, the contexts are related again, and so are the events. -/
def Run.Coupled (rel : Context → Context → Prop) (val : α → β → Prop) (x : Run α) (y : Run β) :
    Prop :=
  ∀ ctx ctx', rel ctx ctx' → val (x ctx).value (y ctx').value ∧
    rel (x ctx).context (y ctx').context ∧
    List.Forall₂ (Event.Coupled rel) (x ctx).events (y ctx').events

/-- A relation between contexts that look the same to steps with plugins of some names, and that no
step breaks. -/
structure Coupling (registry : Registry) (invoked : String → Prop)
    (rel : Context → Context → Prop) : Prop where
  view_eq {ctx ctx'} : rel ctx ctx' → ctx.view = ctx'.view
  defaultsFor_eq {ctx ctx' plugin} : rel ctx ctx' → invoked plugin →
    ctx.defaultsFor plugin = ctx'.defaultsFor plugin
  setVariable {ctx ctx'} (name value) : rel ctx ctx' →
    rel (ctx.setVariable name value) (ctx'.setVariable name value)
  register {ctx ctx'} (name result) : rel ctx ctx' →
    rel (ctx.register name result) (ctx'.register name result)
  mergeDefaults {ctx ctx'} (plugin fields) : rel ctx ctx' →
    rel (ctx.mergeDefaults plugin fields) (ctx'.mergeDefaults plugin fields)
  conclude {ctx ctx'} (outcome) : rel ctx ctx' →
    rel { ctx with result := outcome } { ctx' with result := outcome }
  restore {before before' after after'} : rel before before' → rel after after' →
    rel { after with defaults := before.defaults } { after' with defaults := before'.defaults }
  answer {ctx ctx' plugin p} (params) : registry.get? plugin = some p → invoked plugin →
    rel ctx ctx' → (p.call params ctx).Coupled rel (p.call params ctx')

/-! ## Rules -/

section Rules

variable {rel : Context → Context → Prop} {val : α → β → Prop}

theorem Answer.Coupled.holds_eq {a b : Answer} (h : a.Coupled rel b) : a.holds = b.holds := by
  rw [holds, holds, h.outcome_eq]

theorem coupled_pure {a : α} {b : β} (h : val a b) : Run.Coupled rel val (pure a) (pure b) :=
  fun _ _ hrel => ⟨h, hrel, .nil⟩

theorem coupled_context : Run.Coupled rel rel Run.context Run.context :=
  fun _ _ hrel => ⟨hrel, hrel, .nil⟩

theorem coupled_event {e e' : Event} (h : e.Coupled rel e') :
    Run.Coupled rel Eq (Run.note e) (Run.note e') :=
  fun _ _ hrel => ⟨rfl, hrel, .cons h .nil⟩

theorem coupled_note {e : Event} (quiet : e.isCall = false) :
    Run.Coupled rel Eq (Run.note e) (Run.note e) :=
  coupled_event (.noted quiet)

theorem coupled_noteLog (plugin : String) (log : List Record) :
    Run.Coupled rel Eq (Run.noteAll (log.map (.pluginLogged plugin)))
      (Run.noteAll (log.map (.pluginLogged plugin))) := by
  refine fun _ _ hrel => ⟨rfl, hrel, List.forall₂_same.2 fun e he => ?_⟩
  obtain ⟨record, -, rfl⟩ := List.mem_map.1 he
  exact .noted rfl

theorem coupled_update {f g : Context → Context}
    (h : ∀ ctx ctx', rel ctx ctx' → rel (f ctx) (g ctx')) :
    Run.Coupled rel Eq (Run.update f) (Run.update g) :=
  fun ctx ctx' hrel => ⟨rfl, h ctx ctx' hrel, .nil⟩

theorem Run.Coupled.bind {x : Run α} {y : Run β} {f : α → Run γ} {g : β → Run δ}
    {val' : γ → δ → Prop} (hx : Coupled rel val x y)
    (hf : ∀ a b, val a b → Coupled rel val' (f a) (g b)) :
    Coupled rel val' (x >>= f) (y >>= g) := by
  intro ctx ctx' hrel
  obtain ⟨hv, hc, he⟩ := hx ctx ctx' hrel
  obtain ⟨hv', hc', he'⟩ := hf _ _ hv _ _ hc
  exact ⟨hv', hc', List.rel_append he he'⟩

/-- Runs with the same values, followed by the same. -/
theorem Run.Coupled.bindEq {x y : Run α} {f g : α → Run β} (hx : Coupled rel Eq x y)
    (hf : ∀ a, Coupled rel Eq (f a) (g a)) : Coupled rel Eq (x >>= f) (y >>= g) :=
  hx.bind fun a _ h => h ▸ hf a

/-! ### Runs that may fail -/

theorem coupled_of (x : Except StepError α) :
    Run.Coupled rel Eq (Attempt.of x).run (Attempt.of x).run :=
  coupled_pure rfl

theorem Run.Coupled.bindAttempt {x y : Attempt α} {f g : α → Attempt β}
    (hx : Coupled rel Eq x.run y.run) (hf : ∀ a, Coupled rel Eq (f a).run (g a).run) :
    Coupled rel Eq (x >>= f).run (y >>= g).run :=
  hx.bindEq fun r => by
    cases r with
    | ok a => exact hf a
    | error e => exact coupled_pure rfl

theorem Run.Coupled.bindLift {x : Run α} {y : Run β} {f : α → Attempt γ} {g : β → Attempt γ}
    (hx : Coupled rel val x y) (hf : ∀ a b, val a b → Coupled rel Eq (f a).run (g b).run) :
    Coupled rel Eq (ExceptT.lift x >>= f : Attempt γ).run
      (ExceptT.lift y >>= g : Attempt γ).run := by
  rw [ExceptT.run_bind_lift, ExceptT.run_bind_lift]
  exact hx.bind hf

theorem Run.Coupled.bindLiftEq {x y : Run α} {f g : α → Attempt β} (hx : Coupled rel Eq x y)
    (hf : ∀ a, Coupled rel Eq (f a).run (g a).run) :
    Coupled rel Eq (ExceptT.lift x >>= f : Attempt β).run
      (ExceptT.lift y >>= g : Attempt β).run :=
  hx.bindLift fun a _ h => h ▸ hf a

end Rules

/-! ## What is read -/

section Reading

variable {ctx ctx' : Context}

theorem Condition.holds_of_view_eq (h : ctx.view = ctx'.view) (directive : String)
    (c : Condition) : c.holds directive ctx = c.holds directive ctx' := by
  rw [holds, holds, h]

theorem Control.opens_of_view_eq (h : ctx.view = ctx'.view) (control : Control) :
    control.opens ctx = control.opens ctx' := by
  simp only [opens, Condition.holds_of_view_eq h]

theorem Control.decides_of_view_eq (h : ctx.view = ctx'.view) (control : Control) (given : Bool) :
    control.decides given ctx = control.decides given ctx' := by
  simp only [decides, Condition.holds_of_view_eq h]

end Reading

/-! ## Steps -/

section Steps

variable {registry : Registry} {invoked : String → Prop} {rel : Context → Context → Prop}

theorem coupled_assign (hc : Coupling registry invoked rel) (entries : List (String × Json)) :
    Run.Coupled rel Eq (assign entries).run (assign entries).run := by
  induction entries with
  | nil => exact coupled_pure rfl
  | cons entry rest ih =>
    obtain ⟨name, raw⟩ := entry
    refine coupled_context.bindLift fun ctx ctx' hrel => ?_
    rw [hc.view_eq hrel]
    refine (coupled_of _).bindAttempt fun value => (coupled_note rfl).bindLiftEq fun _ => ?_
    exact (coupled_update fun _ _ => hc.setVariable name value).bindLiftEq fun _ => ih

theorem coupled_setDefaults (hc : Coupling registry invoked rel)
    (entries : List (String × Fields Json)) :
    Run.Coupled rel Eq (setDefaults entries).run (setDefaults entries).run := by
  induction entries with
  | nil => exact coupled_pure rfl
  | cons entry rest ih =>
    obtain ⟨plugin, raw⟩ := entry
    refine coupled_context.bindLift fun ctx ctx' hrel => ?_
    rw [Context.bindFields_of_view_eq (hc.view_eq hrel)]
    refine (coupled_of _).bindAttempt fun fields => ?_
    exact (coupled_update fun _ _ => hc.mergeDefaults plugin fields).bindLiftEq fun _ => ih

theorem coupled_keep (hc : Coupling registry invoked rel) (plugin register : String)
    {a b : Answer} (h : a.Coupled rel b) :
    Run.Coupled rel Eq (keep plugin register a) (keep plugin register b) := by
  rw [keep, keep, h.result_eq, h.holds_eq]
  dsimp only
  have hupdate (result : Fields Json) :
      Run.Coupled rel Eq (Run.update (·.register register result))
        (Run.update (·.register register result)) :=
    coupled_update fun _ _ => hc.register register result
  cases Fields.get? "result" (b.result.getD []) with
  | none => exact hupdate _
  | some discarded => exact (coupled_note rfl).bindEq fun _ => hupdate _

theorem coupled_conclude (hc : Coupling registry invoked rel) (position : Position)
    (label : String) (outcome : Bool) :
    Run.Coupled rel Eq (conclude position label outcome) (conclude position label outcome) := by
  refine (coupled_note rfl).bindEq fun _ => ?_
  exact (coupled_update fun _ _ => hc.conclude outcome).bindEq fun _ => coupled_pure rfl

theorem Run.Coupled.withDefaultsRestored (hc : Coupling registry invoked rel) {x y : Run α}
    (h : Coupled rel Eq x y) :
    Coupled rel Eq (withDefaultsRestored x) (withDefaultsRestored y) := by
  refine coupled_context.bind fun before before' hbefore => h.bindEq fun a => ?_
  exact (coupled_update fun _ _ => hc.restore hbefore).bindEq fun _ => coupled_pure rfl

theorem coupled_callPlugin (hc : Coupling registry invoked rel) {name : String} {p : Plugin}
    (hp : registry.get? name = some p) (hname : invoked name) (params : Fields Json) :
    Run.Coupled rel (Answer.Coupled rel) (callPlugin p name params) (callPlugin p name params) := by
  refine coupled_context.bind fun ctx ctx' hrel => ?_
  have ha := hc.answer params hp hname hrel
  refine (coupled_event (.called name params hrel)).bind fun _ _ _ => ?_
  refine (coupled_update fun _ _ _ => ha.context).bind fun _ _ _ => ?_
  rw [ha.log_eq, ha.outcome_eq]
  refine (coupled_noteLog name _).bind fun _ _ _ => ?_
  cases (p.call params ctx').outcome with
  | error e => exact (coupled_note rfl).bind fun _ _ _ => coupled_pure ha
  | ok b => exact coupled_pure ha

/-- What a step says of the context behind its plugin. -/
theorem coupled_decides (hc : Coupling registry invoked rel) (control : Control) (given : Bool) :
    Run.Coupled rel Eq
      (do Attempt.of (control.decides given (← Run.context)) : Attempt Bool).run
      (do Attempt.of (control.decides given (← Run.context)) : Attempt Bool).run := by
  refine coupled_context.bindLift fun ctx ctx' hrel => ?_
  rw [Control.decides_of_view_eq (hc.view_eq hrel)]
  exact coupled_of _

theorem coupled_invoke (hc : Coupling registry invoked rel) {name : String} (hname : invoked name)
    (raw : Json) (control : Control) :
    Run.Coupled rel Eq (invoke registry name raw control).run
      (invoke registry name raw control).run := by
  refine coupled_context.bindLift fun ctx ctx' hrel => ?_
  rw [Context.bindParams_of_view_eq (hc.view_eq hrel) (hc.defaultsFor_eq hrel hname)]
  refine (coupled_of _).bindAttempt fun params => ?_
  cases hselect : registry.select name params with
  | error e => exact coupled_pure rfl
  | ok found => cases found with
    | none => exact coupled_pure rfl
    | some p =>
      have hp : registry.get? name = some p := Registry.get?_of_select hselect
      refine (coupled_callPlugin hc hp hname params).bindLift fun a b hab => ?_
      rw [hab.holds_eq]
      cases control.register with
      | none => exact coupled_decides hc control b.holds
      | some register =>
        refine (coupled_keep hc name register hab).bindLiftEq fun _ => ?_
        exact coupled_decides hc control b.holds

mutual

theorem Step.coupled_run (hc : Coupling registry invoked rel) : ∀ step : Step,
    (∀ name ∈ step.plugins, invoked name) →
    Run.Coupled rel Eq (step.run registry) (step.run registry)
  | .invalid position cause, _ => by
    rw [Step.run]
    refine (coupled_note rfl).bindEq fun _ => (coupled_note rfl).bindEq fun _ => ?_
    exact coupled_conclude hc position _ false
  | .valid position control content, h => by
    have hcontent := content.coupled_run hc control h
    rw [Step.run]
    refine (coupled_note rfl).bindEq fun _ => coupled_context.bind fun ctx ctx' hrel => ?_
    rw [Control.opens_of_view_eq (hc.view_eq hrel)]
    cases control.opens ctx' with
    | error e => exact (coupled_note rfl).bindEq fun _ => coupled_pure rfl
    | ok opened => cases opened with
      | false => exact (coupled_note rfl).bindEq fun _ => coupled_pure rfl
      | true =>
        refine hcontent.bindEq fun r => ?_
        cases r with
        | ok outcome => exact coupled_conclude hc position _ outcome
        | error e =>
          exact (coupled_note rfl).bindEq fun _ => coupled_conclude hc position _ false

theorem Content.coupled_run (hc : Coupling registry invoked rel) (control : Control) :
    ∀ content : Content, (∀ name ∈ content.plugins, invoked name) →
    Run.Coupled rel Eq (content.run registry control).run (content.run registry control).run
  | .plugin name params, h => by
    rw [Content.run]
    exact coupled_invoke hc (h name (List.mem_singleton.2 rfl)) params control
  | .assign entries, _ => by
    rw [Content.run]
    exact (coupled_assign hc entries).bindAttempt fun _ => coupled_pure rfl
  | .defaults entries, _ => by
    rw [Content.run]
    exact (coupled_setDefaults hc entries).bindAttempt fun _ => coupled_pure rfl
  | .pipe steps, h => by
    have hsteps := coupled_runAll hc steps h
    rw [Content.run]
    refine Run.Coupled.bindLiftEq (.withDefaultsRestored hc ?_) fun outcome => ?_
    · split
      · exact coupled_pure rfl
      · exact hsteps
    · exact (coupled_note rfl).bindLiftEq fun _ => coupled_decides hc control true

theorem coupled_runAll (hc : Coupling registry invoked rel) : ∀ steps : List Step,
    (∀ name ∈ pluginsOf steps, invoked name) →
    Run.Coupled rel Eq (runAll registry steps) (runAll registry steps)
  | [], _ => by
    rw [runAll]
    exact coupled_pure rfl
  | step :: rest, h => by
    have hstep := step.coupled_run hc fun name hname => h name (List.mem_append_left _ hname)
    have hrest := coupled_runAll hc rest fun name hname => h name (List.mem_append_right _ hname)
    rw [runAll]
    refine hstep.bindEq fun outcome => ?_
    cases outcome with
    | false => exact coupled_pure rfl
    | true => exact hrest

end

theorem coupled_runSteps (hc : Coupling registry invoked rel) {steps : List Step}
    (h : ∀ name ∈ pluginsOf steps, invoked name) :
    Run.Coupled rel Eq (runSteps registry steps) (runSteps registry steps) := by
  rw [runSteps]
  split
  · exact coupled_pure rfl
  · exact coupled_runAll hc steps h

/-! ## Pipes -/

theorem Pipe.coupled_run (hc : Coupling registry invoked rel) {p : Pipe}
    (h : ∀ name ∈ p.plugins, invoked name) :
    Run.Coupled rel Eq (p.run registry) (p.run registry) := by
  refine Run.Coupled.bindEq (.withDefaultsRestored hc ?_) fun outcome => ?_
  · refine (coupled_setDefaults hc p.defaults).bindEq fun r => ?_
    cases r with
    | ok u => exact coupled_runSteps hc h
    | error e => exact (coupled_note rfl).bindEq fun _ => coupled_pure rfl
  · exact (coupled_note rfl).bindEq fun _ => coupled_pure rfl

theorem coupled_runPipes (hc : Coupling registry invoked rel) (pipes : List Pipe)
    (h : ∀ p ∈ pipes, ∀ name ∈ p.plugins, invoked name) :
    Run.Coupled rel Eq (runPipes registry pipes) (runPipes registry pipes) := by
  rw [runPipes]
  generalize false = outcome
  induction pipes generalizing outcome with
  | nil => exact coupled_pure rfl
  | cons p rest ih =>
    rw [List.foldlM_cons]
    refine (Pipe.coupled_run hc (h p List.mem_cons_self)).bindEq fun outcome => ?_
    exact ih (fun q hq => h q (List.mem_cons_of_mem p hq)) outcome

end Steps

end Sluice

import Mathlib
import Sluice.Proofs.Mappings
import Sluice.Proofs.Running.Lists
import Sluice.Proofs.Running.Parts
import Sluice.Proofs.Scope.Interpreter
import Sluice.Service

/-!
# Declarations that fail

The entries of a `default` step are merged one after the other, and nothing takes them back when a
later one cannot be bound: the step is false, and the default parameters in front of the failing
entry have been set.  In an `init` block, which stops there, every request starts with them.

* `Context.BindsLayer` : what the entries of a declaration are bound to;
* `Context.StopsBehind` : what has been bound in front of an entry that fails.
-/

namespace Sluice

variable {ctx : Context} {entries done rest : List (String × Fields Json)} {layer : Layer}

/-! ## What a layer sets -/

/-- The default parameters of a plugin below a layer: all its fields in the layer, in order. -/
theorem Context.defaultsFor_extend (ctx : Context) (layer : Layer) (plugin : String) :
    ({ ctx with defaults := ctx.defaults.extend layer } : Context).defaultsFor plugin =
      Fields.overlay (ctx.defaultsFor plugin)
        ((layer.filter (·.1 = plugin)).flatMap (·.2)) := by
  induction layer generalizing ctx with
  | nil => rfl
  | cons entry rest ih =>
    obtain ⟨other, fields⟩ := entry
    have hrest := ih (ctx.mergeDefaults other fields)
    rw [Context.defaultsFor_mergeDefaults] at hrest
    refine hrest.trans ?_
    by_cases h : other = plugin
    · subst h
      simp [Fields.overlay_append]
    · simp [h]

/-! ## Declaring entry by entry -/

/-- The layer holds the entries with their fields bound, in order. -/
def Context.BindsLayer (ctx : Context) (entries : List (String × Fields Json)) (layer : Layer) :
    Prop :=
  List.Forall₂ (fun entry bound => bound.1 = entry.1 ∧
    Binding.fields ctx.view entry.2 = .ok bound.2) entries layer

/-- Some entry is the first one that cannot be bound; the layer holds those before it. -/
def Context.StopsBehind (ctx : Context) (entries : List (String × Fields Json)) (layer : Layer)
    (e : EvalError) : Prop :=
  ∃ done plugin raw rest, entries = done ++ (plugin, raw) :: rest ∧ ctx.BindsLayer done layer ∧
    Binding.fields ctx.view raw = .error e

/-- Where some entry cannot be bound, there is a first one. -/
theorem Context.exists_stopsBehind
    (h : ∃ entry ∈ entries, ∃ e, Binding.fields ctx.view entry.2 = .error e) :
    ∃ layer e, ctx.StopsBehind entries layer e := by
  induction entries with
  | nil =>
    obtain ⟨entry, hmem, -⟩ := h
    cases hmem
  | cons entry rest ih =>
    obtain ⟨plugin, raw⟩ := entry
    cases hb : Binding.fields ctx.view raw with
    | error e => exact ⟨[], e, [], plugin, raw, rest, rfl, .nil, hb⟩
    | ok bound =>
      obtain ⟨entry, hmem, e, he⟩ := h
      rcases List.mem_cons.1 hmem with rfl | hmem
      · rw [hb] at he
        cases he
      · obtain ⟨layer, e', done, plugin', raw', rest', rfl, hdone, he'⟩ := ih ⟨entry, hmem, e, he⟩
        exact ⟨(plugin, bound) :: layer, e', (plugin, raw) :: done, plugin', raw', rest', rfl,
          .cons ⟨rfl, hb⟩ hdone, he'⟩

/-- Entries that can be bound are merged, and the others are set behind them. -/
theorem setDefaults_append_run (h : ctx.BindsLayer done layer)
    (rest : List (String × Fields Json)) :
    (setDefaults (done ++ rest)).run ctx =
      (setDefaults rest).run { ctx with defaults := ctx.defaults.extend layer } := by
  induction done generalizing ctx layer with
  | nil =>
    cases h
    rfl
  | cons entry done ih =>
    obtain ⟨plugin, raw⟩ := entry
    cases h with
    | @cons _ bound _ later hbound hlater =>
      obtain ⟨rfl, hb⟩ := hbound
      -- the later entries see the same: expressions do not see default parameters
      have hlater' : (ctx.mergeDefaults bound.1 bound.2).BindsLayer done later := hlater
      rw [List.cons_append, setDefaults_cons_run, Context.bindFields, hb]
      exact ih hlater'

theorem setDefaults_run_of_stopsBehind {e : EvalError} (h : ctx.StopsBehind entries layer e) :
    (setDefaults entries).run ctx =
      ⟨.error (.unbound "default" e), { ctx with defaults := ctx.defaults.extend layer }, []⟩ := by
  obtain ⟨done, plugin, raw, rest, rfl, hdone, he⟩ := h
  have he' : Binding.fields
      ({ ctx with defaults := ctx.defaults.extend layer } : Context).view raw = .error e := he
  rw [setDefaults_append_run hdone, setDefaults_cons_run, Context.bindFields, he']

/-! ## Starting a service -/

/-- A service whose `init` block stops at a step starts requests where this step has ended. -/
theorem Service.start_of_stop {config : Config} {registry : Registry} {before after : List Step}
    {step : Step} (hinit : config.init = some (before ++ step :: after))
    (hbefore : (runAll registry before .empty).value = true)
    (hstep : (step.run registry (runAll registry before .empty).context).value = false) :
    (Service.start config registry).1 = ⟨config, registry,
      (step.run registry (runAll registry before .empty).context).context⟩ := by
  have hne : before ++ step :: after ≠ [] := by simp
  rw [Service.start, hinit]
  dsimp only
  rw [runInit_apply, runSteps_of_ne_nil hne, runAll_append_apply, if_pos hbefore, runAll_cons,
    hstep]
  rfl

/-! ## Declarations that fail -/

/-- A step that declares two default parameters, of which the second one has no value. -/
def halfDeclared : Step :=
  .valid ⟨"init", []⟩ ⟨none, none, none, none⟩ (.defaults [("log", [("msg", .string "a")]),
    ("match", [("value", .string "=V.missing")])])

/-- The first one stays, and every request starts with it. -/
theorem halfDeclared_leaves_first :
    let r := halfDeclared.run .empty .empty
    let s := (Service.start ⟨some [halfDeclared], []⟩ .empty).1
    Binding.fields Context.empty.view [("value", .string "=V.missing")] =
      .error (.pathNotFound "V.missing") ∧
    r.value = false ∧ Context.empty.defaultsFor "log" = [] ∧
    r.context.defaultsFor "log" = [("msg", .string "a")] ∧
    s.seed.defaultsFor "log" = [("msg", .string "a")] := by
  cbv

/-- A step that declares default parameters and whose guard opens is false if one of its entries
cannot be bound, and exactly the entries before the first one of these have been merged.  Nothing
else changes.  An `init` block that stops there leaves this, and every request starts with it. -/
theorem Step.run_defaults_keeps_bound (registry : Registry) {control : Control}
    (position : Position) (entries : List (String × Fields Json))
    (hopens : control.opens ctx = .ok true) :
    ((∃ entry ∈ entries, ∃ e, Binding.fields ctx.view entry.2 = .error e) →
      ∃ layer e, ctx.StopsBehind entries layer e) ∧
    ∀ layer e, ctx.StopsBehind entries layer e →
      let step := Step.valid position control (.defaults entries)
      let left := { ctx with defaults := ctx.defaults.extend layer, result := false }
      (step.run registry ctx).value = false ∧ (step.run registry ctx).context = left ∧
      (∀ plugin, left.defaultsFor plugin = Fields.overlay (ctx.defaultsFor plugin)
        ((layer.filter (·.1 = plugin)).flatMap (·.2))) ∧
      ∀ (config : Config) (before after : List Step),
        config.init = some (before ++ step :: after) →
        (runAll registry before .empty).value = true →
        (runAll registry before .empty).context = ctx →
        let s := (Service.start config registry).1
        s.seed = left ∧ ∀ request, s.run request =
          runPipes registry config.pipes { left with request } := by
  refine ⟨Context.exists_stopsBehind, fun layer e hstops => ?_⟩
  intro step left
  have hrun : step.run registry ctx = ⟨false, left, [.stepStarted position,
      .stepFailed position (control.name.getD position.text) (.unbound "default" e),
      .stepFinished position (control.name.getD position.text) false]⟩ :=
    run_defaultStep_of_error position hopens (setDefaults_run_of_stopsBehind hstops)
  refine ⟨by rw [hrun], by rw [hrun], ctx.defaultsFor_extend layer, ?_⟩
  rintro config before after hinit hbefore rfl s
  -- the seed is taken from where the `init` block has stopped
  have hs : s = ⟨config, registry, left⟩ := by
    rw [show s = _ from Service.start_of_stop hinit hbefore (by rw [hrun]), hrun]
  rw [hs]
  exact ⟨rfl, fun request => rfl⟩

/-- The entry in front of the failing one changes a field that the step before has set; the step
behind is never run. -/
theorem Step.run_defaults_keeps_bound_in_init :
    let declaring (entries : List (String × Fields Json)) : Step :=
      .valid ⟨"init", []⟩ ⟨none, none, none, none⟩ (.defaults entries)
    let first := declaring [("log", [("msg", .string "old"), ("level", .string "info")])]
    let entries := [("log", [("msg", .string "=1 + 1")]), ("match", [("value", .string "=V.a")])]
    let config : Config := ⟨some [first, declaring entries, declaring [("log", [])]], []⟩
    let before := runAll .empty [first] .empty
    before.value = true ∧
    before.context.StopsBehind entries [("log", [("msg", .nat 2)])] (.pathNotFound "V.a") ∧
    (Service.start config .empty).1.seed.defaultsFor "log" =
      [("msg", .nat 2), ("level", .string "info")] := by
  intro declaring first entries config before
  have hvalue : before.value = true := by cbv
  have hopens : Control.opens ⟨none, none, none, none⟩ before.context = .ok true := rfl
  have hstops : before.context.StopsBehind entries [("log", [("msg", .nat 2)])]
      (.pathNotFound "V.a") := by
    refine ⟨[("log", [("msg", .string "=1 + 1")])], "match", [("value", .string "=V.a")], [], rfl,
      .cons ⟨rfl, ?_⟩ .nil, ?_⟩ <;> cbv
  obtain ⟨-, -, hleft, hstart⟩ :=
    (Step.run_defaults_keeps_bound .empty ⟨"init", []⟩ entries hopens).2 _ _ hstops
  obtain ⟨hseed, -⟩ := hstart config [first] [declaring [("log", [])]] rfl hvalue rfl
  refine ⟨hvalue, hstops, ?_⟩
  rw [hseed, hleft]
  cbv

end Sluice

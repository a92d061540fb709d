import Mathlib
import Sluice.Proofs.Access.Basic
import Sluice.Proofs.Asking.Agreement
import Sluice.Proofs.Binding.Parameters
import Sluice.Proofs.Scope.Builtin
import Sluice.Proofs.Scope.Steps

/-!
# Which texts a run parses

Only texts of the configuration and texts in default parameters are ever parsed, and what comes of
one is not parsed again.  Default parameters are the exception, although their texts may have come
from a request: they are bound when they are declared, and once more with the parameters of a
plugin.  They survive the second time exactly if their texts stand for themselves.
-/

namespace Sluice

/-! ## Declared once, bound twice -/

theorem setDefaults_singleton (plugin : String) (raw : Fields Json) (ctx : Context) :
    (setDefaults [(plugin, raw)]).run ctx =
      match Binding.fields ctx.view raw with
      | .error e => ⟨.error (.unbound "default" e), ctx, []⟩
      | .ok fields => ⟨.ok (), ctx.mergeDefaults plugin fields, []⟩ :=
  setDefaults_cons plugin raw [] ctx.defaults ctx.store

theorem Context.defaultsFor_mergeDefaults_of_get? {ctx : Context} {plugin : String}
    {fields : Fields Json} (h : ctx.defaults.get? plugin = none) :
    (ctx.mergeDefaults plugin fields).defaultsFor plugin = Fields.ofList fields := by
  rw [Context.defaultsFor_mergeDefaults, if_pos rfl, Context.defaultsFor, h]
  rfl

theorem Context.bindParams_null (ctx : Context) (plugin : String) :
    ctx.bindParams plugin .null = ctx.bindFields plugin (ctx.defaultsFor plugin) := rfl

theorem Context.bindFields_eq_self {ctx : Context} {directive : String} {fields : Fields Json} :
    ctx.bindFields directive fields = .ok fields ↔
      ∀ s ∈ Json.textsOfFields fields, Binding.Fixed ctx.view s := by
  rw [Context.bindFields_eq_ok_iff, Binding.fields_eq_self]

/-- A default whose value starts with `=` is evaluated when its plugin is called. -/
theorem bindParams_evaluates_declared :
    let ctx := Context.empty.setVariable "s" (.string "=true")
    let r := (setDefaults [("log", [("msg", .string "=V.s")])]).run ctx
    ctx.defaults.get? "log" = none ∧ r.value = .ok () ∧
    r.context.defaultsFor "log" = [("msg", .string "=true")] ∧
    r.context.bindParams "log" .null = .ok [("msg", .bool true)] := by
  intro ctx r
  have hr : r = ⟨.ok (), ctx.mergeDefaults "log" [("msg", .string "=true")], []⟩ := by
    rw [show r = _ from setDefaults_singleton "log" [("msg", .string "=V.s")] ctx]
    have hb : Binding.fields ctx.view [("msg", .string "=V.s")] =
        .ok [("msg", .string "=true")] := by
      cbv
    rw [hb]
  rw [hr]
  refine ⟨rfl, rfl, Context.defaultsFor_mergeDefaults_of_get? rfl, ?_⟩
  cbv

/-- Evaluating a text parses what stands behind the `=` and gives the value of this expression as it
is, so what an access leads to comes out as it is, even if it is a text that starts with `=`.  Runs
of pipes and of an `init` block go the same if an oracle takes the place of the parser, whatever it
answers to texts that are neither in the steps nor in default parameters that have been there before
or have been declared so far.  Declared default parameters are bound to themselves if and only if
their texts stand for themselves, as all do that do not start with `=`. -/
theorem runPipes_evaluates_only_known_texts :
    (∀ view source, Expr.evaluate view ("=" ++ source) = match Expr.parse source with
      | .error e => .error (.malformed e)
      | .ok e => e.eval view none) ∧
    (∀ view s, s.toList.head? ≠ some '=' → Expr.evaluate view s = .ok (.string s)) ∧
    (∀ (access : Access) view v, access.find? view = some v →
      Expr.evaluate view ("=" ++ access.text) = .ok v) ∧
    (∀ host, (Registry.builtin host).KeepsDefaults) ∧
    (∀ registry : Registry, registry.KeepsDefaults → ∀ (ctx : Context) (oracle : Oracle),
      (∀ pipes : List Pipe, oracle.Parses (· ∈ pipes.flatMap Pipe.texts) ctx.defaults →
        (Asking.pipes oracle registry pipes).run' [] ctx = runPipes registry pipes ctx) ∧
      (∀ steps : List Step, oracle.Parses (· ∈ textsOfSteps steps) ctx.defaults →
        (Asking.init oracle registry steps).run' [] ctx = runInit registry steps ctx)) ∧
    ∀ (ctx : Context) (plugin : String) (raw : Fields Json),
      let r := (setDefaults [(plugin, raw)]).run ctx
      let declared := r.context.defaultsFor plugin
      ctx.defaults.get? plugin = none → r.value = .ok () →
      (∃ bound, Binding.fields ctx.view raw = .ok bound ∧ declared = Fields.ofList bound ∧
        ((Fields.keys raw).Nodup → declared = bound)) ∧
      (r.context.bindParams plugin .null = .ok declared ↔
        ∀ s ∈ Json.textsOfFields declared, Expr.evaluate ctx.view s = .ok (.string s)) ∧
      ((∀ s ∈ Json.textsOfFields declared, s.toList.head? ≠ some '=') →
        r.context.bindParams plugin .null = .ok declared) := by
  refine ⟨Expr.evaluate_expression, fun _ _ => Binding.fixed_of_head,
    fun access _ _ => access.evaluate_text_eq_ok_iff.2, Registry.keepsDefaults_builtin,
    fun registry hr ctx oracle => ⟨?_, ?_⟩, ?_⟩
  · exact fun pipes horacle => (echoes_pipes horacle hr fun _ hs => hs).run'_eq
  · exact fun steps horacle => (echoes_init horacle hr fun _ hs => hs).run'_eq
  · intro ctx plugin raw r declared hnone hok
    have hr := setDefaults_singleton plugin raw ctx
    cases hb : Binding.fields ctx.view raw with
    | error e =>
      rw [hb] at hr
      rw [show r = _ from hr] at hok
      cases hok
    | ok bound =>
      rw [hb] at hr
      have hview : r.context.view = ctx.view := by rw [show r = _ from hr]; rfl
      have hdeclared : declared = Fields.ofList bound := by
        change Context.defaultsFor r.context plugin = _
        rw [show r = _ from hr]
        exact Context.defaultsFor_mergeDefaults_of_get? hnone
      -- without parameters of its own the call binds what has been declared, once more
      have hself : r.context.bindParams plugin .null = .ok declared ↔
          ∀ s ∈ Json.textsOfFields declared, Binding.Fixed ctx.view s := by
        rw [Context.bindParams_null, ← hview]
        exact Context.bindFields_eq_self
      refine ⟨⟨bound, rfl, hdeclared, fun hkeys => ?_⟩, hself, fun hs => ?_⟩
      · rw [hdeclared]
        exact Fields.ofList_of_nodup (by rwa [Binding.keys_fields hb])
      · exact hself.2 fun s hmem => Binding.fixed_of_head (hs s hmem)

/-- A pipe that logs a variable, as a default parameter of its own. -/
def relayed : Pipe :=
  ⟨none, ⟨"relayed", []⟩, [("log", [("msg", .string "=V.s")])],
    [.valid ⟨"relayed", [.item 0]⟩ ⟨none, none, none, none⟩ (.plugin "log" .null)]⟩

/-- An oracle that parses the one text of `relayed`, and else only what has been declared. -/
def grudging : Oracle := fun declared source =>
  if source = "V.s" ∨ "=" ++ source ∈ textsOfEntries declared then Expr.parse source
  else .error ⟨0, .unexpectedEnd⟩

/-- What the variable holds comes out as it is, and is parsed only because it has become a default
parameter.  A variable that holds the text of its own access is bound to itself, again and again. -/
theorem runPipes_evaluates_known_texts_quine :
    (Registry.ofList [Log.plugin]).KeepsDefaults ∧
    (let ctx := Context.empty.setVariable "s" (.string "=1 + 1")
     Expr.evaluate ctx.view "=V.s" = .ok (.string "=1 + 1") ∧
     grudging.Parses (· ∈ [relayed].flatMap Pipe.texts) ctx.defaults ∧
     grudging [] "1 + 1" ≠ Expr.parse "1 + 1" ∧
     (Asking.pipes grudging (.ofList [Log.plugin]) [relayed]).run' [] ctx =
       runPipes (.ofList [Log.plugin]) [relayed] ctx) ∧
    let ctx := Context.empty.setVariable "s" (.string "=V.s")
    let r := (setDefaults [("log", [("msg", .string "=V.s")])]).run ctx
    ctx.defaults.get? "log" = none ∧ r.value = .ok () ∧
    r.context.bindParams "log" .null = .ok [("msg", .string "=V.s")] := by
  have hr : (Registry.ofList [Log.plugin]).KeepsDefaults := Registry.readsRequest_log.keepsDefaults
  obtain ⟨-, -, haccess, -, hruns, hbound⟩ := runPipes_evaluates_only_known_texts
  refine ⟨hr, ?_, ?_⟩
  · intro ctx
    have hfound := haccess ⟨.assigned, [.name ⟨'s', [], rfl, List.forall_mem_nil _⟩]⟩ ctx.view
      (.string "=1 + 1") rfl
    have hparses : grudging.Parses (· ∈ [relayed].flatMap Pipe.texts) ctx.defaults := by
      intro declared source hknown
      rw [grudging, if_pos]
      rcases hknown with hgiven | hbase | hdeclared
      · have heq : "=" ++ source = "=" ++ "V.s" := List.mem_singleton.1 hgiven
        exact .inl ((String.append_right_inj "=").1 heq)
      · cases hbase
      · exact .inr hdeclared
    refine ⟨hfound, hparses, ?_, (hruns _ hr ctx grudging).1 [relayed] hparses⟩
    have hparse : Expr.parse "1 + 1" =
        .ok (.binary .add (.literal (.nat 1)) (.literal (.nat 1))) := by
      cbv
    have hrefuse : grudging [] "1 + 1" = .error ⟨0, .unexpectedEnd⟩ := by
      cbv
    rw [hparse, hrefuse]
    simp
  · intro ctx r
    have hs : Binding.Fixed ctx.view "=V.s" := by
      unfold Binding.Fixed
      cbv
    have hb : Binding.fields ctx.view [("msg", .string "=V.s")] =
        .ok [("msg", .string "=V.s")] :=
      (Binding.fields_eq_self _).2 fun s hmem => by
        rw [List.mem_singleton.1 hmem]
        exact hs
    have hok : r.value = .ok () := by
      rw [show r = _ from setDefaults_singleton "log" [("msg", .string "=V.s")] ctx, hb]
    obtain ⟨⟨bound, hb', hdeclared, -⟩, hself, -⟩ :=
      hbound ctx "log" [("msg", .string "=V.s")] rfl hok
    rw [hb] at hb'
    cases hb'
    rw [hdeclared] at hself
    refine ⟨rfl, hok, hself.2 fun s hmem => ?_⟩
    rw [List.mem_singleton.1 hmem]
    exact hs

end Sluice

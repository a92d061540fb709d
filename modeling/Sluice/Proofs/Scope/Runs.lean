import Sluice.Proofs.Scope.Builtin
import Sluice.Proofs.Scope.Steps

/-!
# Whole runs are scoped

The runs of pipes follow their scoped counterparts without exception, as every pipe takes back what
it has set.  What a plugin sees is therefore what the scope of its call says.
-/

namespace Sluice

section Pipes

variable {registry : Registry} {base : Defaults}

theorem followsUpTo_steps (hr : registry.KeepsDefaults) (scope : Scope) (list : List Step)
    (s : Store) :
    FollowsUpTo base (scope.defaults base) (runSteps registry list)
      (Scoped.steps registry base scope list) s := by
  rw [runSteps, Scoped.steps]
  split
  · exact (follows_pure false).upTo
  · exact followsUpTo_all hr scope s list

theorem followsUpTo_inside (hr : registry.KeepsDefaults) (p : Pipe) (s : Store) :
    FollowsUpTo base base
      (do match ← (setDefaults p.defaults).run with
          | .ok () => runSteps registry p.steps
          | .error e => do
            Run.note (.pipeDefaultInvalid p.position e)
            return false)
      (Scoped.inside registry base p) s := by
  obtain ⟨d, hx, hd⟩ : Declares base base _ _ _ _ s := declares_declare p.defaults base s
  rw [FollowsUpTo, Scoped.inside]
  cases hv : ((Scoped.declare p.defaults).run s).value with
  | error e =>
    refine ⟨d, ?_⟩
    rw [Run.bind_apply, hx, Scoped.bind_apply, hv]
    simp only [Outcome.under, Outcome.map, hv, Except.map]
    rw [List.map_append]
    rfl
  | ok layer =>
    -- the steps start in a scope that has only the declarations of the pipe
    have hlayer : d = Scope.defaults ⟨[layer], []⟩ base := by
      rw [hd layer (by rw [hv]; rfl)]
      simp [Scope.defaults, Scope.layers]
    obtain ⟨d', ht⟩ : FollowsUpTo base (Scope.defaults ⟨[layer], []⟩ base) _ _ _ :=
      followsUpTo_steps hr ⟨[layer], []⟩ p.steps ((Scoped.declare p.defaults).run s).store
    refine ⟨d', ?_⟩
    rw [Run.bind_apply, hx, Scoped.bind_apply, hv, hlayer]
    simp only [Outcome.under, Outcome.map, hv, Except.map, ht]
    rw [List.map_append]

theorem follows_pipe (hr : registry.KeepsDefaults) (p : Pipe) (s : Store) :
    Follows base base (p.run registry) (Scoped.pipe registry base p) s := by
  refine (followsUpTo_inside hr p s).restored.bind fun outcome t => ?_
  exact (follows_note _ rfl).bind fun _ _ => follows_pure outcome

theorem follows_pipes (hr : registry.KeepsDefaults) (pipes : List Pipe) (s : Store) :
    Follows base base (runPipes registry pipes) (Scoped.pipes registry base pipes) s := by
  rw [runPipes, Scoped.pipes]
  generalize false = outcome
  induction pipes generalizing outcome s with
  | nil => exact follows_pure outcome
  | cons p rest ih =>
    rw [List.foldlM_cons, List.foldlM_cons]
    exact (follows_pipe hr p s).bind fun outcome t => ih t outcome

end Pipes

/-- A call among the events stands in a scope, and what the plugin sees is its defaults. -/
theorem Deed.exists_called {base : Defaults} {deeds : List Deed} {plugin : String}
    {params : Fields Json} {seen : Context}
    (h : .pluginCalled plugin params seen ∈ deeds.map (Deed.event base)) :
    ∃ scope store, .called scope plugin params store ∈ deeds ∧
      seen = store.under (scope.defaults base) := by
  obtain ⟨deed, hdeed, he⟩ := List.mem_map.1 h
  cases deed with
  | noted event quiet =>
    cases he
    cases quiet
  | called scope name given store =>
    cases he
    exact ⟨scope, store, hdeed, rfl⟩

/-- Runs of pipes do what scoped runs do, with the same events; they give the default parameters
back as they have got them, and every plugin sees those of its scope. -/
theorem runPipes_lexically_scoped :
    (∀ host, (Registry.builtin host).KeepsDefaults) ∧
    ∀ registry : Registry, registry.KeepsDefaults → ∀ (pipes : List Pipe) (ctx : Context),
      let o := Scoped.pipes registry ctx.defaults pipes ctx.store
      let r := runPipes registry pipes ctx
      r.value = o.value ∧
      r.context = o.store.under ctx.defaults ∧
      r.context.defaults = ctx.defaults ∧
      r.events = o.deeds.map (Deed.event ctx.defaults) ∧
      ∀ plugin params seen, .pluginCalled plugin params seen ∈ r.events →
        ∃ scope store, .called scope plugin params store ∈ o.deeds ∧
          seen = store.under (scope.defaults ctx.defaults) := by
  refine ⟨Registry.keepsDefaults_builtin, fun registry hr pipes ctx => ?_⟩
  intro o r
  have h : r = o.under ctx.defaults ctx.defaults := follows_pipes hr pipes ctx.store
  rw [h]
  exact ⟨rfl, rfl, rfl, rfl, fun _ _ _ => Deed.exists_called⟩

/-- A pipe with a default of its own, and a sub-pipe that sets another one. -/
def nestedDefaults : Pipe :=
  let free : Control := ⟨none, none, none, none⟩
  ⟨none, ⟨"nested", []⟩, [("log", [("msg", .string "pipe")])], [
    .valid ⟨"nested", [.item 0]⟩ free (.pipe [
      .valid ⟨"nested", [.item 0, .item 0]⟩ free (.defaults [("log", [("msg", .string "inner")])]),
      .valid ⟨"nested", [.item 0, .item 1]⟩ free (.plugin "log" .null)]),
    .valid ⟨"nested", [.item 1]⟩ free (.plugin "log" .null)]⟩

/-- The layers around a call. -/
def Deed.layers? : Deed → Option (List Layer)
  | .called scope _ _ _ => some scope.layers
  | _ => none

/-- The default of the sub-pipe is there inside and gone behind it. -/
theorem runPipes_nestedDefaults :
    (Registry.ofList [Log.plugin]).KeepsDefaults ∧
    let o := Scoped.pipes (.ofList [Log.plugin]) .empty [nestedDefaults] Context.empty.store
    let r := runPipes (.ofList [Log.plugin]) [nestedDefaults] .empty
    r.value = o.value ∧ r.context.defaults = .empty ∧
    r.events = o.deeds.map (Deed.event .empty) ∧
    o.deeds.filterMap Deed.layers? =
      [[[("log", [("msg", .string "pipe")])], [], [("log", [("msg", .string "inner")])]],
       [[("log", [("msg", .string "pipe")])], []]] := by
  have hr : (Registry.ofList [Log.plugin]).KeepsDefaults := Registry.readsRequest_log.keepsDefaults
  obtain ⟨hv, -, hd, he, -⟩ := runPipes_lexically_scoped.2 _ hr [nestedDefaults] .empty
  exact ⟨hr, hv, hd, he, rfl⟩

end Sluice

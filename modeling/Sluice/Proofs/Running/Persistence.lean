import Sluice.Proofs.Running.Coupling
import Sluice.Proofs.Running.Trail
import Sluice.Proofs.Scope.Builtin

/-!
# What a context always looks like, and what is never lost

Variables are an object, results are an object of objects that say how their plugin has ended, and
neither a failing step nor the end of a pipe takes any of them back.  One move keeps all this, so a
trail does, and so does everything that can happen to a context.

* `Context.Shaped` : what expressions see of a context;
* `Context.Grows` : a later context, which has all variables and results of an earlier one;
* `Reachable` : the contexts that come from starts, `init` blocks and requests;
* `Context.DistinctDefaults` : no plugin has a default parameter twice.
-/

namespace Sluice

/-! ## Shapes -/

/-- The variables are an object, the results are an object of objects with a boolean `result` each,
and the input is the view of the request.  In an object, no key is there twice. -/
structure Context.Shaped (ctx : Context) : Prop where
  assigned : ∃ fields, ctx.view.assigned = .map fields ∧ (Fields.keys fields).Nodup
  registered : ∃ entries, ctx.view.registered = .map entries ∧ (Fields.keys entries).Nodup ∧
    ∀ entry ∈ entries, ∃ result outcome, entry.2 = .map result ∧ (Fields.keys result).Nodup ∧
      Fields.get? "result" result = some (.bool outcome)
  input : ctx.view.input = ctx.request.view

/-- A context and a later one: the request is the same, and no variable and no result is lost. -/
structure Context.Grows (ctx later : Context) : Prop where
  request : later.request = ctx.request
  assigned : Fields.keys ctx.assigned <+: Fields.keys later.assigned
  registered : Fields.keys ctx.registered <+: Fields.keys later.registered

/-- Whether the fields of what a plugin gives are always the same. -/
def Plugin.GivesFields (p : Plugin) (keys : List String) : Prop :=
  ∀ params ctx result, (p.call params ctx).result = some result → Fields.keys result = keys

/-- Whether what a plugin gives is always an object. -/
def Plugin.GivesObjects (p : Plugin) : Prop :=
  ∀ params ctx result, (p.call params ctx).result = some result → (Fields.keys result).Nodup

/-- Whether all plugins of a registry leave contexts as they are and give objects. -/
structure Registry.Tame (registry : Registry) : Prop where
  keepsContext : ∀ name p, registry.get? name = some p → p.KeepsContext
  givesObjects : ∀ name p, registry.get? name = some p → p.GivesObjects

section Shapes

variable {ctx next middle later : Context}

theorem Context.shaped_iff : ctx.Shaped ↔ (Fields.keys ctx.assigned).Nodup ∧
    (Fields.keys ctx.registered).Nodup ∧
    ∀ entry ∈ ctx.registered, (Fields.keys entry.2).Nodup ∧
      ∃ outcome, Fields.get? "result" entry.2 = some (.bool outcome) := by
  have hkeys : Fields.keys (ctx.registered.map fun entry => (entry.1, Json.map entry.2)) =
      Fields.keys ctx.registered := by
    simp [Fields.keys]
  constructor
  · rintro ⟨⟨fields, hfields, hassigned⟩, ⟨entries, hentries, hregistered, hresult⟩, -⟩
    cases hfields
    cases hentries
    rw [hkeys] at hregistered
    refine ⟨hassigned, hregistered, fun entry hentry => ?_⟩
    obtain ⟨result, outcome, heq, hnodup, hget⟩ :=
      hresult _ (List.mem_map.2 ⟨entry, hentry, rfl⟩)
    cases heq
    exact ⟨hnodup, outcome, hget⟩
  · rintro ⟨hassigned, hregistered, hresult⟩
    refine ⟨⟨_, rfl, hassigned⟩, ⟨_, rfl, hkeys.symm ▸ hregistered, fun entry hentry => ?_⟩, rfl⟩
    obtain ⟨kept, hkept, rfl⟩ := List.mem_map.1 hentry
    obtain ⟨hnodup, outcome, hget⟩ := hresult kept hkept
    exact ⟨kept.2, outcome, rfl, hnodup, hget⟩

theorem Context.Grows.refl (ctx : Context) : ctx.Grows ctx :=
  ⟨rfl, List.prefix_rfl, List.prefix_rfl⟩

theorem Context.Grows.trans (h : ctx.Grows middle) (h' : middle.Grows later) : ctx.Grows later :=
  ⟨h'.request.trans h.request, h.assigned.trans h'.assigned, h.registered.trans h'.registered⟩

end Shapes

/-! ## Moves and trails -/

section Moves

variable {registry : Registry} {ctx next last : Context} {trail : List Context}

/-- What one write does to the shape. -/
theorem Move.shaped (ht : registry.Tame) (h : Move registry ctx next) (hs : ctx.Shaped) :
    next.Shaped := by
  obtain ⟨hassigned, hregistered, hresult⟩ := Context.shaped_iff.1 hs
  cases h with
  | assigned _ name value =>
    exact Context.shaped_iff.2 ⟨Fields.nodup_keys_set hassigned name value, hregistered, hresult⟩
  | declared => exact Context.shaped_iff.2 ⟨hassigned, hregistered, hresult⟩
  | called hp =>
    rw [ht.keepsContext _ _ hp]
    exact hs
  | @kept name p hp params seen _ register =>
    refine Context.shaped_iff.2
      ⟨hassigned, Fields.nodup_keys_set hregistered _ _, fun entry hentry => ?_⟩
    rcases Fields.mem_set hentry with hentry | rfl
    · exact hresult entry hentry
    · have hnodup : (Fields.keys ((p.call params seen).result.getD [])).Nodup := by
        cases hgiven : (p.call params seen).result with
        | none => exact List.nodup_nil
        | some result => exact ht.givesObjects name p hp params seen result hgiven
      refine ⟨Fields.nodup_keys_set hnodup _ _, (p.call params seen).holds, ?_⟩
      rw [Fields.get?_set, if_pos rfl]
  | restored => exact Context.shaped_iff.2 ⟨hassigned, hregistered, hresult⟩
  | concluded => exact Context.shaped_iff.2 ⟨hassigned, hregistered, hresult⟩

/-- One write loses nothing. -/
theorem Move.grows (ht : registry.Tame) (h : Move registry ctx next) : ctx.Grows next := by
  cases h with
  | assigned _ name value =>
    exact ⟨rfl, Fields.keys_prefix_keys_set name value _, List.prefix_rfl⟩
  | declared => exact ⟨rfl, List.prefix_rfl, List.prefix_rfl⟩
  | called hp =>
    rw [ht.keepsContext _ _ hp]
    exact .refl ctx
  | kept _ _ _ _ register =>
    exact ⟨rfl, List.prefix_rfl, Fields.keys_prefix_keys_set register _ _⟩
  | restored => exact ⟨rfl, List.prefix_rfl, List.prefix_rfl⟩
  | concluded => exact ⟨rfl, List.prefix_rfl, List.prefix_rfl⟩

theorem Trail.shaped (ht : registry.Tame) (h : Trail registry ctx trail last) (hs : ctx.Shaped) :
    ∀ c ∈ ctx :: trail, c.Shaped := by
  induction h with
  | nil ctx => simpa using hs
  | cons move _ ih => exact List.forall_mem_cons.2 ⟨hs, ih (move.shaped ht hs)⟩

theorem Trail.grows (ht : registry.Tame) (h : Trail registry ctx trail last) :
    (ctx :: trail).Pairwise Context.Grows := by
  induction h with
  | nil ctx => exact List.pairwise_singleton _ ctx
  | @cons ctx next last later move _ ih =>
    refine List.pairwise_cons.2 ⟨fun c hc => ?_, ih⟩
    rcases List.mem_cons.1 hc with rfl | hc
    · exact move.grows ht
    · exact (move.grows ht).trans (List.rel_of_pairwise_cons ih hc)

theorem Trail.getLast? (h : Trail registry ctx trail last) :
    (ctx :: trail).getLast? = some last := by
  induction h with
  | nil ctx => rfl
  | cons _ _ ih => rw [List.getLast?_cons_cons, ih]

end Moves

/-! ## The plugins of the library -/

section Builtin

theorem Plugin.GivesFields.givesObjects {p : Plugin} {keys : List String} (h : p.GivesFields keys)
    (hkeys : keys.Nodup) : p.GivesObjects :=
  fun params ctx result hresult => (h params ctx result hresult).symm ▸ hkeys

theorem Match.givesFields : Match.plugin.GivesFields ["matches", "named"] := by
  intro params ctx result h
  simp only [Match.plugin, Match.call] at h
  repeat' split at h
  all_goals cases h
  rfl

theorem Log.givesFields : Log.plugin.GivesFields [] := by
  intro params ctx result h
  cases h

theorem Header.givesFields : Header.plugin.GivesFields ["value"] := by
  intro params ctx result h
  simp only [Header.plugin, Header.call] at h
  split at h <;> cases h
  rfl

theorem Body.givesFields : Body.plugin.GivesFields ["payload"] := by
  intro params ctx result h
  simp only [Body.plugin, Body.call] at h
  repeat' split at h
  all_goals cases h
  rfl

theorem ReadFile.givesFields (files : FileTree) :
    (ReadFile.plugin files).GivesFields ["content"] := by
  have hanswer (ctx : Context) (format path : String) (r : Except String Json)
      (result : Fields Json) (h : (ReadFile.answer ctx format path r).result = some result) :
      Fields.keys result = ["content"] := by
    cases r <;> cases h
    rfl
  intro params ctx result h
  simp only [ReadFile.plugin, ReadFile.call] at h
  repeat' split at h
  all_goals first | cases h | exact hanswer _ _ _ _ _ h

theorem Command.givesFields (host : Host) :
    (Command.plugin host).GivesFields ["rc", "stdout", "stderr"] := by
  intro params ctx result h
  simp only [Command.plugin, Command.call] at h
  repeat' split at h
  all_goals cases h
  rfl

theorem Http.givesFields (host : Host) :
    (Http.plugin host).GivesFields ["response", "type", "code"] := by
  intro params ctx result h
  simp only [Http.plugin, Http.call, Http.answer] at h
  repeat' split at h
  all_goals cases h
  all_goals rfl

theorem JsonRpc.givesFields (host : Host) : (JsonRpc.plugin host).GivesFields ["response"] := by
  intro params ctx result h
  simp only [JsonRpc.plugin, JsonRpc.call] at h
  repeat' split at h
  all_goals cases h
  all_goals rfl

theorem Registry.tame_builtin (host : Host) : (Registry.builtin host).Tame where
  keepsContext name p hp := (readsRequest_builtin host name p hp).keepsContext
  givesObjects name p hp := by
    have hmem : p ∈ Plugin.builtins host := (named_of_get?_ofList hp).1
    simp only [Plugin.builtins, List.mem_cons, List.not_mem_nil, or_false] at hmem
    rcases hmem with rfl | rfl | rfl | rfl | rfl | rfl | rfl | rfl
    · exact Match.givesFields.givesObjects (by decide)
    · exact Log.givesFields.givesObjects (by decide)
    · exact Header.givesFields.givesObjects (by decide)
    · exact Body.givesFields.givesObjects (by decide)
    · exact (ReadFile.givesFields host.files).givesObjects (by decide)
    · exact (Command.givesFields host).givesObjects (by decide)
    · exact (Http.givesFields host).givesObjects (by decide)
    · exact (JsonRpc.givesFields host).givesObjects (by decide)

end Builtin

/-! ## Everything that can happen to a context -/

/-- The contexts that come from the start by running `init` blocks, by starting requests, and by
running pipes for them, with the plugins of the library and whatever host and configuration. -/
inductive Reachable : Context → Prop where
  | start : Reachable .empty
  | init {ctx : Context} (host : Host) (steps : List Step) (h : Reachable ctx) :
    Reachable (runInit (.builtin host) steps ctx).context
  | seeded {ctx : Context} (request : Request) (h : Reachable ctx) :
    Reachable (.ofSeed ctx request)
  | run {ctx : Context} (host : Host) (config : Config) (h : Reachable ctx) :
    Reachable (runPipes (.builtin host) config.pipes ctx).context

/-- A run in which nothing is lost: its trail leads from its start to its end, everything on it is
shaped, the request stays the same, and what is there at one point is there at all later ones. -/
structure Persistent (registry : Registry) (ctx : Context) (trail : List Context)
    (r : Report Bool) : Prop where
  traced : Traced registry ctx trail r
  ends : (ctx :: trail).getLast? = some r.context
  shaped : ∀ c ∈ ctx :: trail, c.Shaped
  input : ∀ c ∈ ctx :: trail, c.view.input = ctx.request.view
  grows : (ctx :: trail).Pairwise Context.Grows

section Persistence

variable {registry : Registry} {ctx : Context} {trail : List Context} {r : Report Bool}

theorem Traced.persistent (ht : registry.Tame) (h : Traced registry ctx trail r)
    (hs : ctx.Shaped) : Persistent registry ctx trail r where
  traced := h
  ends := h.leads.getLast?
  shaped := h.leads.shaped ht hs
  input c hc := by
    have hgrows := h.leads.grows ht
    rcases List.mem_cons.1 hc with rfl | hc
    · rfl
    · exact congrArg Request.view (List.rel_of_pairwise_cons hgrows hc).request
  grows := h.leads.grows ht

theorem Persistent.shaped_end (h : Persistent registry ctx trail r) : r.context.Shaped :=
  h.shaped _ h.traced.leads.last_mem

theorem Context.shaped_empty : Context.empty.Shaped :=
  shaped_iff.2 ⟨List.nodup_nil, List.nodup_nil, by simp [Context.empty, start]⟩

theorem Reachable.shaped (h : Reachable ctx) : ctx.Shaped := by
  induction h with
  | start => exact Context.shaped_empty
  | init host steps _ ih =>
    exact ((traced_runInit steps _).persistent (Registry.tame_builtin host) ih).shaped_end
  | seeded request _ ih =>
    obtain ⟨hassigned, hregistered, hresult⟩ := Context.shaped_iff.1 ih
    exact Context.shaped_iff.2 ⟨hassigned, hregistered, hresult⟩
  | run host config _ ih =>
    exact ((traced_runPipes config.pipes _).persistent (Registry.tame_builtin host) ih).shaped_end

end Persistence

/-- Contexts keep their shape, and nothing is lost.  Whatever has happened to a context, its
variables are an object, its results are an object of objects with a boolean `result` each, and its
input is the view of its request; and whatever `init` block or configuration is run in it next, all
of this holds at every point of the run, the input never changes, and a variable or a result that is
there at one point is there at every later one. -/
theorem reachable_persistent : ∀ ctx : Context, Reachable ctx →
    ctx.Shaped ∧
    (∀ (host : Host) (steps : List Step),
      Persistent (.builtin host) ctx (trailOf (.builtin host) steps ctx)
        (runInit (.builtin host) steps ctx)) ∧
    ∀ (host : Host) (config : Config),
      Persistent (.builtin host) ctx (pipesTrail (.builtin host) config.pipes ctx)
        (runPipes (.builtin host) config.pipes ctx) := by
  intro ctx h
  refine ⟨h.shaped, fun host steps => ?_, fun host config => ?_⟩
  · exact (traced_runInit steps ctx).persistent (Registry.tame_builtin host) h.shaped
  · exact (traced_runPipes config.pipes ctx).persistent (Registry.tame_builtin host) h.shaped

/-- A pipe that keeps the result of a plugin in a sub-pipe and then fails. -/
def failingConfig : Config :=
  let here : Position := ⟨"failing", []⟩
  let free : Control := ⟨none, none, none, none⟩
  ⟨none, [⟨none, here, [("log", [("msg", .string "hello")])], [
    .valid here free (.pipe [
      .valid here { free with register := some "said" } (.plugin "log" .null),
      .invalid here .noContent]),
    .valid here free (.assign [("a", .bool true)]),
    .valid here free (.plugin "absent" .null),
    .valid here free (.assign [("b", .bool true)])]⟩]⟩

/-- What an `init` block has assigned, what the sub-pipe has kept in spite of its failure, and what
has been assigned before the last failure is all there at the end. -/
theorem reachable_persistent_failing :
    let host : Host := ⟨⟨[], [], ""⟩, fun _ => .error .missing, fun _ => .error ""⟩
    let assigning : Step := .valid ⟨"init", [.item 0]⟩ ⟨none, none, none, none⟩
      (.assign [("seed", .bool true)])
    let seed := (runInit (.builtin host) [assigning] .empty).context
    let ctx := Context.ofSeed seed (.of "GET" "/")
    let trail := pipesTrail (.builtin host) failingConfig.pipes ctx
    Reachable ctx ∧ ctx.Shaped ∧ (ctx :: trail).Pairwise Context.Grows ∧
    (runPipes (.builtin host) failingConfig.pipes ctx).value = false ∧
    (ctx :: trail).map (fun c => (Fields.keys c.assigned, Fields.keys c.registered)) =
      List.replicate 3 (["seed"], []) ++ List.replicate 5 (["seed"], ["said"]) ++
        List.replicate 4 (["seed", "a"], ["said"]) := by
  intro host assigning seed ctx trail
  have h : Reachable ctx := .seeded (.of "GET" "/") (.init host [assigning] .start)
  obtain ⟨hshaped, -, hrun⟩ := reachable_persistent ctx h
  exact ⟨h, hshaped, (hrun host failingConfig).grows, by decide +kernel, by decide +kernel⟩

/-! ## Fields of default parameters

However default parameters are set and given back, no plugin gets a field twice.  This concerns the
context of a single run: every context is coupled with itself as long as it has this property. -/

/-- Whether no plugin has a default parameter twice. -/
def Context.DistinctDefaults (ctx : Context) : Prop :=
  ∀ plugin, (Fields.keys (ctx.defaultsFor plugin)).Nodup

section Runs

variable {registry : Registry} {ctx : Context}

theorem Context.DistinctDefaults.mergeDefaults (h : ctx.DistinctDefaults) (plugin : String)
    (fields : Fields Json) : (ctx.mergeDefaults plugin fields).DistinctDefaults := by
  intro other
  rw [defaultsFor_mergeDefaults]
  split
  · exact Fields.nodup_keys_overlay (h plugin) fields
  · exact h other

theorem Registry.KeepsDefaults.coupling_distinct (hr : registry.KeepsDefaults) :
    Coupling registry (fun _ => True) fun ctx ctx' => ctx = ctx' ∧ ctx.DistinctDefaults where
  view_eq h := congrArg Context.view h.1
  defaultsFor_eq h _ := congrArg (Context.defaultsFor · _) h.1
  setVariable name value h := ⟨congrArg (Context.setVariable · name value) h.1, h.2⟩
  register name result h := ⟨congrArg (Context.register · name result) h.1, h.2⟩
  mergeDefaults plugin fields h :=
    ⟨congrArg (Context.mergeDefaults · plugin fields) h.1, h.2.mergeDefaults plugin fields⟩
  conclude outcome h := ⟨congrArg ({ · with result := outcome }) h.1, h.2⟩
  restore hbefore hafter := ⟨by rw [hbefore.1, hafter.1], hbefore.2⟩
  answer {ctx ctx' plugin p} params hp _ h := by
    obtain ⟨rfl, hdistinct⟩ := h
    refine ⟨rfl, rfl, rfl, rfl, fun other => ?_⟩
    rw [Context.defaultsFor, hr plugin p hp params ctx]
    exact hdistinct other

/-- Wherever a run looks up default parameters to call a plugin, none of them is there twice. -/
theorem runPipes_distinctDefaults (hr : registry.KeepsDefaults) (pipes : List Pipe)
    (h : ctx.DistinctDefaults) :
    (runPipes registry pipes ctx).context.DistinctDefaults ∧
    ∀ plugin params seen,
      .pluginCalled plugin params seen ∈ (runPipes registry pipes ctx).events →
        seen.DistinctDefaults := by
  obtain ⟨-, hcontext, hevents⟩ := coupled_runPipes hr.coupling_distinct pipes
    (fun _ _ _ _ => trivial) ctx ctx ⟨rfl, h⟩
  refine ⟨hcontext.2, fun plugin params seen hmem => ?_⟩
  cases List.forall₂_same.1 hevents _ hmem with
  | called _ _ hseen => exact hseen.2
  | noted hquiet => cases hquiet

theorem Reachable.distinctDefaults (h : Reachable ctx) : ctx.DistinctDefaults := by
  induction h with
  | start => exact fun _ => List.nodup_nil
  | @init ctx host steps _ ih =>
    rw [runInit_apply]
    exact (coupled_runSteps (Registry.keepsDefaults_builtin host).coupling_distinct
      (fun _ _ => trivial) ctx ctx ⟨rfl, ih⟩).2.1.2
  | seeded request _ ih => exact ih
  | run host config _ ih =>
    exact (runPipes_distinctDefaults (Registry.keepsDefaults_builtin host) config.pipes ih).1

end Runs

end Sluice

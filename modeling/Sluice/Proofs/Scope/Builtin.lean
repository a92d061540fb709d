import Sluice.Plugin.Builtin
import Sluice.Proofs.Mappings
import Sluice.Proofs.Scope.Simulation

/-!
# The plugins of the library read requests

They read nothing of a context but its request, and leave the whole context as it is: in particular
the default parameters.
-/

namespace Sluice

/-- Whether a plugin leaves every context as it is. -/
def Plugin.KeepsContext (p : Plugin) : Prop := ∀ params ctx, (p.call params ctx).context = ctx

/-- Whether a plugin reads nothing of a context but its request, and leaves it as it is. -/
def Plugin.ReadsRequest (p : Plugin) : Prop :=
  ∀ params ctx, p.call params ctx = { p.call params (.start ctx.request) with context := ctx }

def Registry.ReadsRequest (registry : Registry) : Prop :=
  ∀ name p, registry.get? name = some p → p.ReadsRequest

theorem Plugin.KeepsContext.keepsDefaults {p : Plugin} (h : p.KeepsContext) : p.KeepsDefaults :=
  fun params ctx => congrArg Context.defaults (h params ctx)

theorem Plugin.ReadsRequest.keepsContext {p : Plugin} (h : p.ReadsRequest) : p.KeepsContext :=
  fun params ctx => congrArg Answer.context (h params ctx)

theorem Registry.ReadsRequest.keepsDefaults {registry : Registry} (h : registry.ReadsRequest) :
    registry.KeepsDefaults :=
  fun name p hp => (h name p hp).keepsContext.keepsDefaults

/-! ## Plugin by plugin -/

theorem Match.readsRequest : Match.plugin.ReadsRequest := by
  intro params ctx
  simp only [Match.plugin]
  unfold Match.call
  repeat' split
  all_goals rfl

theorem Log.readsRequest : Log.plugin.ReadsRequest := fun _ _ => rfl

theorem Header.readsRequest : Header.plugin.ReadsRequest := by
  intro params ctx
  simp only [Header.plugin]
  unfold Header.call
  split <;> rfl

theorem Body.readsRequest : Body.plugin.ReadsRequest := by
  intro params ctx
  have hrequest : (Context.start ctx.request).request = ctx.request := rfl
  simp only [Body.plugin, Body.call, hrequest]
  repeat' split
  all_goals rfl

theorem ReadFile.answer_eq (ctx : Context) (format path : String) (r : Except String Json) :
    ReadFile.answer ctx format path r =
      { ReadFile.answer (.start ctx.request) format path r with context := ctx } := by
  cases r <;> rfl

theorem ReadFile.readsRequest (files : FileTree) : (ReadFile.plugin files).ReadsRequest := by
  intro params ctx
  simp only [ReadFile.plugin]
  unfold ReadFile.call
  dsimp only
  repeat' split
  all_goals first | rfl | exact ReadFile.answer_eq ..

theorem Command.readsRequest (host : Host) : (Command.plugin host).ReadsRequest := by
  intro params ctx
  simp only [Command.plugin]
  unfold Command.call
  repeat' split
  all_goals rfl

theorem Http.answer_eq (ctx : Context) (p : Http.Params) (log : List Record) (reply : Reply) :
    Http.answer ctx p log reply =
      { Http.answer (.start ctx.request) p log reply with context := ctx } := by
  unfold Http.answer
  dsimp only
  repeat' split
  all_goals rfl

theorem Http.readsRequest (host : Host) : (Http.plugin host).ReadsRequest := by
  intro params ctx
  simp only [Http.plugin]
  unfold Http.call
  dsimp only
  repeat' split
  all_goals first | rfl | exact Http.answer_eq ..

theorem JsonRpc.readsRequest (host : Host) : (JsonRpc.plugin host).ReadsRequest := by
  intro params ctx
  simp only [JsonRpc.plugin]
  unfold JsonRpc.call
  repeat' split
  all_goals rfl

/-! ## The registry -/

theorem Registry.mem_of_get?_foldl (name : String) (p : Plugin) (plugins : List Plugin)
    (r : Registry) (h : (plugins.foldl register r).get? name = some p) :
    (p ∈ plugins ∧ p.name = name) ∨ r.get? name = some p := by
  induction plugins generalizing r with
  | nil => exact .inr h
  | cons q rest ih =>
    rcases ih (r.register q) h with ⟨hp, hname⟩ | hp
    · exact .inl ⟨List.mem_cons_of_mem q hp, hname⟩
    · rw [register, Index.get?_insert] at hp
      split at hp
      · next hname =>
        cases hp
        exact .inl ⟨List.mem_cons_self, hname⟩
      · exact .inr hp

/-- What a registry has under a name is one of its plugins, and has this name. -/
theorem Registry.named_of_get?_ofList {name : String} {p : Plugin} {plugins : List Plugin}
    (h : (ofList plugins).get? name = some p) : p ∈ plugins ∧ p.name = name := by
  rcases mem_of_get?_foldl name p plugins .empty h with hp | hp
  · exact hp
  · cases hp

theorem Registry.readsRequest_ofList {plugins : List Plugin}
    (h : ∀ p ∈ plugins, p.ReadsRequest) : (ofList plugins).ReadsRequest :=
  fun _ p hp => h p (named_of_get?_ofList hp).1

theorem Registry.readsRequest_log : (ofList [Log.plugin]).ReadsRequest :=
  readsRequest_ofList fun _ hp => List.mem_singleton.1 hp ▸ Log.readsRequest

theorem Registry.readsRequest_builtin (host : Host) : (Registry.builtin host).ReadsRequest := by
  refine readsRequest_ofList fun p hp => ?_
  simp only [Plugin.builtins, List.mem_cons, List.not_mem_nil, or_false] at hp
  rcases hp with rfl | rfl | rfl | rfl | rfl | rfl | rfl | rfl
  · exact Match.readsRequest
  · exact Log.readsRequest
  · exact Header.readsRequest
  · exact Body.readsRequest
  · exact ReadFile.readsRequest host.files
  · exact Command.readsRequest host
  · exact Http.readsRequest host
  · exact JsonRpc.readsRequest host

theorem Registry.keepsDefaults_builtin (host : Host) : (Registry.builtin host).KeepsDefaults :=
  (readsRequest_builtin host).keepsDefaults

end Sluice

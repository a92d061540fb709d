import Sluice.Proofs.Scope.Interpreter

/-!
# Runs with defaults in the state follow scoped runs

* `Follows base d x y s`: from the store `s` under the defaults `d`, the run `x` does what the
  scoped run `y` does from `s`, and leaves `d` as it is;
* `FollowsUpTo base d x y s`: the same, but for the defaults that `x` leaves.

Everything but a `default` step follows its scoped counterpart.  A list of steps follows up to its
defaults, which is why the pipe around it restores them.
-/

namespace Sluice

variable {α β : Type}

@[simp] theorem Store.view_under (s : Store) (d : Defaults) : (s.under d).view = s.view := rfl

@[simp] theorem Store.store_under (s : Store) (d : Defaults) : (s.under d).store = s := rfl

@[simp] theorem Store.defaults_under (s : Store) (d : Defaults) : (s.under d).defaults = d := rfl

@[simp] theorem Context.under_store (ctx : Context) : ctx.store.under ctx.defaults = ctx := rfl

/-! ## Scopes -/

theorem Defaults.extend_append (base : Defaults) (xs ys : Layer) :
    base.extend (xs ++ ys) = (base.extend xs).extend ys :=
  List.foldl_append

theorem Scope.defaults_enter (scope : Scope) (base : Defaults) :
    scope.enter.defaults base = scope.defaults base := by
  simp [Scope.defaults, Scope.enter, Scope.layers]

theorem Scope.defaults_declare (scope : Scope) (layer : Layer) (base : Defaults) :
    (scope.declare layer).defaults base = (scope.defaults base).extend layer := by
  rw [Scope.defaults, Scope.defaults, ← Defaults.extend_append]
  simp [Scope.declare, Scope.layers]

/-! ## Following -/

/-- The report of a run that has done what a scoped run has done, and ends with given defaults. -/
def Outcome.under (base d : Defaults) (o : Outcome α) : Report α :=
  ⟨o.value, o.store.under d, o.deeds.map (Deed.event base)⟩

/-- The run does what the scoped run does, and leaves the defaults as they are. -/
def Follows (base d : Defaults) (x : Run α) (y : Scoped α) (s : Store) : Prop :=
  x (s.under d) = (y s).under base d

/-- The run does what the scoped run does, but for the defaults that it leaves. -/
def FollowsUpTo (base d : Defaults) (x : Run α) (y : Scoped α) (s : Store) : Prop :=
  ∃ d', x (s.under d) = (y s).under base d'

section Rules

variable {base d : Defaults} {s : Store}

theorem Follows.upTo {x : Run α} {y : Scoped α} (h : Follows base d x y s) :
    FollowsUpTo base d x y s :=
  ⟨d, h⟩

theorem follows_pure (a : α) : Follows base d (pure a) (pure a) s := rfl

theorem follows_note (e : Event) (quiet : e.isCall = false) :
    Follows base d (Run.note e) (Scoped.note e quiet) s := rfl

theorem follows_noteLog (plugin : String) (log : List Record) :
    Follows base d (Run.noteAll (log.map (.pluginLogged plugin))) (Scoped.noteLog plugin log) s :=
  by
  simp only [Follows, Outcome.under, Run.noteAll_apply, Scoped.noteLog_apply, List.map_map]
  rfl

theorem follows_update {f : Context → Context} {g : Store → Store}
    (h : f (s.under d) = (g s).under d) : Follows base d (Run.update f) (Scoped.update g) s := by
  simp [Follows, Outcome.under, h]

theorem Follows.bind {x : Run α} {y : Scoped α} {f : α → Run β} {g : α → Scoped β}
    (hx : Follows base d x y s) (hf : ∀ a t, Follows base d (f a) (g a) t) :
    Follows base d (x >>= f) (y >>= g) s := by
  have hv : (x (s.under d)).value = (y s).value := by rw [hx]; rfl
  have hc : (x (s.under d)).context = (y s).store.under d := by rw [hx]; rfl
  have he : (x (s.under d)).events = (y s).deeds.map (Deed.event base) := by rw [hx]; rfl
  have h := hf (y s).value (y s).store
  rw [Follows, Run.bind_apply, hv, hc, he, h]
  simp [Outcome.under]

/-- What a run does with the context it starts in. -/
theorem follows_context {k : Context → Run α} {y : Scoped α}
    (h : Follows base d (k (s.under d)) y s) : Follows base d (Run.context >>= k) y s := h

/-! ### Runs that may fail -/

theorem Follows.lift {x : Run α} {y : Scoped α} (h : Follows base d x y s) :
    Follows base d (ExceptT.lift x : Attempt α).run (ExceptT.lift y : ScopedAttempt α).run s :=
  h.bind fun _ _ => rfl

theorem Follows.bindAttempt {x : Attempt α} {y : ScopedAttempt α} {f : α → Attempt β}
    {g : α → ScopedAttempt β} (hx : Follows base d x.run y.run s)
    (hf : ∀ a t, Follows base d (f a).run (g a).run t) :
    Follows base d (x >>= f).run (y >>= g).run s :=
  Follows.bind hx fun a t => by
    cases a with
    | ok a => exact hf a t
    | error e => rfl

theorem follows_store {x : Run α} {k : Store → Scoped α} (h : Follows base d x (k s) s) :
    Follows base d x (Scoped.store >>= k) s := h

theorem follows_attempt_context {k : Context → Attempt α} {y : ScopedAttempt α}
    (h : Follows base d (k (s.under d)).run y.run s) :
    Follows base d ((ExceptT.lift Run.context : Attempt Context) >>= k).run y.run s := h

theorem follows_attempt_ok {a : α} {f : α → Attempt β} {g : α → ScopedAttempt β}
    (h : Follows base d (f a).run (g a).run s) :
    Follows base d (Attempt.of (.ok a) >>= f).run (Scoped.attempt (.ok a) >>= g).run s := h

end Rules

/-! ## The parts of a step -/

section Parts

variable {base d : Defaults}

theorem follows_holds (directive : String) (c : Condition) (s : Store) :
    Follows base d (pure (c.holds directive (s.under d))) (Scoped.holds directive c).run s := by
  rw [Follows, Scoped.holds, ExceptT.run_bind, Scoped.bind_apply, Scoped.run_bindValue,
    Condition.holds, Store.view_under]
  cases Binding.value s.view c.toJson with
  | error e => rfl
  | ok v => cases v <;> rfl

theorem follows_opens (control : Control) (s : Store) :
    Follows base d (pure (control.opens (s.under d))) (Scoped.opens control).run s := by
  rw [Control.opens, Scoped.opens]
  cases control.guard with
  | none => rfl
  | some c => exact follows_holds "when" c s

theorem follows_decides (control : Control) (given : Bool) (s : Store) :
    Follows base d (pure (control.decides given (s.under d)))
      (Scoped.decides control given).run s := by
  rw [Control.decides, Scoped.decides]
  cases control.verdict with
  | none => rfl
  | some c => exact follows_holds "result" c s

theorem follows_assign (entries : List (String × Json)) (s : Store) :
    Follows base d (assign entries).run (Scoped.assign entries).run s := by
  induction entries generalizing s with
  | nil => rfl
  | cons entry rest ih =>
    obtain ⟨name, raw⟩ := entry
    refine follows_attempt_context (Follows.bindAttempt rfl fun value t => ?_)
    refine (follows_note _ rfl).lift.bindAttempt fun _ t => ?_
    exact (follows_update rfl).lift.bindAttempt fun _ t => ih t

theorem follows_keep (plugin register : String) (a : Answer) (s : Store) :
    Follows base d (keep plugin register a) (Scoped.keep plugin register a) s := by
  rw [keep, Scoped.keep]
  cases Fields.get? "result" (a.result.getD []) with
  | none => exact follows_update rfl
  | some discarded =>
    refine (follows_note _ rfl).bind fun _ t => ?_
    exact follows_update rfl

theorem follows_conclude (position : Position) (label : String) (outcome : Bool) (s : Store) :
    Follows base d (conclude position label outcome) (Scoped.conclude position label outcome) s :=
  by
  refine (follows_note _ rfl).bind fun _ t => ?_
  refine Follows.bind ?_ fun _ _ => follows_pure outcome
  exact follows_update rfl

/-! ### Plugins -/

/-- Whether a plugin leaves the default parameters of every context as they are. -/
def Plugin.KeepsDefaults (p : Plugin) : Prop :=
  ∀ params ctx, (p.call params ctx).context.defaults = ctx.defaults

def Registry.KeepsDefaults (registry : Registry) : Prop :=
  ∀ name p, registry.get? name = some p → p.KeepsDefaults

theorem Registry.get?_of_select {registry : Registry} {name : String} {params : Fields Json}
    {p : Plugin} (h : registry.select name params = .ok (some p)) :
    registry.get? name = some p := by
  unfold Registry.select at h
  split at h
  · simp at h
  · next q hq =>
    split at h
    · simp only [Except.ok.injEq, Option.some.injEq] at h
      rw [hq, h]
    · simp at h

variable {registry : Registry} {scope : Scope}

theorem follows_callPlugin {p : Plugin} (hp : p.KeepsDefaults) (name : String)
    (params : Fields Json) (s : Store) :
    Follows base (scope.defaults base) (callPlugin p name params)
      (Scoped.callPlugin base scope p name params) s := by
  have hd : (p.call params (s.under (scope.defaults base))).context =
        (p.call params (s.under (scope.defaults base))).context.store.under
          (scope.defaults base) := by
    have h := Context.under_store (p.call params (s.under (scope.defaults base))).context
    rw [hp params (s.under (scope.defaults base))] at h
    exact h.symm
  refine follows_context (follows_store ?_)
  refine Follows.bind rfl fun _ t => ?_
  refine Follows.bind (follows_update hd) fun _ t => ?_
  refine (follows_noteLog name _).bind fun _ t => ?_
  cases (p.call params (s.under (scope.defaults base))).outcome with
  | error e => exact (follows_note _ rfl).bind fun _ _ => follows_pure _
  | ok b => exact follows_pure _

theorem follows_bindParams (name : String) (raw : Json) (s : Store) :
    Follows base (scope.defaults base)
      (pure ((s.under (scope.defaults base)).bindParams name raw))
      (Scoped.bindParams base scope name raw).run s := by
  have hy : (Scoped.bindParams base scope name raw).run s =
      (Scoped.attempt ((s.under (scope.defaults base)).rawParams name raw) >>=
        Scoped.bindFields name).run s := rfl
  rw [Follows, hy, Context.bindParams]
  cases (s.under (scope.defaults base)).rawParams name raw with
  | error e => rfl
  | ok fields => rfl

theorem follows_invoke (hr : registry.KeepsDefaults) (name : String) (raw : Json)
    (control : Control) (s : Store) :
    Follows base (scope.defaults base) (invoke registry name raw control).run
      (Scoped.invoke registry base scope name raw control).run s := by
  refine follows_attempt_context ?_
  refine Follows.bindAttempt (follows_bindParams name raw s) fun params t => ?_
  cases h : registry.select name params with
  | error e => rfl
  | ok found => cases found with
    | none => rfl
    | some p =>
      have hp : p.KeepsDefaults := hr name p (Registry.get?_of_select h)
      refine follows_attempt_ok ((follows_callPlugin hp name params t).lift.bindAttempt ?_)
      intro a t
      cases control.register with
      | none => exact follows_attempt_context (follows_decides control a.holds t)
      | some register =>
        refine (follows_keep name register a t).lift.bindAttempt fun _ t => ?_
        exact follows_attempt_context (follows_decides control a.holds t)

end Parts

end Sluice

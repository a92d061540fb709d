import Sluice.Proofs.Scope.Simulation

/-!
# Steps, lists and pipes follow scoped runs

`Declares` is what holds of steps: a `default` step changes the defaults, and what it adds is the
layer that its scoped counterpart gives.  Only a completed step has to say what it adds: behind a
step that is false, the list ends.
-/

namespace Sluice

variable {α β : Type}

/-- A scoped outcome with another value. -/
def Outcome.map (f : α → β) (o : Outcome α) : Outcome β := ⟨f o.value, o.store, o.deeds⟩

/-- The run does what the scoped run does, apart from `f`, and what it adds to the defaults is the
layer of the scoped value, if that has one. -/
def Declares (base d : Defaults) (f : β → α) (layer? : β → Option Layer) (x : Run α) (y : Scoped β)
    (s : Store) : Prop :=
  ∃ d', x (s.under d) = ((y s).map f).under base d' ∧
    ∀ layer, layer? (y s).value = some layer → d' = d.extend layer

/-! ## Rules -/

section Rules

variable {γ δ : Type} {base d : Defaults} {s : Store} {f : β → α} {layer? : β → Option Layer}

theorem Follows.bindDeclares {x : Run γ} {y : Scoped γ} {k : γ → Run α} {m : γ → Scoped β}
    (hx : Follows base d x y s) (hk : ∀ c t, Declares base d f layer? (k c) (m c) t) :
    Declares base d f layer? (x >>= k) (y >>= m) s := by
  obtain ⟨d', hx', hd⟩ := hk (y s).value (y s).store
  refine ⟨d', ?_, hd⟩
  rw [Run.bind_apply, hx]
  simp only [Outcome.under, hx']
  simp [Outcome.map]

/-- What follows behind a declaration, whatever the defaults are by then, and declares nothing of
its own. -/
theorem Declares.bind {x : Run α} {y : Scoped β} {k : α → Run γ} {m : β → Scoped δ} {g : δ → γ}
    {layer?' : δ → Option Layer} (h : Declares base d f layer? x y s)
    (hk : ∀ b t d', k (f b) (t.under d') = ((m b t).map g).under base d')
    (hl : ∀ b t layer, layer?' (m b t).value = some layer → layer? b = some layer) :
    Declares base d g layer?' (x >>= k) (y >>= m) s := by
  obtain ⟨d', hx, hd⟩ := h
  refine ⟨d', ?_, fun layer hlayer => hd layer (hl _ _ _ hlayer)⟩
  rw [Run.bind_apply, hx]
  simp only [Outcome.under, Outcome.map, hk]
  simp

theorem declares_context {k : Context → Run α} {y : Scoped β}
    (h : Declares base d f layer? (k (s.under d)) y s) :
    Declares base d f layer? (Run.context >>= k) y s := h

/-- What the run knows from the context, the scoped run has to compute. -/
theorem Follows.readDeclares {c : γ} {y : Scoped γ} {x : Run α} {m : γ → Scoped β}
    (h : Follows base d (pure c) y s) (hk : Declares base d f layer? x (m c) s) :
    Declares base d f layer? x (y >>= m) s := by
  have hv : c = (y s).value := congrArg Report.value h
  have hs : s = (y s).store := congrArg (fun r => r.context.store) h
  have he : [] = (y s).deeds.map (Deed.event base) := congrArg Report.events h
  obtain ⟨d', hx, hd⟩ := hk
  rw [hv] at hx hd
  refine ⟨d', hx.trans ?_, ?_⟩
  · rw [Scoped.bind_apply, ← hs]
    simp [Outcome.under, Outcome.map, ← he]
  · rw [Scoped.bind_apply, ← hs]
    exact hd

theorem Follows.declaresNil {x : Run α} {y : Scoped α} {m : α → Scoped β}
    (h : Follows base d x y s)
    (hm : ∀ a t, ∃ b, m a t = ⟨b, t, []⟩ ∧ f b = a ∧ ∀ layer, layer? b = some layer → layer = []) :
    Declares base d f layer? x (y >>= m) s := by
  obtain ⟨b, hb, hf, hl⟩ := hm (y s).value (y s).store
  refine ⟨d, ?_, ?_⟩
  · rw [h, Scoped.bind_apply, hb]
    simp [Outcome.under, Outcome.map, hf]
  · intro layer hlayer
    rw [Scoped.bind_apply, hb] at hlayer
    rw [hl layer hlayer]
    rfl

theorem declares_pure (b : β) (hl : ∀ layer, layer? b = some layer → layer = []) :
    Declares base d f layer? (pure (f b)) (pure b) s := by
  refine ⟨d, rfl, fun layer hlayer => ?_⟩
  rw [hl layer hlayer]
  rfl

end Rules

/-! ## Declarations -/

section Declarations

variable {base : Defaults}

theorem setDefaults_cons (plugin : String) (raw : Fields Json) (rest : List (String × Fields Json))
    (d : Defaults) (s : Store) :
    (setDefaults ((plugin, raw) :: rest)).run (s.under d) =
      match Binding.fields s.view raw with
      | .error e => ⟨.error (.unbound "default" e), s.under d, []⟩
      | .ok fields => (setDefaults rest).run (s.under (d.extend [(plugin, fields)])) := by
  rw [setDefaults_cons_run, Context.bindFields, Store.view_under]
  cases Binding.fields s.view raw with
  | error e => rfl
  | ok fields => rfl

theorem declare_cons (plugin : String) (raw : Fields Json) (rest : List (String × Fields Json))
    (s : Store) :
    (Scoped.declare ((plugin, raw) :: rest)).run s =
      match Binding.fields s.view raw with
      | .error e => ⟨.error (.unbound "default" e), s, []⟩
      | .ok fields =>
        let o := (Scoped.declare rest).run s
        ⟨o.value.map ((plugin, fields) :: ·), o.store, o.deeds⟩ := by
  rw [Scoped.declare, ExceptT.run_bind, Scoped.bind_apply, Scoped.run_bindFields]
  cases Binding.fields s.view raw with
  | error e => rfl
  | ok fields =>
    have hok : Except.mapError (StepError.unbound "default") (.ok fields) = .ok fields := rfl
    simp only [hok, ExceptT.run_bind, Scoped.bind_apply]
    cases (Scoped.declare rest).run s with
    | mk v t deeds => cases v <;> simp [Except.map]

theorem declares_declare (entries : List (String × Fields Json)) (d : Defaults) (s : Store) :
    Declares base d (Except.map fun _ => ()) Except.toOption (setDefaults entries).run
      (Scoped.declare entries).run s := by
  induction entries generalizing d with
  | nil => exact ⟨d, rfl, by rintro _ ⟨⟩; rfl⟩
  | cons entry rest ih =>
    obtain ⟨plugin, raw⟩ := entry
    rw [Declares, setDefaults_cons, declare_cons]
    cases h : Binding.fields s.view raw with
    | error e => exact ⟨d, rfl, by rintro _ ⟨⟩⟩
    | ok fields =>
      obtain ⟨d', hx, hd⟩ := ih (d.extend [(plugin, fields)])
      refine ⟨d', hx.trans ?_, ?_⟩
      · cases (Scoped.declare rest).run s with
        | mk v t deeds => cases v <;> rfl
      · cases hv : ((Scoped.declare rest).run s).value with
        | error e => simp [hv, Except.map, Except.toOption]
        | ok layer =>
          intro l hl
          simp only [hv, Except.map, Except.toOption, Option.some.injEq] at hl
          rw [← hl]
          exact hd layer (by rw [hv]; rfl)

end Declarations

/-! ## Steps and lists -/

section Steps

variable {registry : Registry} {base : Defaults}

theorem FollowsUpTo.restored {d : Defaults} {x : Run α} {y : Scoped α} {s : Store}
    (h : FollowsUpTo base d x y s) : Follows base d (withDefaultsRestored x) y s := by
  obtain ⟨d', hx⟩ := h
  have hw : withDefaultsRestored x (s.under d) =
      ⟨(x (s.under d)).value, { (x (s.under d)).context with defaults := d },
        (x (s.under d)).events⟩ := by
    simp only [withDefaultsRestored, Run.bind_apply, Run.context_apply, Run.update_apply,
      Run.pure_apply, List.nil_append, List.append_nil, Store.defaults_under]
  rw [Follows, hw, hx]
  rfl

theorem stepLayer?_nil (b : Bool) : ∀ layer, stepLayer? (b, []) = some layer → layer = [] := by
  cases b <;> rintro _ ⟨⟩
  rfl

theorem contentLayer?_nil (r : Except StepError Bool) :
    ∀ layer, contentLayer? (r.map (·, [])) = some layer → layer = [] := by
  cases r <;> rintro _ ⟨⟩
  rfl

mutual

theorem declares_step (hr : registry.KeepsDefaults) (scope : Scope) (s : Store) :
    ∀ step : Step, Declares base (scope.defaults base) Prod.fst stepLayer? (step.run registry)
      (Scoped.step registry base scope step) s
  | .invalid position cause => by
    rw [Step.run, Scoped.step]
    refine (follows_note _ rfl).bindDeclares fun _ t => ?_
    refine (follows_note _ rfl).bindDeclares fun _ t => ?_
    refine (follows_conclude position _ false t).declaresNil fun b t => ?_
    exact ⟨(b, []), rfl, rfl, stepLayer?_nil b⟩
  | .valid position control content => by
    rw [Step.run, Scoped.step]
    refine (follows_note _ rfl).bindDeclares fun _ t => declares_context ?_
    have ho : Follows base (scope.defaults base) _ _ t := follows_opens control t
    refine ho.readDeclares ?_
    cases control.opens (t.under (scope.defaults base)) with
    | error e =>
      exact (follows_note _ rfl).bindDeclares fun _ t => declares_pure _ (stepLayer?_nil true)
    | ok opened => cases opened with
      | false =>
        exact (follows_note _ rfl).bindDeclares fun _ t => declares_pure _ (stepLayer?_nil true)
      | true =>
        -- the list does not go on behind a step that is false, so its layer reaches no one
        refine (declares_content hr scope control t content).bind ?_ ?_
        · rintro (e | ⟨outcome, layer⟩) t d' <;> rfl
        · rintro (e | ⟨outcome, layer⟩) t l
          · rintro ⟨⟩
          · cases outcome <;> rintro ⟨⟩
            rfl

theorem declares_content (hr : registry.KeepsDefaults) (scope : Scope) (control : Control)
    (s : Store) :
    ∀ content : Content, Declares base (scope.defaults base) (Except.map Prod.fst) contentLayer?
      (content.run registry control).run (Scoped.content registry base scope control content).run s
  | .plugin name params => by
    rw [Content.run, Scoped.content]
    -- only declarations have a layer: the other contents leave none for the steps behind
    refine (follows_invoke hr name params control s).declaresNil fun r t => ?_
    exact ⟨r.map (·, []), by cases r <;> rfl, by cases r <;> rfl, contentLayer?_nil r⟩
  | .assign entries => by
    rw [Content.run, Scoped.content]
    refine (follows_assign entries s).bindDeclares ?_
    rintro (e | u) t
    · exact declares_pure (Except.error e) (contentLayer?_nil (.error e))
    · exact declares_pure (Except.ok (true, [])) (contentLayer?_nil (.ok true))
  | .defaults entries => by
    rw [Content.run, Scoped.content]
    refine (declares_declare entries (scope.defaults base) s).bind ?_ ?_
    · rintro (e | layer) t d' <;> rfl
    · rintro (e | layer) t l <;> rintro ⟨⟩
      rfl
  | .pipe steps => by
    -- the steps inside may have declared what they like: the scope is left when they are done
    have hi : FollowsUpTo base (scope.defaults base)
        (if steps.isEmpty then pure false else runAll registry steps)
        (if steps.isEmpty then pure false else Scoped.all registry base scope.enter steps) s := by
      split
      · exact (follows_pure false).upTo
      · rw [← Scope.defaults_enter]
        exact followsUpTo_all hr scope.enter s steps
    rw [Content.run, Scoped.content]
    refine hi.restored.lift.bindDeclares ?_
    rintro (e | inner) t
    · exact declares_pure (Except.error e) (contentLayer?_nil (.error e))
    · refine (follows_note (.subPipeFinished inner) rfl).lift.bindDeclares ?_
      rintro (e | u) t
      · exact declares_pure (Except.error e) (contentLayer?_nil (.error e))
      · have hv : Follows base (scope.defaults base) _ _ t := follows_decides control true t
        refine Follows.declaresNil hv fun r t => ?_
        exact ⟨r.map (·, []), by cases r <;> rfl, by cases r <;> rfl, contentLayer?_nil r⟩

theorem followsUpTo_all (hr : registry.KeepsDefaults) (scope : Scope) (s : Store) :
    ∀ steps : List Step, FollowsUpTo base (scope.defaults base) (runAll registry steps)
      (Scoped.all registry base scope steps) s
  | [] => by
    rw [runAll, Scoped.all]
    exact (follows_pure true).upTo
  | step :: rest => by
    obtain ⟨d', hx, hd⟩ := declares_step hr scope s step
    rw [runAll, Scoped.all, FollowsUpTo]
    cases hv : (Scoped.step registry base scope step s).value with
    | mk outcome layer => cases outcome with
      | false =>
        refine ⟨d', ?_⟩
        rw [Run.bind_apply, hx, Scoped.bind_apply, hv]
        simp [Outcome.under, Outcome.map, hv]
      | true =>
        have hlayer : d' = (scope.declare layer).defaults base := by
          rw [Scope.defaults_declare]
          exact hd layer (by rw [hv]; rfl)
        obtain ⟨d'', ht⟩ := followsUpTo_all hr (scope.declare layer)
          (Scoped.step registry base scope step s).store rest
        refine ⟨d'', ?_⟩
        rw [Run.bind_apply, hx, Scoped.bind_apply, hv, hlayer]
        simp only [Outcome.under, Outcome.map, hv, if_true, ht]
        rw [List.map_append]

end

end Steps

end Sluice

import Sluice.Proofs.Asking.Basic
import Sluice.Proofs.Running.Parts
import Sluice.Proofs.Scope.Simulation

/-!
# Runs ask for known texts only

An asking run does what the run of the steps does if its oracle parses the texts that are known:
those of the steps themselves, and those of default parameters that have been there at the start or
have been declared before.  What it answers to all other texts does not matter, so they are not
parsed in a run.

* `Known` : the texts that may be asked for;
* `Sourced` : default parameters in which every text is known, the invariant of a run;
* `Echoes` : an asking run that does what another run does and keeps the invariant.
-/

namespace Sluice

/-! ## Known texts -/

/-- Whether a text is given, or stands in default parameters that have been there at the start of a
run or have been declared in it. -/
def Known (given : String → Prop) (base : Defaults) (declared : List (String × Fields Json))
    (s : String) : Prop :=
  given s ∨ s ∈ base.texts ∨ s ∈ textsOfEntries declared

/-- Whether an oracle gives the expressions of all known texts as the parser does. -/
def Oracle.Parses (oracle : Oracle) (given : String → Prop) (base : Defaults) : Prop :=
  ∀ declared source, Known given base declared ("=" ++ source) →
    oracle declared source = Expr.parse source

/-- Whether the texts of default parameters have been there at the start or have been declared. -/
def Sourced (base : Defaults) (declared : List (String × Fields Json)) (d : Defaults) : Prop :=
  ∀ s ∈ d.texts, s ∈ base.texts ∨ s ∈ textsOfEntries declared

section Known

variable {base : Defaults} {declared added : List (String × Fields Json)}

theorem mem_textsOfEntries_append {s : String} :
    s ∈ textsOfEntries (declared ++ added) ↔
      s ∈ textsOfEntries declared ∨ s ∈ textsOfEntries added := by
  rw [textsOfEntries, List.flatMap_append, List.mem_append]
  rfl

theorem sourced_self : Sourced base declared base := fun _ => .inl

theorem Sourced.append {d : Defaults} (h : Sourced base declared d)
    (added : List (String × Fields Json)) : Sourced base (declared ++ added) d :=
  fun s hs => (h s hs).imp_right fun hd => mem_textsOfEntries_append.2 (.inl hd)

/-- An entry that is merged is one that is declared. -/
theorem Sourced.merge {ctx : Context} (h : Sourced base declared ctx.defaults) (plugin : String)
    (fields : Fields Json) :
    Sourced base (declared ++ [(plugin, fields)]) (ctx.mergeDefaults plugin fields).defaults := by
  intro s hs
  rcases mem_texts_mergeDefaults hs with hs | hs
  · exact h.append _ s hs
  · exact .inr (mem_textsOfEntries_append.2 (.inr (mem_textsOfEntries.2
      ⟨_, List.mem_singleton_self _, hs⟩)))

end Known

/-! ## Evaluating and binding -/

theorem Expr.evaluateBy_parse (view : View) : evaluateBy parse view = evaluate view := rfl

theorem Expr.evaluateBy_congr {parse parse' : String → Except SyntaxError Expr} {s : String}
    (h : ∀ source, s = "=" ++ source → parse source = parse' source) (view : View) :
    evaluateBy parse view s = evaluateBy parse' view s := by
  unfold evaluateBy
  split
  · next source hs =>
    have hsource : s = "=" ++ String.ofList source := by
      rw [← String.toList_inj, hs]
      simp
    rw [h _ hsource]
  · rfl

namespace Binding

variable {evaluate evaluate' : String → Except EvalError Json}

theorem valueBy_congr {raw : Json} (h : ∀ s ∈ raw.texts, evaluate s = evaluate' s) :
    valueBy evaluate raw = valueBy evaluate' raw := by
  rw [valueBy, valueBy, mapM_congr h, Json.filled_congr fun s hs => by rw [h s hs]]

theorem fieldsBy_congr {raw : Fields Json}
    (h : ∀ s ∈ Json.textsOfFields raw, evaluate s = evaluate' s) :
    fieldsBy evaluate raw = fieldsBy evaluate' raw := by
  rw [fieldsBy, fieldsBy, mapM_congr h, Json.filledFields_congr fun s hs => by rw [h s hs]]

theorem valueBy_evaluate (view : View) (raw : Json) :
    valueBy (Expr.evaluate view) raw = value view raw :=
  (value_eq raw).symm

theorem fieldsBy_evaluate (view : View) (raw : Fields Json) :
    fieldsBy (Expr.evaluate view) raw = fields view raw :=
  (fields_eq raw).symm

end Binding

section Oracles

variable {oracle : Oracle} {given : String → Prop} {base : Defaults}
variable {declared : List (String × Fields Json)}

theorem Oracle.Parses.evaluateBy_eq (h : oracle.Parses given base) {s : String}
    (hs : Known given base declared s) (view : View) :
    Expr.evaluateBy (oracle declared) view s = Expr.evaluate view s := by
  rw [← Expr.evaluateBy_parse]
  refine Expr.evaluateBy_congr (fun source heq => ?_) view
  exact h declared source (heq ▸ hs)

theorem Oracle.Parses.valueBy_eq (h : oracle.Parses given base) {raw : Json}
    (hraw : ∀ s ∈ raw.texts, Known given base declared s) (view : View) :
    Binding.valueBy (Expr.evaluateBy (oracle declared) view) raw = Binding.value view raw := by
  rw [← Binding.valueBy_evaluate]
  exact Binding.valueBy_congr fun s hs => h.evaluateBy_eq (hraw s hs) view

theorem Oracle.Parses.fieldsBy_eq (h : oracle.Parses given base) {raw : Fields Json}
    (hraw : ∀ s ∈ Json.textsOfFields raw, Known given base declared s) (view : View) :
    Binding.fieldsBy (Expr.evaluateBy (oracle declared) view) raw = Binding.fields view raw := by
  rw [← Binding.fieldsBy_evaluate]
  exact Binding.fieldsBy_congr fun s hs => h.evaluateBy_eq (hraw s hs) view

end Oracles

/-! ## Runs that echo another -/

/-- Behind what has been declared, the asking run does what the run does.  What it declares on the
way is where the texts of the default parameters have come from in the end. -/
def EchoesAt {α : Type} (base : Defaults) (x : Run α) (y : Asking α)
    (declared : List (String × Fields Json)) (ctx : Context) : Prop :=
  ∃ added, y.run declared ctx =
      ⟨((x ctx).value, declared ++ added), (x ctx).context, (x ctx).events⟩ ∧
    Sourced base (declared ++ added) (x ctx).context.defaults

/-- The asking run does so wherever the default parameters have their texts from known places. -/
def Echoes {α : Type} (base : Defaults) (x : Run α) (y : Asking α) : Prop :=
  ∀ declared ctx, Sourced base declared ctx.defaults → EchoesAt base x y declared ctx

section Rules

variable {α β : Type} {base : Defaults}

/-- What declares nothing and leaves the default parameters alone. -/
theorem EchoesAt.of_run {x : Run α} {y : Asking α} {declared : List (String × Fields Json)}
    {ctx : Context} (hs : Sourced base declared ctx.defaults)
    (hdefaults : (x ctx).context.defaults = ctx.defaults)
    (hrun : y.run declared ctx = ⟨((x ctx).value, declared), (x ctx).context, (x ctx).events⟩) :
    EchoesAt base x y declared ctx := by
  refine ⟨[], ?_, ?_⟩
  · rw [hrun, List.append_nil]
  · rw [List.append_nil, hdefaults]
    exact hs

/-- What only looks at the context. -/
theorem echoes_reads {f : Context → α} {y : Asking α}
    (h : ∀ declared ctx, Sourced base declared ctx.defaults →
      y.run declared ctx = ⟨(f ctx, declared), ctx, []⟩) :
    Echoes base (f <$> Run.context) y :=
  fun declared ctx hs => .of_run hs rfl (h declared ctx hs)

/-- What leaves the default parameters alone is its own echo. -/
theorem echoes_lift {x : Run α} (h : ∀ ctx, (x ctx).context.defaults = ctx.defaults) :
    Echoes base x (liftM x : Asking α) := by
  intro declared ctx hs
  have hrun : (liftM x : Asking α).run declared ctx =
      ⟨((x ctx).value, declared), (x ctx).context, (x ctx).events ++ []⟩ := rfl
  rw [List.append_nil] at hrun
  exact .of_run hs (h ctx) hrun

theorem echoes_pure (a : α) : Echoes base (pure a) (pure a) :=
  fun _ _ hs => .of_run hs rfl rfl

theorem echoes_note (e : Event) : Echoes base (Run.note e) (liftM (Run.note e) : Asking Unit) :=
  echoes_lift fun _ => rfl

theorem Echoes.bind_at {x : Run α} {y : Asking α} {f : α → Run β} {g : α → Asking β}
    {declared : List (String × Fields Json)} {ctx : Context} (hx : Echoes base x y)
    (hs : Sourced base declared ctx.defaults)
    (hf : Echoes base (f (x ctx).value) (g (x ctx).value)) :
    EchoesAt base (x >>= f) (y >>= g) declared ctx := by
  obtain ⟨added, hrun, hs'⟩ := hx declared ctx hs
  obtain ⟨more, hrun', hs''⟩ := hf (declared ++ added) (x ctx).context hs'
  refine ⟨added ++ more, ?_, ?_⟩
  · rw [StateT.run_bind, Run.bind_apply, hrun]
    dsimp only
    rw [hrun', ← List.append_assoc]
    rfl
  · rw [← List.append_assoc]
    exact hs''

theorem Echoes.bind {x : Run α} {y : Asking α} {f : α → Run β} {g : α → Asking β}
    (hx : Echoes base x y) (hf : ∀ a, Echoes base (f a) (g a)) :
    Echoes base (x >>= f) (y >>= g) :=
  fun _ ctx hs => hx.bind_at hs (hf (x ctx).value)

theorem Echoes.bindAttempt {x : Attempt α} {y : AskingAttempt α} {f : α → Attempt β}
    {g : α → AskingAttempt β} (hx : Echoes base x.run y.run)
    (hf : ∀ a, Echoes base (f a).run (g a).run) : Echoes base (x >>= f).run (y >>= g).run := by
  refine Echoes.bind (f := ExceptT.bindCont f) (g := ExceptT.bindCont g) hx fun r => ?_
  cases r with
  | ok a => exact hf a
  | error e => exact echoes_pure (Except.error e)

theorem Echoes.lift {x : Run α} {y : Asking α} (h : Echoes base x y) :
    Echoes base (ExceptT.lift x : Attempt α).run (ExceptT.lift y : AskingAttempt α).run :=
  Echoes.bind h fun a => echoes_pure (Except.ok a)

/-- What a run finds in its context is something that the asking run has to find out. -/
theorem Echoes.reads {f : Context → α} {y : Asking α} {k : Context → Run β} {m : α → Asking β}
    (hy : Echoes base (f <$> Run.context) y) (hk : ∀ ctx, Echoes base (k ctx) (m (f ctx))) :
    Echoes base (Run.context >>= k) (y >>= m) :=
  fun _ ctx hs => hy.bind_at (f := fun _ => k ctx) hs (hk ctx)

/-- The same where it may be missing. -/
theorem Echoes.readsAttempt {f : Context → Except StepError α} {y : AskingAttempt α}
    {k : α → Attempt β} {m : α → AskingAttempt β} (hy : Echoes base (f <$> Run.context) y.run)
    (hk : ∀ a, Echoes base (k a).run (m a).run) :
    Echoes base ((liftM Run.context : Attempt Context) >>= fun ctx => Attempt.of (f ctx) >>= k).run
      (y >>= m).run := by
  have hx : ((liftM Run.context : Attempt Context) >>= fun ctx => Attempt.of (f ctx) >>= k).run =
      (ExceptT.mk (f <$> Run.context) >>= k).run := rfl
  rw [hx]
  exact Echoes.bindAttempt hy hk

/-- The default parameters that are restored had known texts, and more has been declared since. -/
theorem Echoes.restored {x : Run α} {y : Asking α} (h : Echoes base x y) :
    Echoes base (withDefaultsRestored x) (Asking.withDefaultsRestored y) := by
  intro declared ctx hs
  obtain ⟨added, hrun, -⟩ := h declared ctx hs
  refine ⟨added, ?_, hs.append added⟩
  have hy : (Asking.withDefaultsRestored y).run declared ctx =
      (do let p ← y.run declared
          Run.update fun after => { after with defaults := ctx.defaults }
          return p : Run _) ctx := rfl
  rw [hy, withDefaultsRestored]
  simp only [Run.bind_apply, hrun, Run.context_apply, Run.update_apply, Run.pure_apply]
  rfl

end Rules

/-! ## The parts of a step -/

section Parts

variable {oracle : Oracle} {given : String → Prop} {base : Defaults}
variable (horacle : oracle.Parses given base)

include horacle

theorem echoes_bindFields {directive : String} {raw : Fields Json}
    (hraw : ∀ s ∈ Json.textsOfFields raw, given s) :
    Echoes base ((fun ctx => ctx.bindFields directive raw) <$> Run.context)
      (Asking.bindFields oracle directive raw).run := by
  refine echoes_reads fun declared ctx _ => ?_
  rw [Asking.run_bindFields, horacle.fieldsBy_eq fun s hs => .inl (hraw s hs), Context.bindFields]
  cases Binding.fields ctx.view raw <;> rfl

/-- The fields of the step are given; those of the defaults have known texts. -/
theorem echoes_bindParams {name : String} {raw : Json} (hraw : ∀ s ∈ raw.texts, given s) :
    Echoes base ((fun ctx => ctx.bindParams name raw) <$> Run.context)
      (Asking.bindParams oracle name raw).run := by
  refine echoes_reads fun declared ctx hsourced => ?_
  have hrun : (Asking.bindParams oracle name raw).run.run declared ctx =
      ((Asking.attempt (ctx.rawParams name raw) >>= Asking.bindFields oracle name).run.run
        declared) ctx := rfl
  rw [hrun, Context.bindParams]
  cases hfields : ctx.rawParams name raw with
  | error e => rfl
  | ok fields =>
    have hknown : ∀ s ∈ Json.textsOfFields fields, Known given base declared s := by
      intro s hs
      rcases mem_texts_rawParams hfields hs with hd | hr
      · exact .inr (hsourced s hd)
      · exact .inl (hraw s hr)
    change (Asking.bindFields oracle name fields).run.run declared ctx =
      ⟨(ctx.bindFields name fields, declared), ctx, []⟩
    rw [Asking.run_bindFields, horacle.fieldsBy_eq hknown, Context.bindFields]
    cases Binding.fields ctx.view fields <;> rfl

theorem echoes_holds {directive : String} {c : Condition} (hc : ∀ s ∈ c.toJson.texts, given s) :
    Echoes base (c.holds directive <$> Run.context) (Asking.holds oracle directive c).run := by
  refine echoes_reads fun declared ctx _ => ?_
  rw [Asking.run_holds, horacle.valueBy_eq fun s hs => .inl (hc s hs)]
  rfl

theorem echoes_opens {control : Control} (hc : ∀ s ∈ Condition.textsOf control.guard, given s) :
    Echoes base (control.opens <$> Run.context) (Asking.opens oracle control).run := by
  unfold Control.opens Asking.opens
  cases hg : control.guard with
  | none => exact echoes_pure (Except.ok true)
  | some c =>
    rw [hg] at hc
    exact echoes_holds horacle hc

theorem echoes_decides {control : Control} (outcome : Bool)
    (hc : ∀ s ∈ Condition.textsOf control.verdict, given s) :
    Echoes base (control.decides outcome <$> Run.context)
      (Asking.decides oracle control outcome).run := by
  unfold Control.decides Asking.decides
  cases hv : control.verdict with
  | none => exact echoes_pure (Except.ok outcome)
  | some c =>
    rw [hv] at hc
    exact echoes_holds horacle hc

theorem echoes_assign {entries : List (String × Json)}
    (ht : ∀ s ∈ Json.textsOfFields entries, given s) :
    Echoes base (assign entries).run (Asking.assign oracle entries).run := by
  induction entries with
  | nil => exact echoes_pure (Except.ok ())
  | cons entry rest ih =>
    obtain ⟨name, raw⟩ := entry
    rw [Json.textsOfFields, List.forall_mem_append] at ht
    refine Echoes.readsAttempt ?_ fun value => ?_
    · refine echoes_reads fun declared ctx _ => ?_
      rw [Asking.run_bindValue, horacle.valueBy_eq fun s hs => .inl (ht.1 s hs)]
      cases Binding.value ctx.view raw <;> rfl
    · refine (echoes_note _).lift.bindAttempt fun _ => ?_
      exact (echoes_lift fun _ => rfl).lift.bindAttempt fun _ => ih ht.2

theorem echoes_setDefaults {entries : List (String × Fields Json)}
    (ht : ∀ s ∈ textsOfEntries entries, given s) :
    Echoes base (setDefaults entries).run (Asking.setDefaults oracle entries).run := by
  -- each entry is declared in front of the later ones, so their texts are known from then on
  induction entries with
  | nil => exact echoes_pure (Except.ok ())
  | cons entry rest ih =>
    obtain ⟨plugin, raw⟩ := entry
    rw [textsOfEntries, List.flatMap_cons, List.forall_mem_append] at ht
    refine Echoes.readsAttempt (echoes_bindFields horacle ht.1) fun fields => ?_
    have hmerge : Echoes base (Run.update (·.mergeDefaults plugin fields)) (do
        Run.update (·.mergeDefaults plugin fields)
        modify (· ++ [(plugin, fields)])) := fun declared ctx hs =>
      ⟨[(plugin, fields)], rfl, hs.merge plugin fields⟩
    have h := hmerge.lift.bindAttempt fun _ => ih ht.2
    exact h

omit horacle in
theorem echoes_keep (plugin register : String) (a : Answer) :
    Echoes base (keep plugin register a) (liftM (keep plugin register a) : Asking Unit) := by
  refine echoes_lift fun ctx => ?_
  rw [keep]
  cases Fields.get? "result" (a.result.getD []) <;> rfl

omit horacle in
theorem echoes_callPlugin {p : Plugin} (hp : p.KeepsDefaults) (name : String)
    (params : Fields Json) :
    Echoes base (callPlugin p name params)
      (liftM (callPlugin p name params) : Asking Answer) := by
  refine echoes_lift fun ctx => ?_
  rw [callPlugin_context, hp]

theorem echoes_invoke {registry : Registry} (hr : registry.KeepsDefaults) {name : String}
    {raw : Json} {control : Control} (hraw : ∀ s ∈ raw.texts, given s)
    (hc : ∀ s ∈ Condition.textsOf control.verdict, given s) :
    Echoes base (invoke registry name raw control).run
      (Asking.invoke oracle registry name raw control).run := by
  refine Echoes.readsAttempt (echoes_bindParams horacle hraw) fun params => ?_
  cases h : registry.select name params with
  | error e => exact echoes_pure (Except.error e)
  | ok found => cases found with
    | none => exact echoes_pure (Except.error _)
    | some p =>
      have hp : p.KeepsDefaults := hr name p (Registry.get?_of_select h)
      refine (echoes_callPlugin hp name params).lift.bindAttempt fun a => ?_
      cases control.register with
      | none => exact echoes_decides horacle a.holds hc
      | some register =>
        refine (echoes_keep name register a).lift.bindAttempt fun _ => ?_
        exact echoes_decides horacle a.holds hc

omit horacle in
theorem echoes_conclude (position : Position) (label : String) (outcome : Bool) :
    Echoes base (conclude position label outcome)
      (liftM (conclude position label outcome) : Asking Bool) :=
  echoes_lift fun _ => rfl

end Parts

/-! ## Steps, lists and pipes -/

section Steps

variable {oracle : Oracle} {given : String → Prop} {base : Defaults} {registry : Registry}

mutual

theorem echoes_step (horacle : oracle.Parses given base) (hr : registry.KeepsDefaults) :
    ∀ step : Step, (∀ s ∈ step.texts, given s) →
      Echoes base (step.run registry) (Asking.step oracle registry step)
  | .invalid position cause, _ => by
    rw [Step.run, Asking.step]
    refine (echoes_note _).bind fun _ => ?_
    refine (echoes_note _).bind fun _ => ?_
    exact echoes_conclude position _ false
  | .valid position control content, ht => by
    rw [Step.texts, List.forall_mem_append, List.forall_mem_append] at ht
    obtain ⟨⟨hguard, hverdict⟩, hcontent⟩ := ht
    rw [Step.run, Asking.step]
    refine (echoes_note _).bind fun _ => ?_
    refine Echoes.reads (echoes_opens horacle hguard) fun ctx => ?_
    cases control.opens ctx with
    | error e =>
      refine (echoes_note _).bind fun _ => ?_
      exact echoes_pure true
    | ok opened => cases opened with
      | false =>
        refine (echoes_note _).bind fun _ => ?_
        exact echoes_pure true
      | true =>
        -- the content leaves its outcome in the report, so the end of the step depends on `r` alone
        refine (echoes_content horacle hr control hverdict content hcontent).bind fun r => ?_
        cases r with
        | ok outcome => exact echoes_conclude position _ outcome
        | error e =>
          refine (echoes_note _).bind fun _ => ?_
          exact echoes_conclude position _ false

theorem echoes_content (horacle : oracle.Parses given base) (hr : registry.KeepsDefaults)
    (control : Control) (hverdict : ∀ s ∈ Condition.textsOf control.verdict, given s) :
    ∀ content : Content, (∀ s ∈ content.texts, given s) →
      Echoes base (content.run registry control).run
        (Asking.content oracle registry control content).run
  | .plugin name params, ht => by
    rw [Content.texts] at ht
    rw [Content.run, Asking.content]
    exact echoes_invoke horacle hr ht hverdict
  | .assign entries, ht => by
    rw [Content.texts] at ht
    rw [Content.run, Asking.content]
    refine (echoes_assign horacle ht).bindAttempt fun _ => ?_
    exact echoes_pure (Except.ok true)
  | .defaults entries, ht => by
    rw [Content.texts] at ht
    rw [Content.run, Asking.content]
    refine (echoes_setDefaults horacle ht).bindAttempt fun _ => ?_
    exact echoes_pure (Except.ok true)
  | .pipe steps, ht => by
    rw [Content.texts] at ht
    -- the steps inside add to what is known, although their declarations end with them
    have hsteps : Echoes base (if steps.isEmpty then pure false else runAll registry steps)
        (if steps.isEmpty then pure false else Asking.all oracle registry steps) := by
      split
      · exact echoes_pure false
      · exact echoes_all horacle hr steps ht
    rw [Content.run, Asking.content]
    refine hsteps.restored.lift.bindAttempt fun outcome => ?_
    refine (echoes_note _).lift.bindAttempt fun _ => ?_
    exact echoes_decides horacle true hverdict

theorem echoes_all (horacle : oracle.Parses given base) (hr : registry.KeepsDefaults) :
    ∀ steps : List Step, (∀ s ∈ textsOfSteps steps, given s) →
      Echoes base (runAll registry steps) (Asking.all oracle registry steps)
  | [], _ => by
    rw [runAll, Asking.all]
    exact echoes_pure true
  | first :: rest, ht => by
    rw [textsOfSteps, List.forall_mem_append] at ht
    rw [runAll, Asking.all]
    refine (echoes_step horacle hr first ht.1).bind fun outcome => ?_
    cases outcome with
    | false => exact echoes_pure false
    | true => exact echoes_all horacle hr rest ht.2

end

variable (horacle : oracle.Parses given base) (hr : registry.KeepsDefaults)

include horacle hr

theorem echoes_steps {steps : List Step} (ht : ∀ s ∈ textsOfSteps steps, given s) :
    Echoes base (runSteps registry steps) (Asking.steps oracle registry steps) := by
  rw [runSteps, Asking.steps]
  split
  · exact echoes_pure false
  · exact echoes_all horacle hr steps ht

theorem echoes_pipe {p : Pipe} (ht : ∀ s ∈ p.texts, given s) :
    Echoes base (p.run registry) (Asking.pipe oracle registry p) := by
  rw [Pipe.texts, List.forall_mem_append] at ht
  rw [Pipe.run, Asking.pipe]
  refine Echoes.bind (Echoes.restored ?_) fun outcome => ?_
  · refine (echoes_setDefaults horacle ht.1).bind fun r => ?_
    cases r with
    | ok _ => exact echoes_steps horacle hr ht.2
    | error e =>
      refine (echoes_note _).bind fun _ => ?_
      exact echoes_pure false
  · refine (echoes_note _).bind fun _ => ?_
    exact echoes_pure outcome

theorem echoes_pipes {pipes : List Pipe} (ht : ∀ s ∈ pipes.flatMap Pipe.texts, given s) :
    Echoes base (runPipes registry pipes) (Asking.pipes oracle registry pipes) := by
  rw [runPipes, Asking.pipes]
  generalize false = outcome
  induction pipes generalizing outcome with
  | nil => exact echoes_pure outcome
  | cons p rest ih =>
    rw [List.flatMap_cons, List.forall_mem_append] at ht
    rw [List.foldlM_cons, List.foldlM_cons]
    exact (echoes_pipe horacle hr ht.1).bind fun outcome => ih ht.2 outcome

theorem echoes_init {steps : List Step} (ht : ∀ s ∈ textsOfSteps steps, given s) :
    Echoes base (runInit registry steps) (Asking.init oracle registry steps) := by
  refine (echoes_steps horacle hr ht).bind fun outcome => ?_
  refine (echoes_note _).bind fun _ => ?_
  exact echoes_pure outcome

end Steps

/-- A run that has just started, and nothing declared. -/
theorem Echoes.run'_eq {α : Type} {x : Run α} {y : Asking α} {ctx : Context}
    (h : Echoes ctx.defaults x y) : (y.run' []) ctx = x ctx := by
  obtain ⟨added, hrun, -⟩ := h [] ctx sourced_self
  have hfst : (y.run' []) ctx = ⟨((y.run [] ctx).value).1, (y.run [] ctx).context,
      (y.run [] ctx).events ++ []⟩ := rfl
  rw [hfst, hrun, List.append_nil]

end Sluice

import Sluice.Run.Step

/-!
# Lists of steps and of pipes

What is left of a list of steps is what its processed steps leave, one after the other: they are a
prefix of the list, which ends at the first step that is false.  All pipes of a list are run.

* `Run.chain` : the reports of runs that follow each other;
* `Report.joined` : what a whole sequence of runs leaves;
* `Processed` : the split of a list of steps at the end of the processed ones.
-/

namespace Sluice

variable {α : Type}

/-! ## Sequences of runs -/

/-- The reports of runs of which each starts where the one before it has ended. -/
def Run.chain : List (Run α) → Context → List (Report α)
  | [], _ => []
  | x :: rest, ctx => x ctx :: Run.chain rest (x ctx).context

/-- The value and the context of the last report, and the events of all; without reports, false
and the context at the start. -/
def Report.joined (start : Context) (reports : List (Report Bool)) : Report Bool :=
  ⟨(reports.getLast?.map (·.value)).getD false, (reports.getLast?.map (·.context)).getD start,
    reports.flatMap (·.events)⟩

@[simp] theorem Run.chain_nil (ctx : Context) : Run.chain ([] : List (Run α)) ctx = [] := rfl

@[simp] theorem Run.chain_cons (x : Run α) (rest : List (Run α)) (ctx : Context) :
    Run.chain (x :: rest) ctx = x ctx :: Run.chain rest (x ctx).context := rfl

@[simp] theorem Report.joined_nil (start : Context) : Report.joined start [] = ⟨false, start, []⟩ :=
  rfl

theorem Report.joined_singleton (start : Context) (r : Report Bool) :
    Report.joined start [r] = r := by
  simp [Report.joined]

theorem Report.joined_cons_cons (start : Context) (r s : Report Bool) (rest : List (Report Bool)) :
    Report.joined start (r :: s :: rest) =
      ⟨(Report.joined r.context (s :: rest)).value, (Report.joined r.context (s :: rest)).context,
        r.events ++ (Report.joined r.context (s :: rest)).events⟩ := by
  obtain ⟨last, hlast⟩ : ∃ last, (s :: rest).getLast? = some last :=
    ⟨_, List.getLast?_eq_some_getLast (List.cons_ne_nil s rest)⟩
  simp only [Report.joined, List.getLast?_cons_cons, hlast, Option.map_some, Option.getD_some,
    List.flatMap_cons]

/-! ## Lists of steps -/

section Steps

variable {registry : Registry}

theorem runAll_cons (step : Step) (rest : List Step) (ctx : Context) :
    runAll registry (step :: rest) ctx =
      if (step.run registry ctx).value then
        let r := runAll registry rest (step.run registry ctx).context
        ⟨r.value, r.context, (step.run registry ctx).events ++ r.events⟩
      else step.run registry ctx := by
  rw [runAll, Run.bind_apply]
  cases h : step.run registry ctx with
  | mk value after events => cases value <;> simp

theorem runSteps_of_ne_nil {steps : List Step} (h : steps ≠ []) :
    runSteps registry steps = runAll registry steps := by
  rw [runSteps, if_neg (by simpa using h)]

theorem runSteps_events (steps : List Step) (ctx : Context) :
    (runSteps registry steps ctx).events = (runAll registry steps ctx).events := by
  cases steps <;> rfl

theorem runInit_apply (steps : List Step) (ctx : Context) :
    runInit registry steps ctx =
      let r := runSteps registry steps ctx
      ⟨r.value, r.context, r.events ++ [.initFinished r.value]⟩ := by
  rw [runInit, Run.bind_apply]
  rfl

/-- The steps of `done` are processed in a context, and those of `rest` are not. -/
structure Processed (registry : Registry) (ctx : Context) (done rest : List Step) : Prop where
  /-- All processed steps but the last one are true. -/
  true_before : ∀ r ∈ (Run.chain (done.map (·.run registry)) ctx).dropLast, r.value = true
  /-- Behind a step that is true, the list goes on. -/
  false_last : rest ≠ [] →
    ((Run.chain (done.map (·.run registry)) ctx).getLast?.map (·.value)) = some false

theorem Processed.singleton {ctx : Context} {step : Step} {rest : List Step}
    (h : rest ≠ [] → (step.run registry ctx).value = false) :
    Processed registry ctx [step] rest :=
  ⟨by simp, fun hrest => by simp [h hrest]⟩

theorem Processed.cons {ctx : Context} {step next : Step} {done rest : List Step}
    (hstep : (step.run registry ctx).value = true)
    (h : Processed registry (step.run registry ctx).context (next :: done) rest) :
    Processed registry ctx (step :: next :: done) rest := by
  refine ⟨fun r hr => ?_, fun hrest => ?_⟩
  · simp only [List.map_cons, Run.chain_cons, List.dropLast_cons_cons, List.mem_cons] at hr
    rcases hr with rfl | hr
    · exact hstep
    · exact h.true_before r hr
  · have hlast := h.false_last hrest
    simp only [List.map_cons, Run.chain_cons, List.getLast?_cons_cons] at hlast ⊢
    exact hlast

/-- A list that is run leaves what its processed steps leave. -/
theorem exists_processed_runAll (step : Step) (steps : List Step) (ctx : Context) :
    ∃ done rest, steps = done ++ rest ∧ Processed registry ctx (step :: done) rest ∧
      runAll registry (step :: steps) ctx =
        Report.joined ctx (Run.chain ((step :: done).map (·.run registry)) ctx) := by
  induction steps generalizing step ctx with
  | nil =>
    refine ⟨[], [], rfl, .singleton fun h => absurd rfl h, ?_⟩
    rw [runAll_cons, runAll, Run.pure_apply]
    cases h : step.run registry ctx with
    | mk value after events => cases value <;> simp [h, Report.joined_singleton]
  | cons next steps ih =>
    cases hv : (step.run registry ctx).value with
    | false =>
      refine ⟨[], next :: steps, rfl, .singleton fun _ => hv, ?_⟩
      rw [runAll_cons, if_neg (by rw [hv]; exact Bool.false_ne_true)]
      simp [Report.joined_singleton]
    | true =>
      obtain ⟨done, rest, hsplit, hdone, hrun⟩ := ih next (step.run registry ctx).context
      refine ⟨next :: done, rest, by rw [hsplit]; rfl, hdone.cons hv, ?_⟩
      rw [runAll_cons, if_pos hv, hrun]
      simp only [List.map_cons, Run.chain_cons, Report.joined_cons_cons]

theorem exists_processed (steps : List Step) (ctx : Context) :
    ∃ done rest, steps = done ++ rest ∧ (steps ≠ [] → done ≠ []) ∧
      Processed registry ctx done rest ∧
      runSteps registry steps ctx =
        Report.joined ctx (Run.chain (done.map (·.run registry)) ctx) := by
  cases steps with
  | nil => exact ⟨[], [], rfl, id, ⟨by simp, fun h => absurd rfl h⟩, rfl⟩
  | cons step steps =>
    obtain ⟨done, rest, hsplit, hdone, hrun⟩ := exists_processed_runAll step steps ctx
    refine ⟨step :: done, rest, by rw [hsplit]; rfl, fun _ => List.cons_ne_nil _ _, hdone, ?_⟩
    rw [runSteps, if_neg (by simp), hrun]

theorem runAll_append (xs ys : List Step) :
    runAll registry (xs ++ ys) =
      (do if ← runAll registry xs then runAll registry ys else return false) := by
  induction xs with
  | nil => rw [List.nil_append, runAll, pure_bind]; rfl
  | cons step xs ih =>
    rw [List.cons_append, runAll, ih, runAll, bind_assoc]
    congr 1
    funext outcome
    cases outcome with
    | false => exact (pure_bind _ _).symm
    | true => rfl

theorem runAll_append_apply (xs ys : List Step) (ctx : Context) :
    runAll registry (xs ++ ys) ctx =
      if (runAll registry xs ctx).value then
        let r := runAll registry ys (runAll registry xs ctx).context
        ⟨r.value, r.context, (runAll registry xs ctx).events ++ r.events⟩
      else runAll registry xs ctx := by
  rw [runAll_append, Run.bind_apply]
  cases h : runAll registry xs ctx with
  | mk value after events => cases value <;> simp

theorem runSteps_append (x y : Step) (xs ys : List Step) :
    runSteps registry (x :: xs ++ y :: ys) =
      (do if ← runSteps registry (x :: xs) then runSteps registry (y :: ys) else return false) :=
  runAll_append (x :: xs) (y :: ys)

end Steps

end Sluice

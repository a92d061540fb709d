import Mathlib
import Sluice.Proofs.Running.Lists
import Sluice.Proofs.Running.Parts

/-!
# Steps that are passed over

A step whose guard is bound to anything but true leaves no trace in the context.  Every other step
leaves its own outcome there, whatever the steps inside of it have left before.  So what a list
leaves is the outcome of the last step that was not passed over, and the steps that were can be
taken out of the list.

* `Step.isSkipped` : whether a step is passed over in a context;
* `processedIn`, `evaluatedIn` : the processed steps of a list, and those that are not passed over,
  each with the context that it starts in;
* `withoutSkipped` : the list without the steps that are passed over.
-/

namespace Sluice

/-- Whether a step is passed over: it makes sense and has a guard that is bound to anything but
true, or not bound at all. -/
def Step.isSkipped : Step → Context → Bool
  | .invalid .., _ => false
  | .valid _ control _, ctx => match control.guard with
    | none => false
    | some c => match Binding.value ctx.view c.toJson with
      | .ok (.bool true) => false
      | _ => true

/-- The steps that are processed when a list is run in a context, each with the context that it
starts in. -/
def processedIn (registry : Registry) : List Step → Context → List (Step × Context)
  | [], _ => []
  | step :: rest, ctx =>
    (step, ctx) ::
      if (step.run registry ctx).value then processedIn registry rest (step.run registry ctx).context
      else []

/-- The processed steps that are not passed over. -/
def evaluatedIn (registry : Registry) (steps : List Step) (ctx : Context) : List (Step × Context) :=
  (processedIn registry steps ctx).filter fun p => ¬ p.1.isSkipped p.2

/-- A list without the steps that are passed over when it is run; those that are not processed
stay. -/
def withoutSkipped (registry : Registry) (steps : List Step) (ctx : Context) : List Step :=
  (evaluatedIn registry steps ctx).map (·.1) ++
    steps.drop (processedIn registry steps ctx).length

/-! ## Single steps -/

section Step

variable {registry : Registry} {step : Step} {ctx : Context}

theorem Step.isSkipped_eq_false_iff (position : Position) (control : Control) (content : Content) :
    (Step.valid position control content).isSkipped ctx = false ↔ control.opens ctx = .ok true := by
  cases hguard : control.guard with
  | none => simp [isSkipped, Control.opens, hguard]
  | some c =>
    simp only [isSkipped, Control.opens, Condition.holds, hguard]
    cases Binding.value ctx.view c.toJson with
    | error e => simp
    | ok v => cases v with
      | bool b => cases b <;> simp
      | _ => simp

theorem Step.isSkipped_iff : step.isSkipped ctx = true ↔
    ∃ position control content c, step = .valid position control content ∧
      control.guard = some c ∧ Binding.value ctx.view c.toJson ≠ .ok (.bool true) := by
  constructor
  · intro h
    cases step with
    | invalid position cause => cases h
    | valid position control content =>
      cases hguard : control.guard with
      | none => simp [isSkipped, hguard] at h
      | some c =>
        refine ⟨position, control, content, c, rfl, hguard, fun htrue => ?_⟩
        simp [isSkipped, hguard, htrue] at h
  · rintro ⟨position, control, content, c, rfl, hguard, hne⟩
    simp only [isSkipped, hguard]

variable (registry) in
/-- A step that is passed over is true and leaves the context as it was. -/
theorem Step.run_of_isSkipped (h : step.isSkipped ctx = true) :
    (step.run registry ctx).value = true ∧ (step.run registry ctx).context = ctx := by
  cases step with
  | invalid position cause => cases h
  | valid position control content =>
    rw [run_of_closed position content fun hopens => ?_]
    · exact ⟨rfl, rfl⟩
    · rw [(isSkipped_eq_false_iff position control content).2 hopens] at h
      cases h

variable (registry) in
/-- Any other step leaves its outcome. -/
theorem Step.result_run (h : step.isSkipped ctx = false) :
    (step.run registry ctx).context.result = (step.run registry ctx).value := by
  cases step with
  | invalid position cause => rw [run_invalid]
  | valid position control content =>
    rw [run_of_opens position content ((isSkipped_eq_false_iff position control content).1 h)]
    dsimp only
    cases ((content.run registry control).run ctx).value with
    | ok outcome => rfl
    | error e => rfl

theorem Step.isSkipped_of_false (h : (step.run registry ctx).value = false) :
    step.isSkipped ctx = false := by
  cases hskip : step.isSkipped ctx with
  | false => rfl
  | true =>
    rw [(run_of_isSkipped registry hskip).1] at h
    cases h

end Step

/-! ## Lists of steps -/

section Lists

variable {registry : Registry}

theorem evaluatedIn_cons (step : Step) (rest : List Step) (ctx : Context) :
    evaluatedIn registry (step :: rest) ctx =
      if step.isSkipped ctx then evaluatedIn registry rest ctx
      else (step, ctx) ::
        if (step.run registry ctx).value then
          evaluatedIn registry rest (step.run registry ctx).context
        else [] := by
  cases hskip : step.isSkipped ctx with
  | true =>
    obtain ⟨hvalue, hcontext⟩ := Step.run_of_isSkipped registry hskip
    simp [evaluatedIn, processedIn, hskip, hvalue, hcontext]
  | false => cases hvalue : (step.run registry ctx).value <;>
      simp [evaluatedIn, processedIn, hskip, hvalue]

theorem withoutSkipped_cons (step : Step) (rest : List Step) (ctx : Context) :
    withoutSkipped registry (step :: rest) ctx =
      if step.isSkipped ctx then withoutSkipped registry rest ctx
      else step ::
        if (step.run registry ctx).value then
          withoutSkipped registry rest (step.run registry ctx).context
        else rest := by
  cases hskip : step.isSkipped ctx with
  | true =>
    obtain ⟨hvalue, hcontext⟩ := Step.run_of_isSkipped registry hskip
    simp [withoutSkipped, evaluatedIn_cons, processedIn, hskip, hvalue, hcontext]
  | false => cases hvalue : (step.run registry ctx).value <;>
      simp [withoutSkipped, evaluatedIn_cons, processedIn, hskip, hvalue]

theorem runSteps_context (steps : List Step) (ctx : Context) :
    (runSteps registry steps ctx).context = (runAll registry steps ctx).context := by
  cases steps <;> rfl

/-- The flag behind a list is that of the last step that was not passed over. -/
theorem result_runAll (steps : List Step) (ctx : Context) :
    (runAll registry steps ctx).context.result =
      ((evaluatedIn registry steps ctx).getLast?.map fun p => (p.1.run registry p.2).value).getD
        ctx.result := by
  induction steps generalizing ctx with
  | nil => rfl
  | cons step rest ih =>
    rw [runAll_cons, evaluatedIn_cons]
    cases hskip : step.isSkipped ctx with
    | true =>
      obtain ⟨hvalue, hcontext⟩ := Step.run_of_isSkipped registry hskip
      rw [if_pos hvalue, if_pos rfl, hcontext]
      exact ih ctx
    | false =>
      have hresult := Step.result_run registry hskip
      cases hvalue : (step.run registry ctx).value with
      | false => simpa [hvalue] using hresult
      | true =>
        -- the step's own outcome is what the rest of the list starts from
        have hrest := ih (step.run registry ctx).context
        rw [hresult, hvalue] at hrest
        simp only [if_true, Bool.false_eq_true, if_false, hrest, List.getLast?_cons]
        cases (evaluatedIn registry rest (step.run registry ctx).context).getLast? <;> simp [hvalue]

/-- A list that ends false ends at a step that was not passed over. -/
theorem result_runAll_of_false {steps : List Step} {ctx : Context}
    (h : (runAll registry steps ctx).value = false) :
    (runAll registry steps ctx).context.result = false := by
  induction steps generalizing ctx with
  | nil => cases h
  | cons step rest ih =>
    rw [runAll_cons] at h ⊢
    cases hvalue : (step.run registry ctx).value with
    | true =>
      rw [if_pos hvalue] at h
      rw [if_pos rfl]
      exact ih h
    | false =>
      rw [if_neg Bool.false_ne_true, Step.result_run registry (Step.isSkipped_of_false hvalue), hvalue]

/-- Without the steps that were passed over, a list gives the same and leaves the same context. -/
theorem runAll_withoutSkipped (steps : List Step) (ctx : Context) :
    let r := runAll registry (withoutSkipped registry steps ctx) ctx
    r.value = (runAll registry steps ctx).value ∧
      r.context = (runAll registry steps ctx).context := by
  induction steps generalizing ctx with
  | nil => exact ⟨rfl, rfl⟩
  | cons step rest ih =>
    rw [withoutSkipped_cons, runAll_cons]
    cases hskip : step.isSkipped ctx with
    | true =>
      obtain ⟨hvalue, hcontext⟩ := Step.run_of_isSkipped registry hskip
      rw [if_pos rfl, if_pos hvalue, hcontext]
      exact ih ctx
    | false =>
      rw [if_neg Bool.false_ne_true, runAll_cons]
      cases hvalue : (step.run registry ctx).value with
      | true => exact ih (step.run registry ctx).context
      | false => exact ⟨rfl, rfl⟩

end Lists

/-- Passing over is invisible, and the flag is that of the last step that was not passed over.  A
step is passed over if its guard is bound to false, to no boolean or not at all: it is then true and
leaves the context as it was.  Any other step leaves its outcome, and so does a list leave that of
the last one, unless there is none.  The steps that are passed over can be taken out of the list:
the context is the same, and so is the outcome unless no step is left. -/
theorem runSteps_flags_last_evaluated (registry : Registry) :
    (∀ (step : Step) (ctx : Context),
      let r := step.run registry ctx
      (step.isSkipped ctx = true ↔ ∃ position control content c,
        step = .valid position control content ∧ control.guard = some c ∧
        Binding.value ctx.view c.toJson ≠ .ok (.bool true)) ∧
      (step.isSkipped ctx = true → r.value = true ∧ r.context = ctx) ∧
      (step.isSkipped ctx = false → r.context.result = r.value)) ∧
    ∀ (steps : List Step) (ctx : Context),
      let r := runSteps registry steps ctx
      let evaluated := evaluatedIn registry steps ctx
      r.context.result =
        (evaluated.getLast?.map fun p => (p.1.run registry p.2).value).getD ctx.result ∧
      (steps ≠ [] → r.value = false → r.context.result = false) ∧
      let r' := runSteps registry (withoutSkipped registry steps ctx) ctx
      r'.context = r.context ∧ (withoutSkipped registry steps ctx ≠ [] → r'.value = r.value) := by
  refine ⟨fun step ctx => ⟨Step.isSkipped_iff, Step.run_of_isSkipped registry,
    Step.result_run registry⟩, fun steps ctx => ⟨?_, fun hne hvalue => ?_, ?_, fun hne => ?_⟩⟩
  · rw [runSteps_context]
    exact result_runAll steps ctx
  · rw [runSteps_context]
    rw [runSteps_of_ne_nil hne] at hvalue
    exact result_runAll_of_false hvalue
  · rw [runSteps_context, runSteps_context]
    exact (runAll_withoutSkipped steps ctx).2
  -- an empty list is false, even when it is all that is left of skipped steps
  · have hsteps : steps ≠ [] := by
      rintro rfl
      exact hne rfl
    rw [runSteps_of_ne_nil hne, runSteps_of_ne_nil hsteps]
    exact (runAll_withoutSkipped steps ctx).1

/-- A step whose guard has no value, one that ends with an invalid step inside of it, and one whose
guard is no boolean. -/
def guardedSteps : List Step :=
  let here : Position := ⟨"guarded", []⟩
  let guarded (guard : Option Condition) (name : String) : Step :=
    .valid here ⟨none, guard, none, none⟩ (.assign [(name, .bool true)])
  [guarded (some (.text "=V.missing")) "a",
    .valid here ⟨none, none, none, none⟩ (.pipe [guarded none "b", .invalid here .noContent]),
    guarded (some (.text "yes")) "c"]

/-- The step in the middle is the only one that is not passed over: it is true although the last
step inside of it has left false, and alone it leaves the same. -/
theorem runSteps_guardedSteps :
    let r := runSteps .empty guardedSteps .empty
    let middle := (guardedSteps.drop 1).take 1
    withoutSkipped .empty guardedSteps .empty = middle ∧ r.context.result = true ∧
    r.context.assigned = [("b", .bool true)] ∧
    (runSteps .empty middle .empty).context = r.context := by
  intro r middle
  have hleft : withoutSkipped .empty guardedSteps .empty = middle := by
    cbv
  have hevaluated : (evaluatedIn .empty guardedSteps .empty) = middle.map (·, .empty) := by
    cbv
  obtain ⟨hresult, -, hcontext, -⟩ :=
    (runSteps_flags_last_evaluated .empty).2 guardedSteps .empty
  rw [hleft] at hcontext
  rw [hevaluated] at hresult
  refine ⟨hleft, hresult.trans ?_, ?_, hcontext⟩
  · rfl
  · rw [← show _ = r.context from hcontext]
    rfl

end Sluice

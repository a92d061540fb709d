import Sluice.Proofs.Running.Started

/-!
# Positions are mere names

The positions of steps are for the log.  Whatever positions the steps are given, a run leaves the
same value and the same context, and it processes the steps at the same addresses.
-/

namespace Sluice

variable {α β : Type}

/-! ## Other positions -/

mutual

/-- A step with other positions: each step gets that of its address. -/
def Step.renamed (f : Address → Position) : Step → Step
  | .invalid _ cause => .invalid (f []) cause
  | .valid _ control content => .valid (f []) control (content.renamed f)

def Content.renamed (f : Address → Position) : Content → Content
  | .plugin name params => .plugin name params
  | .assign entries => .assign entries
  | .defaults entries => .defaults entries
  | .pipe steps => .pipe (renamedFrom f 0 steps)

def renamedFrom (f : Address → Position) (i : Nat) : List Step → List Step
  | [] => []
  | step :: rest => step.renamed (fun a => f (i :: a)) :: renamedFrom f (i + 1) rest

end

def Pipe.renamed (f : Address → Position) (p : Pipe) : Pipe :=
  { p with steps := renamedFrom f 0 p.steps }

/-- The end of a list of pipes, from number `k` on, with other positions of their steps. -/
def pipesRenamedFrom (f : Address → Position) (k : Nat) : List Pipe → List Pipe
  | [] => []
  | p :: rest => p.renamed (fun a => f (k :: a)) :: pipesRenamedFrom f (k + 1) rest

theorem getElem?_renamedFrom (f : Address → Position) (i j : Nat) (steps : List Step) :
    (renamedFrom f i steps)[j]? = steps[j]?.map (·.renamed fun a => f ((i + j) :: a)) := by
  induction steps generalizing i j with
  | nil => rfl
  | cons step rest ih =>
    cases j with
    | zero => rfl
    | succ j =>
      rw [renamedFrom, List.getElem?_cons_succ, List.getElem?_cons_succ, ih]
      rw [Nat.add_right_comm i 1 j, Nat.add_assoc i j 1]

theorem getElem?_pipesRenamedFrom (f : Address → Position) (k j : Nat) (pipes : List Pipe) :
    (pipesRenamedFrom f k pipes)[j]? = pipes[j]?.map (·.renamed fun a => f ((k + j) :: a)) := by
  induction pipes generalizing k j with
  | nil => rfl
  | cons p rest ih =>
    cases j with
    | zero => rfl
    | succ j =>
      rw [pipesRenamedFrom, List.getElem?_cons_succ, List.getElem?_cons_succ, ih]
      rw [Nat.add_right_comm k 1 j, Nat.add_assoc k j 1]

theorem Step.position_renamed (f : Address → Position) (step : Step) :
    (step.renamed f).position = f [] := by
  cases step <;> rfl

theorem Step.inner_renamed (f : Address → Position) (step : Step) :
    (step.renamed f).inner = renamedFrom f 0 step.inner := by
  cases step with
  | invalid position cause => rfl
  | valid position control content => cases content <;> rfl

theorem Step.at?_renamed (f : Address → Position) (step : Step) (a : Address) :
    ((step.renamed f).at? a).map Step.position = (step.at? a).map fun _ => f a := by
  induction a generalizing f step with
  | nil => rw [Step.at?, Step.at?, Option.map_some, Option.map_some, Step.position_renamed]
  | cons i rest ih =>
    rw [Step.at?, Step.at?, Step.inner_renamed, getElem?_renamedFrom]
    cases step.inner[i]? with
    | none => rfl
    | some inner =>
      rw [Option.map_some, Option.bind_some, Option.bind_some, ih, Nat.zero_add]

theorem stepAt?_renamedFrom (f : Address → Position) (steps : List Step) (a : Address) :
    (stepAt? (renamedFrom f 0 steps) a).map Step.position = (stepAt? steps a).map fun _ => f a := by
  cases a with
  | nil => rfl
  | cons i rest =>
    rw [stepAt?, stepAt?, getElem?_renamedFrom]
    cases steps[i]? with
    | none => rfl
    | some step =>
      rw [Option.map_some, Option.bind_some, Option.bind_some, Step.at?_renamed, Nat.zero_add]

theorem pipeStepAt?_renamedFrom (f : Address → Position) (pipes : List Pipe) (a : Address) :
    (pipeStepAt? (pipesRenamedFrom f 0 pipes) a).map Step.position =
      (pipeStepAt? pipes a).map fun _ => f a := by
  cases a with
  | nil => rfl
  | cons k rest =>
    rw [pipeStepAt?, pipeStepAt?, getElem?_pipesRenamedFrom]
    cases pipes[k]? with
    | none => rfl
    | some p =>
      have h := stepAt?_renamedFrom (fun a => f (k :: a)) p.steps rest
      rw [Option.map_some, Option.bind_some, Option.bind_some, Nat.zero_add]
      exact h

/-! ## The same course -/

/-- Two runs that leave the same value and the same context, wherever they begin. -/
def SameCourse (x y : Run α) : Prop :=
  ∀ ctx, (x ctx).value = (y ctx).value ∧ (x ctx).context = (y ctx).context

section Course

theorem SameCourse.refl (x : Run α) : SameCourse x x := fun _ => ⟨rfl, rfl⟩

theorem SameCourse.bind {x y : Run α} {f g : α → Run β} (h : SameCourse x y)
    (hf : ∀ a, SameCourse (f a) (g a)) : SameCourse (x >>= f) (y >>= g) := by
  intro ctx
  obtain ⟨hv, hc⟩ := h ctx
  rw [Run.bind_apply, Run.bind_apply, hv, hc]
  exact hf _ _

theorem sameCourse_note (e e' : Event) : SameCourse (Run.note e) (Run.note e') :=
  fun _ => ⟨rfl, rfl⟩

theorem sameCourse_conclude (position position' : Position) (label label' : String)
    (outcome : Bool) :
    SameCourse (conclude position label outcome) (conclude position' label' outcome) :=
  (sameCourse_note _ _).bind fun _ => .refl _

theorem SameCourse.lift {x y : Run α} (h : SameCourse x y) :
    SameCourse (ExceptT.lift x : Attempt α).run (ExceptT.lift y : Attempt α).run :=
  h.bind fun _ => .refl _

theorem SameCourse.bindAttempt {x y : Attempt α} {f : α → Attempt β}
    (h : SameCourse x.run y.run) : SameCourse (x >>= f).run (y >>= f).run :=
  SameCourse.bind h fun _ => .refl _

theorem SameCourse.withDefaultsRestored {x y : Run α} (h : SameCourse x y) :
    SameCourse (withDefaultsRestored x) (withDefaultsRestored y) := by
  refine (SameCourse.refl _).bind fun before => h.bind fun a => ?_
  exact .refl _

variable {registry : Registry}

mutual

theorem Step.sameCourse_renamed : ∀ (f : Address → Position) (step : Step),
    SameCourse ((step.renamed f).run registry) (step.run registry)
  | f, .invalid position cause => by
    rw [Step.renamed, Step.run, Step.run]
    refine (sameCourse_note _ _).bind fun _ => (sameCourse_note _ _).bind fun _ => ?_
    exact sameCourse_conclude _ _ _ _ _
  | f, .valid position control content => by
    have hcontent := content.sameCourse_renamed f control
    rw [Step.renamed, Step.run, Step.run]
    refine (sameCourse_note _ _).bind fun _ => (SameCourse.refl _).bind fun ctx => ?_
    cases control.opens ctx with
    | error e => exact (sameCourse_note _ _).bind fun _ => .refl _
    | ok opened => cases opened with
      | false => exact (sameCourse_note _ _).bind fun _ => .refl _
      | true =>
        refine hcontent.bind fun r => ?_
        cases r with
        | ok outcome => exact sameCourse_conclude _ _ _ _ _
        | error e => exact (sameCourse_note _ _).bind fun _ => sameCourse_conclude _ _ _ _ _

theorem Content.sameCourse_renamed : ∀ (f : Address → Position) (control : Control)
    (content : Content),
    SameCourse ((content.renamed f).run registry control).run (content.run registry control).run
  | _, _, .plugin .. | _, _, .assign _ | _, _, .defaults _ => .refl _
  | f, control, .pipe steps => by
    have hsteps := sameCourse_renamedFrom f 0 steps
    have hempty : (renamedFrom f 0 steps).isEmpty = steps.isEmpty := by
      cases steps <;> rfl
    rw [Content.renamed, Content.run, Content.run, hempty]
    refine SameCourse.bindAttempt (SameCourse.lift (SameCourse.withDefaultsRestored ?_))
    split
    · exact .refl _
    · exact hsteps

theorem sameCourse_renamedFrom : ∀ (f : Address → Position) (i : Nat) (steps : List Step),
    SameCourse (runAll registry (renamedFrom f i steps)) (runAll registry steps)
  | _, _, [] => .refl _
  | f, i, step :: rest => by
    have hstep := step.sameCourse_renamed fun a => f (i :: a)
    have hrest := sameCourse_renamedFrom f (i + 1) rest
    rw [renamedFrom, runAll, runAll]
    refine hstep.bind fun outcome => ?_
    cases outcome with
    | false => exact .refl _
    | true => exact hrest

end

theorem sameCourse_runSteps_renamedFrom (f : Address → Position) (steps : List Step) :
    SameCourse (runSteps registry (renamedFrom f 0 steps)) (runSteps registry steps) := by
  cases steps with
  | nil => exact .refl _
  | cons step rest => exact sameCourse_renamedFrom f 0 (step :: rest)

theorem Pipe.sameCourse_renamed (f : Address → Position) (p : Pipe) :
    SameCourse ((p.renamed f).run registry) (p.run registry) := by
  rw [Pipe.run, Pipe.run]
  refine SameCourse.bind (SameCourse.withDefaultsRestored ?_) fun outcome => .refl _
  refine (SameCourse.refl _).bind fun r => ?_
  cases r with
  | error e => exact .refl _
  | ok u => exact sameCourse_runSteps_renamedFrom f p.steps

end Course

/-! ## The same visits -/

section Visits

variable {registry : Registry}

mutual

theorem Step.visits_renamed : ∀ (f : Address → Position) (step : Step) (ctx : Context),
    (step.renamed f).visits registry ctx = step.visits registry ctx
  | f, .invalid position cause, ctx => by rw [Step.renamed, Step.visits, Step.visits]
  | f, .valid position control content, ctx => by
    rw [Step.renamed, Step.visits, Step.visits, content.visits_renamed f ctx]

theorem Content.visits_renamed : ∀ (f : Address → Position) (content : Content) (ctx : Context),
    (content.renamed f).visits registry ctx = content.visits registry ctx
  | _, .plugin .., _ | _, .assign _, _ | _, .defaults _, _ => rfl
  | f, .pipe steps, ctx => by
    rw [Content.renamed, Content.visits, Content.visits, visitsFrom_renamedFrom f 0 steps ctx]

theorem visitsFrom_renamedFrom : ∀ (f : Address → Position) (i : Nat) (steps : List Step)
    (ctx : Context),
    visitsFrom registry i (renamedFrom f i steps) ctx = visitsFrom registry i steps ctx
  | _, _, [], _ => rfl
  | f, i, step :: rest, ctx => by
    have hcourse : SameCourse ((step.renamed fun a => f (i :: a)).run registry)
        (step.run registry) := step.sameCourse_renamed _
    obtain ⟨hv, hc⟩ := hcourse ctx
    rw [renamedFrom, visitsFrom, visitsFrom, step.visits_renamed, hv, hc,
      visitsFrom_renamedFrom f (i + 1) rest]

end

theorem Pipe.visits_renamed (f : Address → Position) (p : Pipe) (ctx : Context) :
    (p.renamed f).visits registry ctx = p.visits registry ctx := by
  obtain ⟨outcome, d, h⟩ := exists_setDefaults_run p.defaults ctx
  have h' : (setDefaults (p.renamed f).defaults).run ctx =
      ⟨outcome, { ctx with defaults := d }, []⟩ := h
  rw [Pipe.visits, Pipe.visits, h, h']
  cases outcome with
  | error e => rfl
  | ok u => exact visitsFrom_renamedFrom f 0 p.steps _

theorem pipeVisitsFrom_renamedFrom (f : Address → Position) (k : Nat) (pipes : List Pipe)
    (ctx : Context) :
    pipeVisitsFrom registry k (pipesRenamedFrom f k pipes) ctx =
      pipeVisitsFrom registry k pipes ctx := by
  induction pipes generalizing k ctx with
  | nil => rfl
  | cons p rest ih =>
    rw [pipesRenamedFrom, pipeVisitsFrom, pipeVisitsFrom, p.visits_renamed,
      (p.sameCourse_renamed (fun a => f (k :: a)) ctx).2, ih]

end Visits

end Sluice

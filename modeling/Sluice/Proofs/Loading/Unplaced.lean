import Sluice.Config.Reader

/-!
# Configurations up to positions

`Config.unplaced` forgets where the steps and the pipes of a configuration stand, and keeps all that
is run: names, contents, parameters, directives and what is wrong with a step.  Steps in the making
forget the positions of the steps that they hold.  Taking in a directive commutes with forgetting
(`Draft.unplaced_add`), and so does finishing a step (`Draft.unplaced_finish`).
-/

namespace Sluice

/-- The position of what has been taken out of its document. -/
def Position.nowhere : Position := ⟨"", []⟩

mutual

/-- A content without the positions of its steps. -/
def Content.unplaced : Content → Content
  | .pipe steps => .pipe (unplacedSteps steps)
  | .plugin name params => .plugin name params
  | .assign entries => .assign entries
  | .defaults entries => .defaults entries

def Step.unplaced : Step → Step
  | .invalid _ cause => .invalid .nowhere cause
  | .valid _ control content => .valid .nowhere control content.unplaced

def unplacedSteps : List Step → List Step
  | [] => []
  | step :: rest => step.unplaced :: unplacedSteps rest

end

theorem unplacedSteps_eq_map (steps : List Step) :
    unplacedSteps steps = steps.map Step.unplaced := by
  induction steps with
  | nil => rfl
  | cons step rest ih => rw [unplacedSteps, ih, List.map_cons]

def Pipe.unplaced (p : Pipe) : Pipe := ⟨p.name, .nowhere, p.defaults, unplacedSteps p.steps⟩

def Config.PipeDraft.unplaced (d : Config.PipeDraft) : Config.PipeDraft :=
  { d with steps := d.steps.map unplacedSteps }

theorem Config.PipeDraft.unplaced_eq_iff {d d' : Config.PipeDraft} :
    d.unplaced = d'.unplaced ↔ d.name = d'.name ∧ d.defaults = d'.defaults ∧
      d.steps.map unplacedSteps = d'.steps.map unplacedSteps := by
  simp [unplaced]

def Config.unplaced (c : Config) : Config := ⟨c.init.map unplacedSteps, c.pipes.map Pipe.unplaced⟩

theorem Config.unplaced_append (a b : Config) :
    (a.append b).unplaced = a.unplaced.append b.unplaced := by
  obtain ⟨_ | init, pipes⟩ := a <;> simp [append, unplaced]

@[simp] theorem Content.kind_unplaced (c : Content) : c.unplaced.kind = c.kind := by
  cases c <;> simp [unplaced, kind]

namespace Draft

/-- A step in the making, without the positions of the steps that it holds. -/
def unplaced (d : Draft) : Draft := { d with content := d.content.map Content.unplaced }

@[simp] theorem unplaced_fill (d : Draft) (directive : String) (found : Except StepError Content) :
    (d.fill directive found).unplaced = d.unplaced.fill directive (found.map Content.unplaced) := by
  obtain ⟨control, content, cause⟩ := d
  cases found with
  | error e => rfl
  | ok c => cases content <;> simp [fill, unplaced, reject, Except.map]

theorem unplaced_add (known : String → Bool) (d : Draft) (key : String) (value : Json) :
    (d.add known key value).unplaced = d.unplaced.add known key value := by
  -- only `pipe` holds steps: no other content has positions to take out
  have hassign : ((assignments value).map .assign).map Content.unplaced =
      (assignments value).map .assign := by
    cases assignments value <;> simp [Except.map, Content.unplaced]
  have hdefaults : ((defaultEntries value).map .defaults).map Content.unplaced =
      (defaultEntries value).map .defaults := by
    cases defaultEntries value <;> simp [Except.map, Content.unplaced]
  unfold add
  split
  · split <;> rfl
  split
  · split <;> rfl
  split
  · split <;> rfl
  split
  · split
    · split <;> rfl
    · rfl
  split
  · rw [unplaced_fill, hassign]
  split
  · rw [unplaced_fill, hdefaults]
  split
  · simp [Except.map, Content.unplaced]
  · simp [Except.map]

/-- What is done to a step in the making depends on the positions in it no more than what is
found. -/
theorem unplaced_add_congr {d d' : Draft} (h : d.unplaced = d'.unplaced) (known : String → Bool)
    (key : String) (value : Json) :
    (d.add known key value).unplaced = (d'.add known key value).unplaced := by
  rw [unplaced_add, unplaced_add, h]

theorem unplaced_fill_pipe_congr {d d' : Draft} (h : d.unplaced = d'.unplaced)
    {steps steps' : List Step} (hsteps : unplacedSteps steps = unplacedSteps steps')
    (directive : String) :
    (d.fill directive (.ok (.pipe steps))).unplaced =
      (d'.fill directive (.ok (.pipe steps'))).unplaced := by
  simp [h, hsteps, Except.map, Content.unplaced]

theorem unplaced_finish (d : Draft) (position : Position) :
    (d.finish position).unplaced = d.unplaced.finish .nowhere := by
  obtain ⟨control, content, cause⟩ := d
  cases cause with
  | some e => rfl
  | none =>
    cases content with
    | none => rfl
    | some c =>
      cases c with
      | pipe steps =>
        by_cases hregister : control.register.isSome <;>
          simp [finish, unplaced, Content.unplaced, Step.unplaced, hregister]
      | _ => rfl

end Draft

end Sluice

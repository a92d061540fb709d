import Sluice.Proofs.Running.Pipes

/-!
# Which steps are processed

Steps stand at addresses, and `visits` are the addresses of the steps that are processed, in the
order in which they are:

* `Step.at?`, `Pipe.at?` : the step at an address;
* `Step.visits`, `Pipe.visits` : the addresses of the processed steps, computed along a run;
* `started` : the positions of the processed steps, read off the events of a run.

The visits stand in the order of the document, and the events of a run name exactly them.
-/

namespace Sluice

/-- Where a step stands: its number in its list, behind the address of what the list stands in.  The
order of addresses is that of the document. -/
abbrev Address := List Nat

/-- The positions of the steps that have been started. -/
def started (events : List Event) : List Position :=
  events.filterMap fun
    | .stepStarted position => some position
    | _ => none

/-! ## Addresses -/

def Content.inner : Content → List Step
  | .plugin .. => []
  | .assign _ => []
  | .defaults _ => []
  | .pipe steps => steps

def Step.inner : Step → List Step
  | .valid _ _ content => content.inner
  | .invalid .. => []

/-- The step at an address inside a step; the empty address is that of the step itself. -/
def Step.at? : Step → Address → Option Step
  | step, [] => some step
  | step, i :: rest => step.inner[i]?.bind (·.at? rest)

/-- The step at an address in a list of steps. -/
def stepAt? (steps : List Step) : Address → Option Step
  | [] => none
  | i :: rest => steps[i]?.bind (·.at? rest)

/-- The step at an address in a list of pipes. -/
def pipeStepAt? (pipes : List Pipe) : Address → Option Step
  | [] => none
  | k :: rest => pipes[k]?.bind fun p => stepAt? p.steps rest

theorem getElem?_of_drop_eq_cons {α : Type} {list : List α} {i : Nat} {a : α} {rest : List α}
    (h : list.drop i = a :: rest) : list[i]? = some a ∧ list.drop (i + 1) = rest := by
  refine ⟨?_, ?_⟩
  · rw [← List.head?_drop, h, List.head?_cons]
  · rw [← List.drop_drop, h, List.drop_one, List.tail_cons]

/-! ## Visits -/

mutual

/-- The addresses of the steps that are processed when a step is run in a context. -/
def Step.visits (registry : Registry) : Step → Context → List Address
  | .invalid .., _ => [[]]
  | .valid _ control content, ctx =>
    match control.opens ctx with
    | .ok true => [] :: content.visits registry ctx
    | _ => [[]]

def Content.visits (registry : Registry) : Content → Context → List Address
  | .plugin .., _ => []
  | .assign _, _ => []
  | .defaults _, _ => []
  | .pipe steps, ctx => visitsFrom registry 0 steps ctx

/-- The addresses of the steps that are processed when the end of a list, from its step number `i`
on, is run in a context. -/
def visitsFrom (registry : Registry) (i : Nat) : List Step → Context → List Address
  | [], _ => []
  | step :: rest, ctx =>
    (step.visits registry ctx).map (i :: ·) ++
      if (step.run registry ctx).value then
        visitsFrom registry (i + 1) rest (step.run registry ctx).context
      else []

end

/-- The addresses of the steps that are processed when a pipe is run in a context. -/
def Pipe.visits (registry : Registry) (p : Pipe) (ctx : Context) : List Address :=
  match (setDefaults p.defaults).run ctx with
  | ⟨.ok (), entered, _⟩ => visitsFrom registry 0 p.steps entered
  | ⟨.error _, _, _⟩ => []

/-- The addresses of the steps that are processed when the end of a list of pipes, from number `k`
on, is run in a context. -/
def pipeVisitsFrom (registry : Registry) (k : Nat) : List Pipe → Context → List Address
  | [], _ => []
  | p :: rest, ctx =>
    (p.visits registry ctx).map (k :: ·) ++
      pipeVisitsFrom registry (k + 1) rest (p.run registry ctx).context

/-! ## Their order -/

section Order

variable {registry : Registry}

/-- Addresses below numbers from `i` on. -/
def HeadsFrom (i : Nat) (addresses : List Address) : Prop :=
  ∀ a ∈ addresses, ∃ j rest, a = j :: rest ∧ i ≤ j

theorem headsFrom_nil (i : Nat) : HeadsFrom i [] := fun _ ha => absurd ha List.not_mem_nil

section Append

variable {i : Nat} {here later : List Address}

theorem headsFrom_append (h : HeadsFrom (i + 1) later) :
    HeadsFrom i (here.map (i :: ·) ++ later) := by
  intro a ha
  rcases List.mem_append.1 ha with ha | ha
  · obtain ⟨rest, -, rfl⟩ := List.mem_map.1 ha
    exact ⟨i, rest, rfl, Nat.le_refl i⟩
  · obtain ⟨j, rest, rfl, hj⟩ := h a ha
    exact ⟨j, rest, rfl, Nat.le_of_succ_le hj⟩

/-- Addresses below one number, and then addresses below larger ones. -/
theorem pairwise_lt_append (hhere : here.Pairwise (· < ·)) (hlater : later.Pairwise (· < ·))
    (h : HeadsFrom (i + 1) later) : (here.map (i :: ·) ++ later).Pairwise (· < ·) := by
  refine List.pairwise_append.2 ⟨?_, hlater, fun a ha b hb => ?_⟩
  · exact hhere.map _ fun a b hab => List.cons_lt_cons_iff.2 (.inr ⟨rfl, hab⟩)
  · obtain ⟨rest, -, rfl⟩ := List.mem_map.1 ha
    obtain ⟨j, rest', rfl, hj⟩ := h b hb
    exact List.cons_lt_cons_iff.2 (.inl hj)

end Append

theorem headsFrom_visitsFrom (i : Nat) (steps : List Step) (ctx : Context) :
    HeadsFrom i (visitsFrom registry i steps ctx) := by
  induction steps generalizing i ctx with
  | nil => exact headsFrom_nil i
  | cons step steps ih =>
    rw [visitsFrom]
    refine headsFrom_append ?_
    split
    · exact ih (i + 1) _
    · exact headsFrom_nil (i + 1)

theorem headsFrom_pipeVisitsFrom (k : Nat) (pipes : List Pipe) (ctx : Context) :
    HeadsFrom k (pipeVisitsFrom registry k pipes ctx) := by
  induction pipes generalizing k ctx with
  | nil => exact headsFrom_nil k
  | cons p pipes ih =>
    rw [pipeVisitsFrom]
    exact headsFrom_append (ih (k + 1) _)

mutual

theorem Step.pairwise_visits (ctx : Context) :
    ∀ step : Step, (step.visits registry ctx).Pairwise (· < ·)
  | .invalid .. => by
    rw [Step.visits]
    exact List.pairwise_singleton _ _
  | .valid position control content => by
    have hinner := content.pairwise_visits ctx
    rw [Step.visits]
    split
    · exact List.pairwise_cons.2 ⟨hinner.2, hinner.1⟩
    · exact List.pairwise_singleton _ _

theorem Content.pairwise_visits (ctx : Context) :
    ∀ content : Content, (content.visits registry ctx).Pairwise (· < ·) ∧
      ∀ a ∈ content.visits registry ctx, [] < a
  | .plugin .. | .assign _ | .defaults _ => by
    simp only [Content.visits]
    exact ⟨.nil, by simp⟩
  | .pipe steps => by
    rw [Content.visits]
    refine ⟨pairwise_visitsFrom 0 ctx steps, fun a ha => ?_⟩
    obtain ⟨j, rest, rfl, -⟩ := headsFrom_visitsFrom 0 steps ctx a ha
    exact List.nil_lt_cons j rest

theorem pairwise_visitsFrom (i : Nat) (ctx : Context) :
    ∀ steps : List Step, (visitsFrom registry i steps ctx).Pairwise (· < ·)
  | [] => .nil
  | step :: rest => by
    have hstep := step.pairwise_visits ctx
    have hrest := pairwise_visitsFrom (i + 1) (step.run registry ctx).context rest
    rw [visitsFrom]
    split
    · exact pairwise_lt_append hstep hrest (headsFrom_visitsFrom _ _ _)
    · exact pairwise_lt_append hstep .nil (headsFrom_nil _)

end

theorem Pipe.pairwise_visits (p : Pipe) (ctx : Context) :
    (p.visits registry ctx).Pairwise (· < ·) := by
  unfold Pipe.visits
  split
  · exact pairwise_visitsFrom 0 _ p.steps
  · exact .nil

theorem pairwise_pipeVisitsFrom (k : Nat) (pipes : List Pipe) (ctx : Context) :
    (pipeVisitsFrom registry k pipes ctx).Pairwise (· < ·) := by
  induction pipes generalizing k ctx with
  | nil => exact .nil
  | cons p pipes ih =>
    rw [pipeVisitsFrom]
    exact pairwise_lt_append (p.pairwise_visits ctx) (ih (k + 1) _) (headsFrom_pipeVisitsFrom _ _ _)

end Order

end Sluice

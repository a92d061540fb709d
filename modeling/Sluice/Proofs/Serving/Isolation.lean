import Sluice.Proofs.Serving.Workers

/-!
# Requests do not see each other

However the steps of the workers are interleaved, a request leaves what it leaves alone, and the
seed stays as it is.  No cell is taken twice, so a step of a worker changes nothing that another
one reads; and what a worker has left together with what is still ahead of it is the same before and
after each of its steps.

* `Serving.Apart` : no worker has a cell of the seed or of another worker;
* `Serving.Ahead` : what a worker will have left, and the number of steps that it has yet to take.
-/

namespace Sluice

/-- The number of steps that a worker takes until it runs. -/
def Worker.copies : Worker → Nat
  | .copying _ rest _ => rest.length + 1
  | .running .. => 0

namespace Serving

/-! ## What is ahead of a worker -/

/-- The context of a worker, with what it has not copied yet as it is in the seed. -/
def contextOf (s : Serving) : Worker → Context
  | .copying request rest own =>
    .ofParts fun p =>
      if p ∈ rest then (Context.ofSeed s.seedContext request).part p else s.memory p (own p)
  | .running own _ => s.memory.contextAt own

/-- What a worker has yet to run. -/
def threadOf (s : Serving) : Worker → Thread Bool
  | .copying .. => .ofPipes s.registry s.pipes
  | .running _ thread => thread

/-- The number of steps that a worker has yet to take. -/
def stepsOf (s : Serving) (w : Worker) : Nat :=
  (s.threadOf w).accesses (s.contextOf w) + w.copies

/-- What a worker will have left, after some events of its own. -/
def reportOf (s : Serving) (before : List Event) (w : Worker) : Report Bool :=
  Report.after ((s.threadOf w).toRun (s.contextOf w)) before

theorem reportOf_running (s : Serving) (before : List Event) (own : Handle) (thread : Thread Bool) :
    s.reportOf before (.running own thread) =
      Report.after (thread.toRun (s.memory.contextAt own)) before := rfl

theorem stepsOf_running (s : Serving) (own : Handle) (thread : Thread Bool) :
    s.stepsOf (.running own thread) = thread.accesses (s.memory.contextAt own) := rfl

/-- A worker will have left a report once it has taken a number of steps. -/
def Ahead (s : Serving) (i : Nat) (report : Report Bool) (n : Nat) : Prop :=
  ∃ w, s.workers[i]? = some w ∧ s.reportOf (s.eventsOf i) w = report ∧ s.stepsOf w = n

/-- A step of a worker is one of those it has yet to take, and does not change what it will have
left. -/
structure GoesOn (s : Serving) (i : Nat) (w : Worker) : Prop where
  report : ∀ before, (s.step i).reportOf (before ++ (s.turn w).events) (s.turn w).worker =
    s.reportOf before w
  steps : (s.step i).stepsOf (s.turn w).worker = s.stepsOf w - 1

/-- Cells are taken once: by the seed or by one worker. -/
structure Apart (s : Serving) : Prop where
  seed_lt : ∀ p, s.seed p < s.free
  owned_lt : ∀ {i : Nat} {w : Worker} {p : Part} {cell : Nat}, s.workers[i]? = some w →
    w.Owns p cell → cell < s.free
  not_seed : ∀ {i : Nat} {w : Worker} {p : Part} {cell : Nat}, s.workers[i]? = some w →
    w.Owns p cell → cell ≠ s.seed p
  not_shared : ∀ {i j : Nat} {w v : Worker} {p : Part} {cell : Nat}, s.workers[i]? = some w →
    s.workers[j]? = some v → w.Owns p cell → v.Owns p cell → i = j

/-! ## One step -/

section Step

variable {s : Serving} {w v : Worker} {i j : Nat} {p : Part} {cell : Nat}

/-- A step writes cells of its worker, or a new one. -/
theorem memory_turn (hfree : cell < s.free) (hown : ¬ w.Owns p cell) :
    (s.turn w).memory p cell = s.memory p cell := by
  cases w with
  | copying request rest own =>
    cases rest with
    | nil => rfl
    | cons q rest => exact Memory.store_of_ne fun _ => Nat.ne_of_lt hfree
  | running own thread =>
    cases thread with
    | done | load | note => rfl
    | store q value next =>
      refine Memory.store_of_ne fun hpart heq => hown ?_
      rw [hpart, heq]
      rfl

theorem free_le_turn (s : Serving) (w : Worker) : s.free ≤ (s.turn w).free := by
  cases w with
  | copying request rest own =>
    cases rest with
    | nil => exact Nat.le_refl _
    | cons q rest => exact Nat.le_succ _
  | running own thread => cases thread <;> exact Nat.le_refl _

/-- The cells of a worker are those it has had, and maybe a new one. -/
theorem owns_of_owns_turn (h : (s.turn w).worker.Owns p cell) :
    w.Owns p cell ∨ cell = s.free ∧ (s.turn w).free = s.free + 1 := by
  cases w with
  | copying request rest own =>
    cases rest with
    | nil => exact .inl ⟨List.not_mem_nil, h⟩
    | cons q rest =>
      obtain ⟨hrest, hcell⟩ := h
      by_cases hpart : p = q
      · subst hpart
        rw [Function.update_self] at hcell
        exact .inr ⟨hcell.symm, rfl⟩
      · rw [Function.update_of_ne hpart] at hcell
        exact .inl ⟨List.not_mem_cons_of_ne_of_not_mem hpart hrest, hcell⟩
  | running own thread => cases thread <;> exact .inl h

theorem step_of_none (hw : s.workers[i]? = none) : s.step i = s := by
  rw [step, hw]

theorem step_of_some (hw : s.workers[i]? = some w) :
    s.step i = { s with
      memory := (s.turn w).memory
      free := (s.turn w).free
      workers := s.workers.set i (s.turn w).worker
      noted := s.noted ++ (s.turn w).events.map (i, ·) } := by
  rw [step, hw]

theorem step_seed (s : Serving) (i : Nat) : (s.step i).seed = s.seed := by
  rw [step]
  cases s.workers[i]? <;> rfl

theorem threadOf_step (s : Serving) (i : Nat) (w : Worker) :
    (s.step i).threadOf w = s.threadOf w := by
  rw [step]
  cases s.workers[i]? <;> cases w <;> rfl

theorem getElem?_workers_step (hw : s.workers[i]? = some w) (j : Nat) :
    (s.step i).workers[j]? = if i = j then some (s.turn w).worker else s.workers[j]? := by
  have hi : i < s.workers.length := (List.getElem?_eq_some_iff.1 hw).1
  rw [step_of_some hw]
  dsimp only
  rw [List.getElem?_set, if_pos hi]

theorem eventsOf_step (hw : s.workers[i]? = some w) (j : Nat) :
    (s.step i).eventsOf j = s.eventsOf j ++ if i = j then (s.turn w).events else [] := by
  rw [step_of_some hw, eventsOf, eventsOf]
  dsimp only
  rw [List.filter_append, List.map_append]
  by_cases h : i = j <;> simp [List.filter_map, Function.comp_def, h]

/-- After a step a worker has cells that it has had, or has taken the first free one. -/
theorem owns_of_owns_step (hw : s.workers[i]? = some w) (hv : (s.step i).workers[j]? = some v)
    (h : v.Owns p cell) :
    (∃ u, s.workers[j]? = some u ∧ u.Owns p cell) ∨
      j = i ∧ cell = s.free ∧ (s.step i).free = s.free + 1 := by
  rw [getElem?_workers_step hw] at hv
  by_cases hij : i = j
  · subst hij
    rw [if_pos rfl] at hv
    obtain rfl := Option.some.inj hv
    rw [step_of_some hw]
    exact (owns_of_owns_turn h).imp (fun h => ⟨w, hw, h⟩) fun h => ⟨rfl, h⟩
  · rw [if_neg hij] at hv
    exact .inl ⟨v, hv, h⟩

theorem Apart.step (h : s.Apart) (i : Nat) : (s.step i).Apart := by
  cases hw : s.workers[i]? with
  | none => exact (step_of_none hw).symm ▸ h
  | some w =>
    have hseed := step_seed s i
    have hfree : s.free ≤ (s.step i).free := by
      rw [step_of_some hw]
      exact free_le_turn s w
    refine ⟨fun p => ?_, fun hv hown => ?_, fun hv hown => ?_, fun hv hu hvown huown => ?_⟩
    · rw [hseed]
      exact Nat.lt_of_lt_of_le (h.seed_lt p) hfree
    · rcases owns_of_owns_step hw hv hown with ⟨u, hu, hold⟩ | ⟨-, hcell, hnew⟩
      · exact Nat.lt_of_lt_of_le (h.owned_lt hu hold) hfree
      · rw [hcell, hnew]
        exact Nat.lt_succ_self _
    · rw [hseed]
      rcases owns_of_owns_step hw hv hown with ⟨u, hu, hold⟩ | ⟨-, hcell, -⟩
      · exact h.not_seed hu hold
      · rw [hcell]
        exact Nat.ne_of_gt (h.seed_lt _)
    -- only the worker whose step it is takes a new cell, and no one has had that before
    · rcases owns_of_owns_step hw hv hvown with ⟨v', hv', hvold⟩ | ⟨hj, hvcell, -⟩
      · rcases owns_of_owns_step hw hu huown with ⟨u', hu', huold⟩ | ⟨-, hucell, -⟩
        · exact h.not_shared hv' hu' hvold huold
        · exact absurd hucell (Nat.ne_of_lt (h.owned_lt hv' hvold))
      · rcases owns_of_owns_step hw hu huown with ⟨u', hu', huold⟩ | ⟨hk, -, -⟩
        · exact absurd hvcell (Nat.ne_of_lt (h.owned_lt hu' huold))
        · exact hj.trans hk.symm

/-! ## What a step leaves alone -/

theorem memory_step (hfree : cell < s.free)
    (hown : ∀ w, s.workers[i]? = some w → ¬ w.Owns p cell) :
    (s.step i).memory p cell = s.memory p cell := by
  cases hw : s.workers[i]? with
  | none => rw [step_of_none hw]
  | some w =>
    rw [step_of_some hw]
    exact memory_turn hfree (hown w hw)

theorem Apart.seedContext_step (h : s.Apart) (i : Nat) :
    (s.step i).seedContext = s.seedContext := by
  rw [seedContext, seedContext, step_seed]
  refine congrArg Context.ofParts (funext fun p => memory_step (h.seed_lt p) ?_)
  exact fun w hw hown => h.not_seed hw hown rfl

/-- A worker has the same context ahead of it where the seed and its own cells are the same. -/
theorem contextOf_congr {s t : Serving} {w : Worker} (hseed : t.seedContext = s.seedContext)
    (hown : ∀ p cell, w.Owns p cell → t.memory p cell = s.memory p cell) :
    t.contextOf w = s.contextOf w := by
  cases w with
  | copying request rest own =>
    rw [contextOf, contextOf, hseed]
    refine congrArg Context.ofParts (funext fun p => ?_)
    by_cases hrest : p ∈ rest
    · rw [if_pos hrest, if_pos hrest]
    · rw [if_neg hrest, if_neg hrest]
      exact hown p (own p) ⟨hrest, rfl⟩
  | running own thread =>
    exact congrArg Context.ofParts (funext fun p => hown p (own p) rfl)

/-- The step of another worker changes nothing that a worker has ahead of it. -/
theorem Apart.contextOf_step_of_ne (h : s.Apart) (hv : s.workers[j]? = some v) (hne : i ≠ j) :
    (s.step i).contextOf v = s.contextOf v := by
  refine contextOf_congr (h.seedContext_step i) fun p cell hown => ?_
  exact memory_step (h.owned_lt hv hown) fun w hw hw' => hne (h.not_shared hw hv hw' hown)

/-! ## A worker's own step -/

/-- While a worker copies the seed, the context that it will have stays the same. -/
theorem Apart.contextOf_turn_copying (h : s.Apart) {request : Request} {rest : List Part}
    {own : Handle} (hw : s.workers[i]? = some (.copying request rest own)) :
    (s.step i).contextOf (s.turn (.copying request rest own)).worker =
      s.contextOf (.copying request rest own) := by
  have hseed := h.seedContext_step i
  cases rest with
  | nil =>
    have hmemory : (s.step i).memory = s.memory := by
      rw [step_of_some hw]
      rfl
    change (s.step i).memory.contextAt own = _
    rw [hmemory, contextOf, Memory.contextAt]
    refine congrArg Context.ofParts (funext fun p => ?_)
    rw [if_neg List.not_mem_nil]
  | cons q rest =>
    have hmemory : (s.step i).memory =
        s.memory.store q s.free ((Context.ofSeed s.seedContext request).part q) := by
      rw [step_of_some hw]
      rfl
    change (s.step i).contextOf (.copying request rest _) = _
    rw [contextOf, contextOf, hseed, hmemory]
    refine congrArg Context.ofParts (funext fun p => ?_)
    by_cases hrest : p ∈ rest
    · rw [if_pos hrest, if_pos (List.mem_cons_of_mem q hrest)]
    · rw [if_neg hrest]
      by_cases hpart : p = q
      · -- the part that has just been copied: in its new cell is what is in the seed
        subst hpart
        rw [if_pos List.mem_cons_self, Function.update_self, Memory.store_self]
      · rw [if_neg (List.not_mem_cons_of_ne_of_not_mem hpart hrest), Function.update_of_ne hpart,
          Memory.store_of_ne (absurd · hpart)]

theorem Apart.goesOn_copying (h : s.Apart) {request : Request} {rest : List Part} {own : Handle}
    (hw : s.workers[i]? = some (.copying request rest own)) :
    s.GoesOn i (.copying request rest own) := by
  have hcontext := h.contextOf_turn_copying hw
  have hthread : (s.step i).threadOf (s.turn (.copying request rest own)).worker =
      s.threadOf (.copying request rest own) := by
    rw [threadOf_step]
    cases rest <;> rfl
  have hcopies : (s.turn (.copying request rest own)).worker.copies = rest.length := by
    cases rest <;> rfl
  have hevents : (s.turn (.copying request rest own)).events = [] := by
    cases rest <;> rfl
  refine ⟨fun before => ?_, ?_⟩
  · rw [reportOf, reportOf, hcontext, hthread, hevents, List.append_nil]
  · rw [stepsOf, stepsOf, hcontext, hthread, hcopies]
    rfl

theorem goesOn_running {own : Handle} {thread : Thread Bool}
    (hw : s.workers[i]? = some (.running own thread)) : s.GoesOn i (.running own thread) := by
  have hmemory : (s.step i).memory = (s.turn (.running own thread)).memory := by
    rw [step_of_some hw]
  have hpart : ∀ p, (s.memory.contextAt own).part p = s.memory p (own p) :=
    Context.part_ofParts _
  -- `turn` and the meaning of a thread go through the same cases
  cases thread with
  | done outcome =>
    refine ⟨fun before => ?_, ?_⟩
    · simp only [turn, reportOf_running, hmemory, List.append_nil]
    · simp only [turn, stepsOf_running, Thread.accesses]
  | load p next =>
    refine ⟨fun before => ?_, ?_⟩
    · simp only [turn, reportOf_running, hmemory, List.append_nil, Thread.toRun, hpart]
    · simp only [turn, stepsOf_running, hmemory, Thread.accesses, hpart, Nat.add_sub_cancel]
  | store p value next =>
    refine ⟨fun before => ?_, ?_⟩
    · simp only [turn, reportOf_running, hmemory, List.append_nil, Thread.toRun,
        Memory.contextAt_store_self]
    · simp only [turn, stepsOf_running, hmemory, Thread.accesses, Memory.contextAt_store_self,
        Nat.add_sub_cancel]
  | note e next =>
    refine ⟨fun before => ?_, ?_⟩
    · simp only [turn, reportOf_running, hmemory, Thread.toRun_note, Report.after_after]
    · simp only [turn, stepsOf_running, hmemory, Thread.accesses, Nat.add_sub_cancel]

theorem Apart.goesOn (h : s.Apart) (hw : s.workers[i]? = some w) : s.GoesOn i w := by
  cases w with
  | copying request rest own => exact h.goesOn_copying hw
  | running own thread => exact goesOn_running hw

/-- Whoever takes a step, a worker will have left the same; a step of its own is one less ahead of
it. -/
theorem Apart.ahead_step (h : s.Apart) {report : Report Bool} {n : Nat}
    (ha : s.Ahead j report n) (i : Nat) :
    (s.step i).Ahead j report (if i = j then n - 1 else n) := by
  obtain ⟨v, hv, hreport, hsteps⟩ := ha
  cases hw : s.workers[i]? with
  | none =>
    -- a schedule may name workers that are not there
    have hne : i ≠ j := by
      rintro rfl
      rw [hw] at hv
      cases hv
    rw [step_of_none hw, if_neg hne]
    exact ⟨v, hv, hreport, hsteps⟩
  | some w =>
    have hworker := getElem?_workers_step hw j
    have hevents := eventsOf_step hw j
    by_cases hij : i = j
    · subst hij
      obtain rfl := Option.some.inj (hw.symm.trans hv)
      rw [if_pos rfl] at hworker hevents ⊢
      have hgoes := h.goesOn hw
      exact ⟨_, hworker, by rw [hevents, hgoes.report, hreport], by rw [hgoes.steps, hsteps]⟩
    · rw [if_neg hij] at hworker hevents ⊢
      rw [List.append_nil] at hevents
      have hcontext := h.contextOf_step_of_ne hv hij
      refine ⟨v, hworker.trans hv, ?_, ?_⟩
      · rw [hevents, reportOf, hcontext, threadOf_step]
        exact hreport
      · rw [stepsOf, hcontext, threadOf_step]
        exact hsteps

end Step

/-! ## Schedules -/

section Schedules

variable {s : Serving}

theorem Apart.seedContext_play (h : s.Apart) (schedule : List Nat) :
    (s.play schedule).seedContext = s.seedContext := by
  induction schedule generalizing s with
  | nil => rfl
  | cons i schedule ih => exact (ih (h.step i)).trans (h.seedContext_step i)

theorem Apart.ahead_play (h : s.Apart) {j : Nat} {report : Report Bool} {n : Nat}
    (ha : s.Ahead j report n) (schedule : List Nat) :
    (s.play schedule).Ahead j report (n - schedule.count j) := by
  induction schedule generalizing s n with
  | nil => exact ha
  | cons i schedule ih =>
    have hrest := ih (h.step i) (h.ahead_step ha i)
    -- a worker that has finished may have more turns, so `n` may be 0
    have hcount : (if i = j then n - 1 else n) - schedule.count j =
        n - (i :: schedule).count j := by
      rw [List.count_cons]
      by_cases hij : i = j
      · simp only [hij, if_true, beq_self_eq_true]
        omega
      · simp [hij]
    exact hcount ▸ hrest

/-- A worker has finished when it has no step ahead of it. -/
theorem left?_of_ahead {i : Nat} {report : Report Bool} {n : Nat} (h : s.Ahead i report n) :
    s.left? i = if n = 0 then some report else none := by
  obtain ⟨w, hw, rfl, rfl⟩ := h
  rw [left?, hw]
  cases w with
  | copying request rest own => rfl
  | running own thread =>
    cases thread with
    | done outcome =>
      exact congrArg (fun es => some (Report.mk outcome (s.memory.contextAt own) es))
        (List.append_nil (s.eventsOf i)).symm
    | load | store | note => rfl

/-! ## The start -/

theorem seedContext_start (s : Service) (unused : Memory) (requests : List Request) :
    (start s unused requests).seedContext = s.seed := rfl

/-- At the start no worker has any cells. -/
theorem apart_start (s : Service) (unused : Memory) (requests : List Request) :
    (start s unused requests).Apart := by
  have hnone : ∀ {i : Nat} {w : Worker} {p : Part} {cell : Nat},
      (start s unused requests).workers[i]? = some w → ¬ w.Owns p cell := by
    intro i w p cell hw hown
    obtain ⟨request, -, rfl⟩ := List.mem_map.1 (List.mem_of_getElem? hw)
    exact hown.1 p.mem_all
  exact ⟨fun _ => Nat.zero_lt_one, fun hw hown => absurd hown (hnone hw),
    fun hw hown => absurd hown (hnone hw), fun hw _ hown => absurd hown (hnone hw)⟩

end Schedules

end Serving

/-- The number of steps that the worker of a request takes. -/
def Service.steps (s : Service) (request : Request) : Nat :=
  (Thread.ofPipes s.registry s.config.pipes).accesses (.ofSeed s.seed request) +
    (Part.all.length + 1)

theorem Serving.ahead_start (s : Service) (unused : Memory) (requests : List Request)
    (i : Fin requests.length) :
    (start s unused requests).Ahead i (s.run requests[i]) (s.steps requests[i]) := by
  have hworker : (start s unused requests).workers[(i : Nat)]? =
      some (.copying requests[i] Part.all fun _ => 0) := by
    simp [start]
  have hcontext : (start s unused requests).contextOf (.copying requests[i] Part.all fun _ => 0) =
      .ofSeed s.seed requests[i] := by
    rw [contextOf, seedContext_start]
    simp only [Part.mem_all, if_true, Context.ofParts_part]
  refine ⟨_, hworker, ?_, ?_⟩
  · rw [reportOf, hcontext]
    change Report.after ((Thread.ofPipes s.registry s.config.pipes).toRun _) [] = _
    rw [Thread.toRun_ofPipes]
    rfl
  · rw [stepsOf, hcontext]
    rfl

/-- Requests that are handled at the same time, in any order of the steps of their workers.  The
seed stays as it is.  Each request leaves what it leaves when it is handled alone (its outcome, its
context and all that has happened, calls of plugins included) as soon as its worker has taken a
number of steps that does not depend on the others; and of the seed, neither the request nor the
result matters. -/
theorem Service.play_isolates_requests (s : Service) (requests : List Request)
    (i : Fin requests.length) (facts : Request) (flag : Bool) (unused : Memory)
    (schedule : List Nat) :
    let seed := { s.seed with request := facts, result := flag }
    let reached := (Serving.start { s with seed } unused requests).play schedule
    reached.seedContext = seed ∧
      reached.left? i =
        if s.steps requests[i] ≤ schedule.count (i : Nat) then some (s.run requests[i])
        else none := by
  intro seed reached
  have hapart := Serving.apart_start { s with seed } unused requests
  have hahead := Serving.ahead_start { s with seed } unused requests i
  refine ⟨hapart.seedContext_play schedule, ?_⟩
  rw [Serving.left?_of_ahead (hapart.ahead_play hahead schedule)]
  simp only [Nat.sub_eq_zero_iff_le]
  rfl

end Sluice

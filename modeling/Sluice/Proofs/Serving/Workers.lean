import Sluice.Proofs.Serving.Threads
import Sluice.Service

/-!
# Requests that are handled at the same time

Workers share one memory, in which the seed is, and a schedule says whose turn it is.  A worker
first copies the seed, part by part, into cells that are not in use, and then runs the pipes in its
copy.  What it finds in a cell is what was written there last, whoever has done that.

* `Memory`, `Handle` : the cells, and where in them the parts of a context are;
* `Serving` : the memory, the workers and what has happened;
* `Serving.step`, `Serving.play` : a step of a worker, and those of a schedule.
-/

namespace Sluice

/-! ## Memory -/

/-- Cells for the parts of contexts. -/
abbrev Memory : Type := (p : Part) → Nat → p.Value

/-- The cells in which the parts of a context are. -/
abbrev Handle : Type := Part → Nat

namespace Memory

variable (m : Memory) (p : Part) (cell : Nat) (value : p.Value) (h : Handle)

def store : Memory := Function.update m p (Function.update (m p) cell value)

/-- The context in some cells. -/
def contextAt : Context := .ofParts fun p => m p (h p)

theorem store_self : m.store p cell value p cell = value := by
  rw [store, Function.update_self, Function.update_self]

variable {m p cell value h} in
theorem store_of_ne {q : Part} {other : Nat} (hne : q = p → other ≠ cell) :
    m.store p cell value q other = m q other := by
  by_cases hpart : q = p
  · subst hpart
    rw [store, Function.update_self, Function.update_of_ne (hne rfl)]
  · rw [store, Function.update_of_ne hpart]

theorem contextAt_store_self :
    (m.store p (h p) value).contextAt h = (m.contextAt h).withPart p value := by
  refine congrArg Context.ofParts (funext fun q => ?_)
  by_cases hpart : q = p
  · subst hpart
    rw [store_self, Function.update_self]
  · rw [store_of_ne (absurd · hpart), Function.update_of_ne hpart, contextAt, Context.part_ofParts]

end Memory

/-! ## Workers -/

/-- A worker copies the seed for a request, with some parts left to be copied, or runs. -/
inductive Worker where
  | copying (request : Request) (rest : List Part) (own : Handle)
  | running (own : Handle) (thread : Thread Bool)

/-- The cells that a worker has taken. -/
def Worker.Owns : Worker → Part → Nat → Prop
  | .copying _ rest own, p, cell => p ∉ rest ∧ own p = cell
  | .running own _, p, cell => own p = cell

/-- A configuration while it is being served. -/
structure Serving where
  registry : Registry
  pipes : List Pipe
  memory : Memory
  /-- The first cell that is not in use. -/
  free : Nat
  /-- Where the seed is. -/
  seed : Handle
  workers : List Worker
  /-- What the workers have noted, in order. -/
  noted : List (Nat × Event)

/-- What a step of a worker leaves. -/
structure Worker.Turn where
  worker : Worker
  memory : Memory
  free : Nat
  events : List Event

namespace Serving

/-- The seed as it is in memory. -/
def seedContext (s : Serving) : Context := s.memory.contextAt s.seed

/-- A step of a worker: it copies one part of the seed to a new cell, starts, or makes the next
access of its thread. -/
def turn (s : Serving) : Worker → Worker.Turn
  | .copying _ [] own => ⟨.running own (.ofPipes s.registry s.pipes), s.memory, s.free, []⟩
  | .copying request (p :: rest) own =>
    ⟨.copying request rest (Function.update own p s.free),
      s.memory.store p s.free ((Context.ofSeed s.seedContext request).part p), s.free + 1, []⟩
  | .running own (.done outcome) => ⟨.running own (.done outcome), s.memory, s.free, []⟩
  | .running own (.load p next) => ⟨.running own (next (s.memory p (own p))), s.memory, s.free, []⟩
  | .running own (.store p value next) =>
    ⟨.running own next, s.memory.store p (own p) value, s.free, []⟩
  | .running own (.note e next) => ⟨.running own next, s.memory, s.free, [e]⟩

def step (s : Serving) (i : Nat) : Serving :=
  match s.workers[i]? with
  | none => s
  | some w =>
    let t := s.turn w
    { s with
      memory := t.memory
      free := t.free
      workers := s.workers.set i t.worker
      noted := s.noted ++ t.events.map (i, ·) }

/-- Workers take steps in the order of a schedule. -/
def play (s : Serving) (schedule : List Nat) : Serving := schedule.foldl step s

/-- The start: the seed is in the first cells, the others hold anything, and there is a worker for
each request. -/
def start (s : Service) (unused : Memory) (requests : List Request) : Serving where
  registry := s.registry
  pipes := s.config.pipes
  memory := fun p cell => if cell = 0 then s.seed.part p else unused p cell
  free := 1
  seed := fun _ => 0
  workers := requests.map fun request => .copying request Part.all fun _ => 0
  noted := []

/-- What a worker has noted. -/
def eventsOf (s : Serving) (i : Nat) : List Event := (s.noted.filter (·.1 = i)).map (·.2)

/-- What a worker has left, once it has finished. -/
def left? (s : Serving) (i : Nat) : Option (Report Bool) :=
  match s.workers[i]? with
  | some (.running own (.done outcome)) => some ⟨outcome, s.memory.contextAt own, s.eventsOf i⟩
  | _ => none

end Serving

end Sluice

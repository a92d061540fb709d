import Sluice.Proofs.Loading.Basic
import Sluice.Proofs.Loading.Targets

/-!
# The loader and its stack

`Config.load` hands the files being read down as an argument.  A loader that keeps them on a stack
of its own pushes a file when it opens it and pops it when its list has been read.  Here the loader
may read files inside of one another up to a number of levels, and has no result if it needs more.

* `run_openFile` — opening a file does the same with the stack on its own as with the stack as an
  argument;
* `restores_stepsOf`, `restores_pipesOf`, `restores_loadFile` — an include that is expanded, and a
  file that is loaded, leaves the stack as it found it.
-/

namespace Sluice

/-- A file that is put on a stack. -/
structure Push where
  file : Location
  below : List Location

def Push.stack (p : Push) : List Location := p.file :: p.below

def Push.opening (p : Push) : Opening := ⟨p.file, p.below.length⟩

/-- What a loader keeps: its stack, the innermost file first, and whatever it has put on it. -/
structure Loader where
  stack : List Location
  history : List Push

/-- Loading with a stack.  An error leaves the stack as it stands, and too many levels leave no
result. -/
abbrev Stacked := ExceptT LoadError (OptionT (StateM Loader))

/-- Where a document comes from. -/
structure Origin where
  root : Position
  directory : String

/-- Where the document of a source comes from. -/
def Source.origin (s : Source) : Origin := ⟨s.root, s.directory⟩

namespace Stacked

variable {α β : Type}

def run (x : Stacked α) (l : Loader) : Option (Except LoadError α) × Loader :=
  StateT.run (OptionT.run (ExceptT.run x)) l

/-- The result of too many levels. -/
def exhausted : Stacked α := ExceptT.lift OptionT.fail

def push (file : Location) : Stacked Unit :=
  modify fun l => ⟨file :: l.stack, l.history ++ [⟨file, l.stack⟩]⟩

def pop : Stacked Unit := modify fun l => ⟨l.stack.tail, l.history⟩

def openFile (tree : FileTree) (path : String) : Stacked (Json × Origin) := do
  match tree.locate path with
  | .error fault => throw (.unreadable path fault)
  | .ok file =>
    if (← get).stack.contains file then throw (.includeCycle file)
    else match tree.textAt file with
      | .error fault => throw (.unreadable path fault)
      | .ok text => match Yaml.read? text.toList with
        | none => throw (.notYaml path)
        | some document => do
          push file
          return (document, ⟨⟨path, []⟩, Location.text file.dropLast⟩)

/-- Follows an include to the list it stands for. -/
def follow (tree : FileTree) (origin : Origin) (target : Json) (position : Position) :
    Stacked (List Json × Origin) :=
  match target with
  | .string path => do
    let (document, included) ← openFile tree (FileTree.join origin.directory path)
    match document with
    | .list items => return (items, included)
    | _ => do
      pop
      included.root.refuse .includedNotList
  | _ => position.refuse .includeNotPath

open Config

def stepsOf (tree : FileTree) (known : String → Bool) : Nat → Origin → Splice Stacked Step
  | 0, origin, target, position => do
    let _ ← follow tree origin target position
    exhausted
  | levels + 1, origin, target, position => do
    let (items, included) ← follow tree origin target position
    let steps ← readSteps known (stepsOf tree known levels included) included.root 0 items
    pop
    return steps

def pipesOf (tree : FileTree) (known : String → Bool) : Nat → Origin → Splice Stacked Pipe
  | 0, origin, target, position => do
    let _ ← follow tree origin target position
    exhausted
  | levels + 1, origin, target, position => do
    let (items, included) ← follow tree origin target position
    let c ← readEntries known (stepsOf tree known levels included)
      (pipesOf tree known levels included) false included.root 0 items
    pop
    return c.pipes

def ofDocument (tree : FileTree) (known : String → Bool) (levels : Nat) (origin : Origin) :
    Json → Stacked Config
  | .list entries =>
    readEntries known (stepsOf tree known levels origin) (pipesOf tree known levels origin) true
      origin.root 0 entries
  | _ => origin.root.refuse .topNotList

def loadFile (tree : FileTree) (known : String → Bool) (path : String) : Nat → Stacked Config
  | 0 => do
    let _ ← openFile tree path
    exhausted
  | levels + 1 => do
    let (document, origin) ← openFile tree path
    let c ← ofDocument tree known levels origin document
    pop
    return c

/-! ## Runs -/

theorem run_bind (x : Stacked α) (f : α → Stacked β) (l : Loader) :
    (x >>= f).run l = match x.run l with
      | (some (.ok a), l') => (f a).run l'
      | (some (.error e), l') => (some (.error e), l')
      | (none, l') => (none, l') := by
  unfold run
  rw [ExceptT.run_bind, OptionT.run_bind, Option.elimM, StateT.run_bind]
  obtain ⟨_ | _ | a, l'⟩ := StateT.run (OptionT.run (ExceptT.run x)) l <;> rfl

@[simp] theorem run_pure (a : α) (l : Loader) :
    (pure a : Stacked α).run l = (some (.ok a), l) := rfl

@[simp] theorem run_throw (e : LoadError) (l : Loader) :
    (throw e : Stacked α).run l = (some (.error e), l) := rfl

@[simp] theorem run_refuse (position : Position) (flaw : DocumentFlaw) (l : Loader) :
    (position.refuse flaw : Stacked α).run l = (some (.error (.malformed position flaw)), l) := rfl

@[simp] theorem run_get (l : Loader) : (get : Stacked Loader).run l = (some (.ok l), l) := rfl

theorem run_bind_eq_ok {x : Stacked α} {f : α → Stacked β} {l l' : Loader} {b : β}
    (h : (x >>= f).run l = (some (.ok b), l')) :
    ∃ a l₁, x.run l = (some (.ok a), l₁) ∧ (f a).run l₁ = (some (.ok b), l') := by
  rw [run_bind] at h
  split at h
  · next a l₁ hx => exact ⟨a, l₁, hx, h⟩
  · cases h
  · cases h

section Follow

variable {tree : FileTree}

/-- Opening a file does what it does with the stack as an argument. -/
theorem run_openFile (source : Source) (path : String) (history : List Push) :
    (openFile tree path).run ⟨source.stack, history⟩ =
      match source.openFile tree path with
      | .error e => (some (.error e), ⟨source.stack, history⟩)
      | .ok opened => (some (.ok (opened.document, opened.source.origin)),
          ⟨opened.source.stack, history ++ [⟨opened.opening.file, source.stack⟩]⟩) := by
  unfold openFile
  obtain ⟨fault, hlocate, ho⟩ | ⟨file, hlocate, hcases⟩ := Source.openFile_cases tree source path
  · simp only [hlocate, ho, run_throw]
  · simp only [hlocate, run_bind, run_get]
    simp only [List.contains_iff_mem]
    obtain ⟨hstack, ho⟩ | ⟨hstack, ⟨fault, htext, ho⟩ | ⟨text, htext, hcases⟩⟩ := hcases
    · simp only [if_pos hstack, ho, run_throw]
    · simp only [if_neg hstack, htext, ho, run_throw]
    · obtain ⟨hread, ho⟩ | ⟨document, fewer, hread, ho⟩ := hcases
      · simp only [if_neg hstack, htext, hread, ho, run_throw]
      · simp only [if_neg hstack, htext, hread, ho]
        rfl

end Follow

/-! ## An expanded include leaves the stack as it found it -/

/-- Whether a reading that succeeds leaves the stack as it found it. -/
def Restores (α : Type) (_ : List Target) (_ y : Stacked α) : Prop :=
  ∀ {l a l'}, y.run l = (some (.ok a), l') → l'.stack = l.stack

theorem carries_restores : Carries Restores where
  pure a := by
    intro l b l' h
    cases h
    rfl
  bind first rest := by
    intro l b l' h
    obtain ⟨a, l₁, h₁, h₂⟩ := run_bind_eq_ok h
    exact (rest a h₂).trans (first h₁)
  refuse ts position flaw := by
    intro l b l' h
    cases h

section Restored

variable {tree : FileTree} {known : String → Bool} {origin included : Origin} {target : Json}
  {position : Position} {l l' : Loader}

theorem stack_of_run_openFile {path : String} {r : Json × Origin}
    (h : (openFile tree path).run l = (some (.ok r), l')) :
    ∃ file, l'.stack = file :: l.stack := by
  rw [show l = ⟨(Source.mk path "" l.stack).stack, l.history⟩ from rfl, run_openFile] at h
  split at h
  · cases h
  · next opened hopen =>
    obtain ⟨file, -, -, -, hsource, -⟩ := Source.openFile_eq_ok hopen
    cases h
    exact ⟨file, by rw [hsource]⟩

theorem stack_of_run_follow {items : List Json}
    (h : (follow tree origin target position).run l = (some (.ok (items, included)), l')) :
    ∃ file, l'.stack = file :: l.stack := by
  cases target with
  | string path =>
    obtain ⟨⟨document, included'⟩, l₁, h₁, h₂⟩ := run_bind_eq_ok h
    obtain ⟨file, hfile⟩ := stack_of_run_openFile h₁
    cases document with
    | list items' =>
      cases h₂
      exact ⟨file, hfile⟩
    | _ => cases h₂
  | _ => cases h

/-- What is read between the opening of a file and the taking off leaves the stack as it found
it. -/
theorem stack_of_run_inside {α β : Type} {x : Stacked α} {f : α → β} {b : β}
    (hx : ∀ {l a l'}, x.run l = (some (.ok a), l') → l'.stack = l.stack) {file : Location}
    {stack : List Location} (hl : l.stack = file :: stack)
    (h : (do let a ← x; pop; return f a : Stacked β).run l = (some (.ok b), l')) :
    l'.stack = stack := by
  obtain ⟨a, l₁, h₁, h⟩ := run_bind_eq_ok h
  obtain ⟨_, l₂, h₂, h⟩ := run_bind_eq_ok h
  cases h₂
  cases h
  change l₁.stack.tail = stack
  rw [hx h₁, hl, List.tail_cons]

theorem restores_stepsOf (levels : Nat) (origin : Origin) :
    Splices Restores .steps (stepsOf tree known levels origin)
      (stepsOf tree known levels origin) := by
  induction levels generalizing origin with
  | zero =>
    intro target position l steps l' h
    obtain ⟨r, l₁, -, h₂⟩ := run_bind_eq_ok h
    cases h₂
  | succ levels ih =>
    intro target position l steps l' h
    obtain ⟨⟨items, included⟩, l₁, h₁, h₂⟩ := run_bind_eq_ok h
    obtain ⟨file, hfile⟩ := stack_of_run_follow h₁
    exact stack_of_run_inside
      (carries_restores.readSteps known (ih included) included.root 0 items) hfile h₂

theorem restores_pipesOf (levels : Nat) (origin : Origin) :
    Splices Restores .entries (pipesOf tree known levels origin)
      (pipesOf tree known levels origin) := by
  induction levels generalizing origin with
  | zero =>
    intro target position l pipes l' h
    obtain ⟨r, l₁, -, h₂⟩ := run_bind_eq_ok h
    cases h₂
  | succ levels ih =>
    intro target position l pipes l' h
    obtain ⟨⟨items, included⟩, l₁, h₁, h₂⟩ := run_bind_eq_ok h
    obtain ⟨file, hfile⟩ := stack_of_run_follow h₁
    exact stack_of_run_inside
      (carries_restores.readEntries known (restores_stepsOf levels included) (ih included) false
        included.root 0 items) hfile h₂

theorem restores_loadFile {path : String} {levels : Nat} {c : Config}
    (h : (loadFile tree known path levels).run l = (some (.ok c), l')) : l'.stack = l.stack := by
  cases levels with
  | zero =>
    obtain ⟨r, l₁, -, h₂⟩ := run_bind_eq_ok h
    cases h₂
  | succ levels =>
    obtain ⟨⟨document, origin⟩, l₁, h₁, h₂⟩ := run_bind_eq_ok h
    obtain ⟨file, hfile⟩ := stack_of_run_openFile h₁
    refine stack_of_run_inside ?_ hfile h₂
    intro l a l' h
    unfold ofDocument at h
    split at h
    · exact carries_restores.readEntries known (restores_stepsOf levels origin)
        (restores_pipesOf levels origin) true origin.root 0 _ h
    · cases h

end Restored

end Stacked

end Sluice

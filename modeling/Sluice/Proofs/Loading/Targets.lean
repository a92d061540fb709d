import Sluice.Config.Reader

/-!
# Includes in documents

`targets` lists what the includes in a list point to, in the order in which they are read.

The readers are the same whatever else reading keeps track of.  So a relation between readings that
holds of every include, and that goes through a sequence of readings (`Carries`), holds of a whole
list (`Carries.readSteps`, `Carries.readEntries`).  The relation may depend on the includes that are
read: on those of the first part and then on those of the second.
-/

namespace Sluice.Config

/-- How a list is read: as the entries of a document, or as steps. -/
inductive Reading where
  | entries | steps
deriving DecidableEq, Repr

/-- What an include points to, and how the file is read that it leads to. -/
abbrev Target := Reading × Json

mutual

/-- What the includes in a list of steps point to. -/
def stepsTargets : List Json → List Target
  | [] => []
  | entry :: rest => stepTargets entry ++ stepsTargets rest

def stepTargets : Json → List Target
  | .map fields => match Fields.get? "include" fields with
    | some target => [(.steps, target)]
    | none => directivesTargets fields
  | _ => []

def directivesTargets : List (String × Json) → List Target
  | [] => []
  | (key, value) :: rest =>
    (if key = "pipe" then pipeTargets value else []) ++ directivesTargets rest

def pipeTargets : Json → List Target
  | .list items => stepsTargets items
  | _ => []

end

/-- What the includes in an entry of a document point to. -/
def entryTargets : Json → List Target
  | .map fields => match Fields.get? "include" fields, Fields.get? "init" fields with
    | some target, _ => [(.entries, target)]
    | none, some init => pipeTargets init
    | none, none => directivesTargets fields
  | _ => []

def targets : Reading → List Json → List Target
  | .entries, items => items.flatMap entryTargets
  | .steps, items => stepsTargets items

/-- A document in which nothing is read as an include. -/
def IncludeFree : Json → Prop
  | .list entries => targets .entries entries = []
  | _ => True

/-! ## Relations between readings -/

section Readings

variable {m n : Type → Type} [Monad m] [MonadExceptOf LoadError m] [Monad n]
  [MonadExceptOf LoadError n]

/-- A relation between two readings, and the includes that they read, that goes through a sequence
of readings. -/
structure Carries (R : (α : Type) → List Target → m α → n α → Prop) : Prop where
  pure {α : Type} (a : α) : R α [] (pure a) (pure a)
  bind {α β : Type} {ts us : List Target} {x : m α} {y : n α} {f : α → m β} {g : α → n β}
    (first : R α ts x y) (rest : ∀ a, R β us (f a) (g a)) : R β (ts ++ us) (x >>= f) (y >>= g)
  refuse {α : Type} (ts : List Target) (position : Position) (flaw : DocumentFlaw) :
    R α ts (position.refuse flaw) (position.refuse flaw)

/-- Whether a relation holds between two meanings of every include. -/
def Splices (R : (α : Type) → List Target → m α → n α → Prop) {α : Type} (reading : Reading)
    (splice : Splice m α) (splice' : Splice n α) : Prop :=
  ∀ target position,
    R (List α) [(reading, target)] (splice target position) (splice' target position)

namespace Carries

variable {R : (α : Type) → List Target → m α → n α → Prop} (known : String → Bool)
  {splice : Splice m Step} {splice' : Splice n Step}
  {splicePipes : Splice m Pipe} {splicePipes' : Splice n Pipe}

theorem map (h : Carries R) {α β : Type} {ts : List Target} {x : m α} {y : n α} {f : α → β}
    (hx : R α ts x y) :
    R β ts (x >>= fun a => Pure.pure (f a)) (y >>= fun a => Pure.pure (f a)) := by
  simpa using h.bind hx fun a => h.pure (f a)

theorem alone (h : Carries R) (key : String) (fields : Fields Json) (position : Position) :
    R Unit [] (Config.alone key fields position) (Config.alone key fields position) := by
  unfold Config.alone
  split
  · exact h.pure ()
  · exact h.refuse [] position _

mutual

theorem readSteps (h : Carries R) (hs : Splices R .steps splice splice') (position : Position)
    (index : Nat) : ∀ items : List Json,
    R _ (stepsTargets items) (Config.readSteps known splice position index items)
      (Config.readSteps known splice' position index items)
  | [] => by
    rw [Config.readSteps, Config.readSteps, stepsTargets]
    exact h.pure []
  | entry :: rest => by
    rw [Config.readSteps, Config.readSteps, stepsTargets]
    exact h.bind (readStep h hs _ entry) fun first =>
      h.map (readSteps h hs position (index + 1) rest)

theorem readStep (h : Carries R) (hs : Splices R .steps splice splice')
    (position : Position) : ∀ entry : Json,
    R _ (stepTargets entry) (Config.readStep known splice position entry)
      (Config.readStep known splice' position entry)
  | .map fields => by
    rw [Config.readStep, Config.readStep, stepTargets]
    cases Fields.get? "include" fields with
    | some target => exact h.bind (h.alone "include" fields position) fun _ => hs target position
    | none => exact h.map (readDirectives h hs position .blank fields)
  | .null | .bool _ | .number _ | .string _ | .list _ => by
    simp only [Config.readStep]
    exact h.refuse _ position .stepNotMapping

theorem readDirectives (h : Carries R) (hs : Splices R .steps splice splice')
    (position : Position) (draft : Draft) : ∀ fields : List (String × Json),
    R _ (directivesTargets fields) (Config.readDirectives known splice position draft fields)
      (Config.readDirectives known splice' position draft fields)
  | [] => by
    rw [Config.readDirectives, Config.readDirectives, directivesTargets]
    exact h.pure draft
  | (key, value) :: rest => by
    rw [Config.readDirectives, Config.readDirectives, directivesTargets]
    split
    · exact h.bind (readPipe h hs _ value) fun steps => readDirectives h hs position _ rest
    · exact readDirectives h hs position _ rest

theorem readPipe (h : Carries R) (hs : Splices R .steps splice splice')
    (position : Position) : ∀ value : Json,
    R _ (pipeTargets value) (Config.readPipe known splice position value)
      (Config.readPipe known splice' position value)
  | .list items => by
    rw [Config.readPipe, Config.readPipe, pipeTargets]
    exact readSteps h hs position 0 items
  | .null | .bool _ | .number _ | .string _ | .map _ => by
    simp only [Config.readPipe]
    exact h.refuse _ position .pipeNotList

end

theorem readPipeField (h : Carries R) (hs : Splices R .steps splice splice')
    (position : Position) (draft : PipeDraft) (key : String) (value : Json) :
    R _ (if key = "pipe" then pipeTargets value else [])
      (Config.readPipeField known splice position draft key value)
      (Config.readPipeField known splice' position draft key value) := by
  unfold Config.readPipeField
  by_cases hname : key = "name"
  · rw [if_pos hname, if_pos hname, if_neg (by simp [hname])]
    split
    · exact h.pure _
    · exact h.refuse _ position .nameNotString
  · rw [if_neg hname, if_neg hname]
    by_cases hdefault : key = "default"
    · rw [if_pos hdefault, if_pos hdefault, if_neg (by simp [hdefault])]
      split
      · exact h.pure _
      · exact h.refuse _ _ _
    · rw [if_neg hdefault, if_neg hdefault]
      split
      · exact h.map (h.readPipe known hs _ value)
      · exact h.refuse _ position _

theorem readPipeFields (h : Carries R) (hs : Splices R .steps splice splice')
    (position : Position) (draft : PipeDraft) (fields : List (String × Json)) :
    R _ (directivesTargets fields) (Config.readPipeFields known splice position draft fields)
      (Config.readPipeFields known splice' position draft fields) := by
  induction fields generalizing draft with
  | nil =>
    rw [directivesTargets]
    exact h.pure draft
  | cons entry rest ih =>
    rw [directivesTargets]
    exact h.bind (h.readPipeField known hs position draft entry.1 entry.2) fun next => ih next

theorem readPipeEntry (h : Carries R) (hs : Splices R .steps splice splice')
    (position : Position) (fields : Fields Json) :
    R _ (directivesTargets fields) (Config.readPipeEntry known splice position fields)
      (Config.readPipeEntry known splice' position fields) := by
  rw [← List.append_nil (directivesTargets fields)]
  refine h.bind (h.readPipeFields known hs position _ fields) fun draft => ?_
  split
  · exact h.pure _
  · exact h.refuse [] position .noPipe

theorem readInit (h : Carries R) (hs : Splices R .steps splice splice')
    (first : Bool) (position : Position) (fields : Fields Json) (init : Json) :
    R _ (pipeTargets init) (Config.readInit known splice first position fields init)
      (Config.readInit known splice' first position fields init) := by
  refine h.bind (h.alone "init" fields position) fun _ => ?_
  split
  · exact h.refuse _ position .initNotFirst
  · split
    · rw [pipeTargets]
      exact h.readSteps known hs _ 0 _
    · exact h.refuse _ _ .initNotList

theorem readEntry (h : Carries R) (hs : Splices R .steps splice splice')
    (hp : Splices R .entries splicePipes splicePipes')
    (first : Bool) (position : Position) (entry : Json) :
    R _ (entryTargets entry) (Config.readEntry known splice splicePipes first position entry)
      (Config.readEntry known splice' splicePipes' first position entry) := by
  unfold Config.readEntry
  split
  · next fields =>
    rw [entryTargets]
    cases Fields.get? "include" fields with
    | some target =>
      exact h.bind (h.alone "include" fields position) fun _ => h.map (hp target position)
    | none => cases Fields.get? "init" fields with
      | some init => exact h.map (h.readInit known hs first position fields init)
      | none => exact h.map (h.readPipeEntry known hs position fields)
  · exact h.refuse _ position .entryNotMapping

theorem readEntries (h : Carries R) (hs : Splices R .steps splice splice')
    (hp : Splices R .entries splicePipes splicePipes')
    (mayInit : Bool) (root : Position) (index : Nat) (entries : List Json) :
    R _ (targets .entries entries)
      (Config.readEntries known splice splicePipes mayInit root index entries)
      (Config.readEntries known splice' splicePipes' mayInit root index entries) := by
  induction entries generalizing index with
  | nil => exact h.pure empty
  | cons entry rest ih =>
    exact h.bind (h.readEntry known hs hp _ _ entry) fun first => h.map (ih (index + 1))

end Carries

end Readings

end Sluice.Config

import Sluice.Config.Draft
import Sluice.Config.Source

/-!
# Reading configurations

A document is a list of entries: an `init` block in the first place, pipes, and includes, which
stand for the entries of another file.  Lists of steps may hold includes too.  The functions on
documents take the meaning of an include as an argument, and leave open what else reading keeps
track of; `stepsOf` and `pipesOf` tie the knot over the files that are not being read yet.
-/

namespace Sluice.Config

/-- The meaning of an include at a position. -/
abbrev Splice (m : Type → Type) (α : Type) := Json → Position → m (List α)

section Documents

variable {m : Type → Type} [Monad m] [MonadExceptOf LoadError m]

/-- A key that allows no other one beside it. -/
def alone (key : String) (fields : Fields Json) (position : Position) : m Unit :=
  if fields.length = 1 then pure () else position.refuse (.notAlone key)

mutual

/-- The steps of a list that stands at a position, from an index on. -/
def readSteps (known : String → Bool) (splice : Splice m Step) (position : Position) (index : Nat) :
    List Json → m (List Step)
  | [] => return []
  | entry :: rest => do
    let first ← readStep known splice (position.item index) entry
    return first ++ (← readSteps known splice position (index + 1) rest)

def readStep (known : String → Bool) (splice : Splice m Step) (position : Position) :
    Json → m (List Step)
  | .map fields => match Fields.get? "include" fields with
    | some target => do
      alone "include" fields position
      splice target position
    | none => do
      let draft ← readDirectives known splice position .blank fields
      return [draft.finish position]
  | _ => position.refuse .stepNotMapping

def readDirectives (known : String → Bool) (splice : Splice m Step) (position : Position)
    (draft : Draft) : List (String × Json) → m Draft
  | [] => return draft
  | (key, value) :: rest =>
    if key = "pipe" then do
      let steps ← readPipe known splice (position.field "pipe") value
      readDirectives known splice position (draft.fill key (.ok (.pipe steps))) rest
    else readDirectives known splice position (draft.add known key value) rest

def readPipe (known : String → Bool) (splice : Splice m Step) (position : Position) :
    Json → m (List Step)
  | .list items => readSteps known splice position 0 items
  | _ => position.refuse .pipeNotList

end

/-- What has been found of a pipe so far. -/
structure PipeDraft where
  name : Option String
  defaults : List (String × Fields Json)
  steps : Option (List Step)

/-- Takes in a field of an entry that is a pipe. -/
def readPipeField (known : String → Bool) (splice : Splice m Step) (position : Position)
    (draft : PipeDraft) (key : String) (value : Json) : m PipeDraft :=
  if key = "name" then
    match value with
    | .string s => return { draft with name := some s }
    | _ => position.refuse .nameNotString
  else if key = "default" then
    match Draft.defaultEntries value with
    | .ok defaults => return { draft with defaults }
    | .error cause => (position.field "default").refuse (.badDefault cause)
  else if key = "pipe" then do
    let steps ← readPipe known splice (position.field "pipe") value
    return { draft with steps := some steps }
  else position.refuse (.unexpectedKey key)

/-- The fields of an entry that is a pipe. -/
def readPipeFields (known : String → Bool) (splice : Splice m Step) (position : Position)
    (draft : PipeDraft) : List (String × Json) → m PipeDraft
  | [] => return draft
  | (key, value) :: rest => do
    let next ← readPipeField known splice position draft key value
    readPipeFields known splice position next rest

/-- An entry that is a pipe. -/
def readPipeEntry (known : String → Bool) (splice : Splice m Step) (position : Position)
    (fields : Fields Json) : m Pipe := do
  let draft ← readPipeFields known splice position ⟨none, [], none⟩ fields
  match draft.steps with
  | some steps => return ⟨draft.name, position, draft.defaults, steps⟩
  | none => position.refuse .noPipe

def readInit (known : String → Bool) (splice : Splice m Step) (first : Bool) (position : Position)
    (fields : Fields Json) (init : Json) : m (List Step) := do
  alone "init" fields position
  if ¬ first then position.refuse .initNotFirst
  else match init with
    | .list items => readSteps known splice (position.field "init") 0 items
    | _ => (position.field "init").refuse .initNotList

def readEntry (known : String → Bool) (spliceSteps : Splice m Step) (splicePipes : Splice m Pipe)
    (first : Bool) (position : Position) : Json → m Config
  | .map fields => match Fields.get? "include" fields, Fields.get? "init" fields with
    | some target, _ => do
      alone "include" fields position
      return ⟨none, ← splicePipes target position⟩
    | none, some init => do
      return ⟨some (← readInit known spliceSteps first position fields init), []⟩
    | none, none => do
      return ⟨none, [← readPipeEntry known spliceSteps position fields]⟩
  | _ => position.refuse .entryNotMapping

/-- The entries of a document, from an index on. -/
def readEntries (known : String → Bool) (spliceSteps : Splice m Step) (splicePipes : Splice m Pipe)
    (mayInit : Bool) (root : Position) (index : Nat) : List Json → m Config
  | [] => return empty
  | entry :: rest => do
    let position := root.item index
    let first ← readEntry known spliceSteps splicePipes (mayInit && index = 0) position entry
    return first.append (← readEntries known spliceSteps splicePipes mayInit root (index + 1) rest)

end Documents

/-- The steps that an include stands for. -/
def stepsOf (tree : FileTree) (known : String → Bool) (source : Source) (target : Json)
    (position : Position) :
    Loading (List Step) := do
  let i ← source.follow tree target position
  let splice target position := stepsOf tree known i.source target position
  readSteps known splice i.source.root 0 i.items
termination_by source.unread tree
decreasing_by exact i.fewer

/-- The pipes that an include stands for. -/
def pipesOf (tree : FileTree) (known : String → Bool) (source : Source) (target : Json)
    (position : Position) :
    Loading (List Pipe) := do
  let i ← source.follow tree target position
  let c ← readEntries known (stepsOf tree known i.source)
    (fun target position => pipesOf tree known i.source target position) false i.source.root 0
    i.items
  return c.pipes
termination_by source.unread tree
decreasing_by exact i.fewer

/-- The configuration of a document. -/
def ofDocument (tree : FileTree) (known : String → Bool) (source : Source) : Json → Loading Config
  | .list entries =>
    readEntries known (stepsOf tree known source) (pipesOf tree known source) true source.root 0
      entries
  | _ => source.root.refuse .topNotList

/-- The configuration of a file. -/
def readFile (tree : FileTree) (known : String → Bool) (path : String) : Loading Config := do
  let o ← StateT.lift (Source.openFile tree ⟨path, "", []⟩ path)
  modify (· ++ [o.opening])
  ofDocument tree known o.source o.document

/-- The configuration in a file, with the files that were opened for it; `known` tells which plugins
there are. -/
def load (tree : FileTree) (known : String → Bool) (path : String) :
    Except LoadError (Config × List Opening) :=
  (readFile tree known path).run []

/-- The configuration in a text; its includes are seen from a directory. -/
def ofText (tree : FileTree) (known : String → Bool) (name text directory : String) :
    Except LoadError (Config × List Opening) :=
  match Yaml.read? text.toList with
  | none => .error (.notYaml name)
  | some document => (ofDocument tree known ⟨name, directory, []⟩ document).run []

end Sluice.Config

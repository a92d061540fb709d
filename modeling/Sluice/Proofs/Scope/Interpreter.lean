import Sluice.Run.Step

/-!
# Default parameters as an argument

A second interpreter of steps, in which default parameters are no part of the state.  What a run
changes is a `Store`; the defaults that a plugin sees are a `Scope`, which is handed down and never
written:

* `Layer`  : what the `default` entries of one place have declared, bound, in order;
* `Scope`  : the layers of the enclosing lists of steps, outermost first, and the layer of the list
  that is being run, up to the current step;
* `Deed`   : what a run of this interpreter records: the events of a run, but a call of a plugin
  with the scope in which it stands.

A sub-pipe is entered with a fresh layer, a `default` step that has been bound as a whole hands its
layer to the steps behind it in its own list, and nothing ever has to be taken back.
-/

namespace Sluice

/-! ## Layers and scopes -/

/-- Default parameters declared in one place: plugins and their bound fields, in order. -/
abbrev Layer := List (String × Fields Json)

/-- Default parameters overlaid by those of a layer, entry by entry and field by field. -/
def Defaults.extend (base : Defaults) (layer : Layer) : Defaults :=
  layer.foldl (fun d entry => d.adjust entry.1 fun old => Fields.overlay (old.getD []) entry.2) base

/-- The layers around a step: those of the enclosing places, outermost first, and that of its own
list. -/
structure Scope where
  outer : List Layer
  own : Layer

namespace Scope

def layers (scope : Scope) : List Layer := scope.outer ++ [scope.own]

/-- The scope of the first step of a list inside. -/
def enter (scope : Scope) : Scope := ⟨scope.layers, []⟩

/-- The scope behind a step that has declared a layer. -/
def declare (scope : Scope) (layer : Layer) : Scope := { scope with own := scope.own ++ layer }

/-- The default parameters in a scope, above those that a run has started with. -/
def defaults (scope : Scope) (base : Defaults) : Defaults := base.extend scope.layers.flatten

end Scope

/-! ## Stores and deeds -/

/-- What a run changes: everything of a context but the default parameters. -/
structure Store where
  request : Request
  assigned : Fields Json
  registered : Fields (Fields Json)
  result : Bool

/-- A context without its default parameters. -/
def Context.store (ctx : Context) : Store := ⟨ctx.request, ctx.assigned, ctx.registered, ctx.result⟩

/-- The context of a store and default parameters. -/
def Store.under (s : Store) (d : Defaults) : Context :=
  ⟨s.request, d, s.assigned, s.registered, s.result⟩

def Store.view (s : Store) : View :=
  ⟨s.request.view, .map s.assigned, .map (s.registered.map fun entry => (entry.1, .map entry.2))⟩

/-- Whether an event is the call of a plugin. -/
def Event.isCall : Event → Bool
  | .pluginCalled .. => true
  | _ => false

/-- What is recorded of a run: an event, or a call of a plugin. -/
inductive Deed where
  | noted (event : Event) (quiet : event.isCall = false)
  | called (scope : Scope) (plugin : String) (params : Fields Json) (store : Store)

/-- The event of a deed in a run that has started with the default parameters `base`. -/
def Deed.event (base : Defaults) : Deed → Event
  | .noted event _ => event
  | .called scope plugin params s => .pluginCalled plugin params (s.under (scope.defaults base))

/-! ## Scoped runs -/

/-- What a scoped run leaves. -/
structure Outcome (α : Type) where
  value : α
  store : Store
  deeds : List Deed

/-- Something that runs in a store. -/
def Scoped (α : Type) : Type := Store → Outcome α

/-- Something that runs in a store and may fail. -/
abbrev ScopedAttempt (α : Type) : Type := ExceptT StepError Scoped α

namespace Scoped

variable {α β : Type}

instance : Monad Scoped where
  pure a := fun s => ⟨a, s, []⟩
  bind x f := fun s =>
    let o := x s
    let p := f o.value o.store
    ⟨p.value, p.store, o.deeds ++ p.deeds⟩

def store : Scoped Store := fun s => ⟨s, s, []⟩

def update (f : Store → Store) : Scoped Unit := fun s => ⟨(), f s, []⟩

def record (deed : Deed) : Scoped Unit := fun s => ⟨(), s, [deed]⟩

/-- An event that is no call is recorded. -/
def note (event : Event) (quiet : event.isCall = false := by rfl) : Scoped Unit :=
  record (.noted event quiet)

/-- What a plugin has logged is recorded, in order. -/
def noteLog (plugin : String) (log : List Record) : Scoped Unit := fun s =>
  ⟨(), s, log.map fun r => .noted (.pluginLogged plugin r) rfl⟩

def attempt (x : Except StepError α) : ScopedAttempt α := ExceptT.mk (pure x)

@[simp] theorem pure_apply (a : α) (s : Store) : (pure a : Scoped α) s = ⟨a, s, []⟩ := rfl

@[simp] theorem bind_apply (x : Scoped α) (f : α → Scoped β) (s : Store) :
    (x >>= f) s = ⟨(f (x s).value (x s).store).value, (f (x s).value (x s).store).store,
      (x s).deeds ++ (f (x s).value (x s).store).deeds⟩ := rfl

@[simp] theorem store_apply (s : Store) : store s = ⟨s, s, []⟩ := rfl

@[simp] theorem update_apply (f : Store → Store) (s : Store) : update f s = ⟨(), f s, []⟩ := rfl

@[simp] theorem record_apply (deed : Deed) (s : Store) : record deed s = ⟨(), s, [deed]⟩ := rfl

@[simp] theorem note_apply (event : Event) (quiet : event.isCall = false) (s : Store) :
    note event quiet s = ⟨(), s, [.noted event quiet]⟩ := rfl

@[simp] theorem noteLog_apply (plugin : String) (log : List Record) (s : Store) :
    noteLog plugin log s = ⟨(), s, log.map fun r => .noted (.pluginLogged plugin r) rfl⟩ := rfl

/-! ## Binding: the only place where texts are evaluated -/

/-- A configuration value, bound for a directive. -/
def bindValue (directive : String) (raw : Json) : ScopedAttempt Json := ExceptT.mk fun s =>
  ⟨match Binding.value s.view raw with
    | .ok v => .ok v
    | .error e => .error (.unbound directive e), s, []⟩

/-- Fields, bound for a directive. -/
def bindFields (directive : String) (fields : Fields Json) : ScopedAttempt (Fields Json) :=
  ExceptT.mk fun s =>
    ⟨match Binding.fields s.view fields with
      | .ok bound => .ok bound
      | .error e => .error (.unbound directive e), s, []⟩

theorem run_bindValue (directive : String) (raw : Json) (s : Store) :
    (bindValue directive raw).run s =
      ⟨(Binding.value s.view raw).mapError (.unbound directive), s, []⟩ := by
  change (⟨_, s, []⟩ : Outcome (Except StepError Json)) = _
  cases Binding.value s.view raw <;> rfl

theorem run_bindFields (directive : String) (fields : Fields Json) (s : Store) :
    (bindFields directive fields).run s =
      ⟨(Binding.fields s.view fields).mapError (.unbound directive), s, []⟩ := by
  change (⟨_, s, []⟩ : Outcome (Except StepError (Fields Json))) = _
  cases Binding.fields s.view fields <;> rfl

def holds (directive : String) (c : Condition) : ScopedAttempt Bool := do
  match ← bindValue directive c.toJson with
  | .bool b => return b
  | v => throw (.notBoolean directive v)

/-- Whether a guard lets a step run. -/
def opens (control : Control) : ScopedAttempt Bool :=
  match control.guard with
  | none => return true
  | some c => holds "when" c

/-- The outcome of a step whose content has given a value. -/
def decides (control : Control) (given : Bool) : ScopedAttempt Bool :=
  match control.verdict with
  | none => return given
  | some c => holds "result" c

/-! ## The interpreter -/

/-- Assigns variables one after the other. -/
def assign : List (String × Json) → ScopedAttempt Unit
  | [] => return ()
  | (name, raw) :: rest => do
    let value ← bindValue "variable" raw
    note (.variableSet name value)
    update fun s => { s with assigned := Fields.set name value s.assigned }
    assign rest

/-- Declares default parameters: binds all entries, or none. -/
def declare : List (String × Fields Json) → ScopedAttempt Layer
  | [] => return []
  | (plugin, raw) :: rest => do
    let fields ← bindFields "default" raw
    return (plugin, fields) :: (← declare rest)

/-- Keeps the result of a plugin together with its outcome. -/
def keep (plugin register : String) (a : Answer) : Scoped Unit := do
  let result := a.result.getD []
  match Fields.get? "result" result with
  | some discarded => note (.resultDiscarded plugin register discarded)
  | none => pure ()
  update fun s => { s with
    registered := Fields.set register (Fields.set "result" (.bool a.holds) result) s.registered }

/-- Calls a plugin in a scope.  What the plugin leaves of the default parameters is ignored. -/
def callPlugin (base : Defaults) (scope : Scope) (p : Plugin) (name : String)
    (params : Fields Json) : Scoped Answer := do
  let s ← store
  record (.called scope name params s)
  let a := p.call params (s.under (scope.defaults base))
  update fun _ => a.context.store
  noteLog name a.log
  match a.outcome with
  | .error e => note (.pluginFailed name e)
  | .ok _ => pure ()
  return a

/-- The parameters of a plugin, bound in a scope. -/
def bindParams (base : Defaults) (scope : Scope) (name : String) (raw : Json) :
    ScopedAttempt (Fields Json) := do
  let s ← store
  let fields ← attempt ((s.under (scope.defaults base)).rawParams name raw)
  bindFields name fields

/-- Invokes a plugin in a scope. -/
def invoke (registry : Registry) (base : Defaults) (scope : Scope) (name : String) (raw : Json)
    (control : Control) : ScopedAttempt Bool := do
  let params ← bindParams base scope name raw
  match ← attempt (registry.select name params) with
  | none => throw (.unknownPredicate name)
  | some p => do
    let a ← callPlugin base scope p name params
    match control.register with
    | some register => keep name register a
    | none => pure ()
    decides control a.holds

def conclude (position : Position) (label : String) (outcome : Bool) : Scoped Bool := do
  note (.stepFinished position label outcome)
  update fun s => { s with result := outcome }
  return outcome

mutual

/-- Runs a step in a scope: its outcome, and the layer that it declares. -/
def step (registry : Registry) (base : Defaults) (scope : Scope) : Step → Scoped (Bool × Layer)
  | .invalid position cause => do
    note (.stepStarted position)
    note (.stepInvalid position cause)
    return (← conclude position (Step.invalid position cause).label false, [])
  | .valid position control body => do
    note (.stepStarted position)
    match ← (opens control).run with
    | .ok false => do
      note (.stepSkipped position)
      return (true, [])
    | .error e => do
      note (.guardFailed position e)
      return (true, [])
    | .ok true => do
      let label := (Step.valid position control body).label
      match ← (content registry base scope control body).run with
      | .ok (outcome, layer) => return (← conclude position label outcome, layer)
      | .error e => do
        note (.stepFailed position label e)
        return (← conclude position label false, [])

def content (registry : Registry) (base : Defaults) (scope : Scope) (control : Control) :
    Content → ScopedAttempt (Bool × Layer)
  | .plugin name params => return (← invoke registry base scope name params control, [])
  | .assign entries => do
    assign entries
    return (true, [])
  | .defaults entries => return (true, ← declare entries)
  | .pipe steps => do
    let outcome ← ExceptT.lift
      (if steps.isEmpty then pure false else all registry base scope.enter steps)
    note (.subPipeFinished outcome)
    return (← decides control true, [])

/-- Runs steps until one of them is false; each one stands in the scope of those before it. -/
def all (registry : Registry) (base : Defaults) (scope : Scope) : List Step → Scoped Bool
  | [] => return true
  | first :: rest => do
    let (outcome, layer) ← step registry base scope first
    if outcome then all registry base (scope.declare layer) rest else return false

end

def steps (registry : Registry) (base : Defaults) (scope : Scope) (list : List Step) :
    Scoped Bool :=
  if list.isEmpty then pure false else all registry base scope list

/-- Runs the steps of a pipe, whose own default parameters are the outermost layer. -/
def inside (registry : Registry) (base : Defaults) (p : Pipe) : Scoped Bool := do
  match ← (declare p.defaults).run with
  | .ok layer => steps registry base ⟨[layer], []⟩ p.steps
  | .error e => do
    note (.pipeDefaultInvalid p.position e)
    return false

def pipe (registry : Registry) (base : Defaults) (p : Pipe) : Scoped Bool := do
  let outcome ← inside registry base p
  note (.pipeFinished outcome)
  return outcome

/-- Runs pipes in order; the last one decides. -/
def pipes (registry : Registry) (base : Defaults) (list : List Pipe) : Scoped Bool :=
  list.foldlM (fun _ p => pipe registry base p) false

end Scoped

/-! ## What is declared -/

/-- The layer of a content that has been done. -/
def contentLayer? : Except StepError (Bool × Layer) → Option Layer
  | .ok (_, layer) => some layer
  | .error _ => none

/-- The layer of a step behind which its list goes on. -/
def stepLayer? : Bool × Layer → Option Layer
  | (true, layer) => some layer
  | (false, _) => none

end Sluice

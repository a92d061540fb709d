import Sluice.Config.Basic

/-!
# Steps in the making

The directives of a step are collected one by one.  The first thing that is wrong stays; a second
content is wrong too.  What has been collected is a step that makes sense, or one with its reason.
-/

namespace Sluice

/-- What has been found of a step so far. -/
structure Draft where
  control : Control
  content : Option Content
  cause : Option StepError

namespace Draft

def blank : Draft := ⟨⟨none, none, none, none⟩, none, none⟩

def reject (d : Draft) (e : StepError) : Draft := { d with cause := d.cause.or (some e) }

/-- The step has a content, or a directive that should have been one. -/
def fill (d : Draft) (directive : String) (found : Except StepError Content) : Draft :=
  match found, d.content with
  | .error e, _ => d.reject e
  | .ok _, some first => d.reject (.conflicting first.kind directive)
  | .ok content, none => { d with content := some content }

/-- The items of a list of mappings with a single key, counted from an index. -/
def singleEntries (index : Nat) : List Json → Except StepError (List (String × Json))
  | [] => .ok []
  | .map [entry] :: rest => do return entry :: (← singleEntries (index + 1) rest)
  | _ => .error (.malformed "variable" (.entryNotSingle index))

/-- The assignments of a `variable` directive: a mapping, or a list of mappings with a single
key. -/
def assignments : Json → Except StepError (List (String × Json))
  | .list items => singleEntries 0 items
  | .map fields => .ok fields
  | _ => .error (.malformed "variable" .notAssignments)

/-- The entries of a mapping of mappings; null stands for an empty one. -/
def fieldsByPredicate : List (String × Json) → Except StepError (List (String × Fields Json))
  | [] => .ok []
  | (predicate, .map fields) :: rest => do return (predicate, fields) :: (← fieldsByPredicate rest)
  | (predicate, .null) :: rest => do return (predicate, []) :: (← fieldsByPredicate rest)
  | (predicate, _) :: _ => .error (.malformed "default" (.fieldsNotMapping predicate))

def defaultEntries : Json → Except StepError (List (String × Fields Json))
  | .map entries => fieldsByPredicate entries
  | _ => .error (.malformed "default" .notMapping)

/-- Takes in a directive that is no list of steps. -/
def add (known : String → Bool) (d : Draft) (key : String) (value : Json) : Draft :=
  if key = "name" then
    match value with
    | .string s => { d with control := { d.control with name := some s } }
    | _ => d.reject (.malformed key .notString)
  else if key = "when" then
    match Condition.ofJson? value with
    | some c => { d with control := { d.control with guard := some c } }
    | none => d.reject (.malformed key .notCondition)
  else if key = "result" then
    match Condition.ofJson? value with
    | some c => { d with control := { d.control with verdict := some c } }
    | none => d.reject (.malformed key .notCondition)
  else if key = "register" then
    match value with
    | .string s =>
      if s = "" then d.reject (.malformed key .notLabel)
      else { d with control := { d.control with register := some s } }
    | _ => d.reject (.malformed key .notLabel)
  else if key = "variable" then d.fill key ((assignments value).map .assign)
  else if key = "default" then d.fill key ((defaultEntries value).map .defaults)
  else if known key then d.fill key (.ok (.plugin key value))
  else d.fill key (.error (.unknownPredicate key))

/-- The step that has been collected. -/
def finish (d : Draft) (position : Position) : Step :=
  match d.cause, d.content with
  | some cause, _ => .invalid position cause
  | none, none => .invalid position .noContent
  | none, some (.pipe steps) =>
    if d.control.register.isSome then .invalid position .registeredPipe
    else .valid position d.control (.pipe steps)
  | none, some content => .valid position d.control content

end Draft

end Sluice

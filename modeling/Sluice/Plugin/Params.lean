import Sluice.Index
import Sluice.Plugin.Error

/-!
# Reading parameters

The parameters of a plugin are read once more where they are used: each reader takes the value of a
field, if the field is there, and says what is wrong with it.
-/

namespace Sluice.Params

def text : Json → Except ParamFlaw String
  | .string s => .ok s
  | v => .error (.wrongKind v "a string")

def bool : Json → Except ParamFlaw Bool
  | .bool b => .ok b
  | v => .error (.wrongKind v "a boolean")

def nat : Json → Except ParamFlaw Nat
  | .number (.int i h) =>
    if 0 ≤ i then .ok i.toNat else .error (.wrongKind (.number (.int i h)) "u64")
  | v => .error (.wrongKind v "u64")

def texts : Json → Except ParamFlaw (List String)
  | .list items => items.mapM text
  | v => .error (.wrongKind v "a sequence")

/-- A mapping from names to texts, in the order of the names. -/
def textsByName : Json → Except ParamFlaw (List (String × String))
  | .map fields => do
    let entries ← fields.mapM fun (name, v) => do return (name, ← text v)
    return (Index.ofList entries).entries
  | v => .error (.wrongKind v "a map")

/-- A field that has to be there. -/
def required {α : Type} (reader : Json → Except ParamFlaw α) (name : String)
    (params : Fields Json) :
    Except ParamFlaw α :=
  match Fields.get? name params with
  | some v => reader v
  | none => .error (.missing name)

/-- A field that may be missing; null counts as missing. -/
def optional {α : Type} (reader : Json → Except ParamFlaw α) (name : String)
    (params : Fields Json) :
    Except ParamFlaw (Option α) :=
  match Fields.get? name params with
  | none | some .null => .ok none
  | some v => (reader v).map some

/-- A field with a usual value. -/
def usually {α : Type} (usual : α) (reader : Json → Except ParamFlaw α) (name : String)
    (params : Fields Json) :
    Except ParamFlaw α :=
  match Fields.get? name params with
  | some v => reader v
  | none => .ok usual

/-- A text that must not be empty. -/
def filled (name s : String) : Except ParamFlaw String :=
  if s = "" then .error (.empty name) else .ok s

/-- A text that must not be empty, if it is there. -/
def filled? (name : String) : Option String → Except ParamFlaw (Option String)
  | none => .ok none
  | some s => (filled name s).map some

end Sluice.Params

import Sluice.Schema.Basic

/-!
# Schemas written as values

`ofJson?` reads a schema that is written as a map of keywords, or as a boolean.  It fails if a
keyword has a value that makes no sense for it; keywords that it does not know demand nothing.
-/

namespace Sluice.Schema

def count? : Json → Option Nat
  | .number (.int i _) => if 0 ≤ i then some i.toNat else none
  | .number (.float x _) => if 0.0 ≤ x ∧ x.floor == x then some x.toUInt64.toNat else none
  | _ => none

def number? : Json → Option Number
  | .number n => some n
  | _ => none

def names? : Json → Option (List String)
  | .list vs => do
    let names ← vs.mapM Json.string?
    if names.Nodup then some names else none
  | _ => none

/-- A kind or a list of different kinds. -/
def kinds? : Json → Option Keyword
  | .string s => (Fields.get? s Kind.names).map fun k => .kinds false [k]
  | v => do
    let names ← names? v
    let kinds ← names.mapM fun s => Fields.get? s Kind.names
    match kinds with
    | [] => none
    | [k] => some (.kinds false [k])
    | _ => some (.kinds true kinds)

def requiredWith? : Json → Option Keyword
  | .map fs => (fs.mapM fun entry => (names? entry.2).map (entry.1, ·)).map .requiredWith
  | _ => none

/-- A keyword that holds no schemas; `none` inside if the keyword is not known. -/
def simpleKeyword? (key : String) (value : Json) : Option (Option Keyword) :=
  match key with
  | "type" => (kinds? value).map some
  | "enum" => match value with
    | .list vs => some (some (.oneOfValues vs))
    | _ => none
  | "const" => some (some (.exactly value))
  | "minLength" => (count? value).map fun n => some (.minLength n)
  | "maxLength" => (count? value).map fun n => some (.maxLength n)
  | "pattern" => do
    let text ← value.string?
    let p ← Pattern.ofText? text
    return some (.pattern text p)
  | "minimum" => (number? value).map fun n => some (.minimum n)
  | "maximum" => (number? value).map fun n => some (.maximum n)
  | "exclusiveMinimum" => (number? value).map fun n => some (.moreThan n)
  | "exclusiveMaximum" => (number? value).map fun n => some (.lessThan n)
  | "multipleOf" => do
    let n ← number? value
    if 0.0 < n.toFloat then return some (.multipleOf n) else none
  | "minItems" => (count? value).map fun n => some (.minItems n)
  | "maxItems" => (count? value).map fun n => some (.maxItems n)
  | "uniqueItems" => value.bool?.map fun b => if b then some .distinctItems else none
  | "minProperties" => (count? value).map fun n => some (.minFields n)
  | "maxProperties" => (count? value).map fun n => some (.maxFields n)
  | "required" => (names? value).map fun names => some (.required names)
  | "dependentRequired" => (requiredWith? value).map some
  | "title" => value.string?.map fun _ => none
  | "description" => value.string?.map fun _ => none
  | "format" => value.string?.map fun _ => none
  | "$comment" => value.string?.map fun _ => none
  | _ => some none

/-- A keyword whose schema has been read; `if`, `then`, `else` and what depends on other keywords
are put together later. -/
inductive Part where
  | simple (k : Keyword)
  | otherFields (s : Schema) | otherItems (s : Schema)
  | condition (s : Schema) | yes (s : Schema) | no (s : Schema)

/-- The keywords that hold one schema. -/
def single? (key : String) (value : Json) : Option (Schema → Part) :=
  match key with
  | "items" => some .otherItems
  | "contains" => some fun s => .simple (.containsItem s)
  | "additionalProperties" => some .otherFields
  | "propertyNames" => some fun s => .simple (.fieldNames s)
  | "not" => some fun s => .simple (.not value s)
  | "if" => some .condition
  | "then" => some .yes
  | "else" => some .no
  | _ => none

/-- The keywords that hold a list of schemas, which must not be empty. -/
def several? (key : String) : Option (List Schema → Part) :=
  match key with
  | "allOf" => some fun s => .simple (.allOf s)
  | "anyOf" => some fun s => .simple (.anyOf s)
  | "oneOf" => some fun s => .simple (.oneOf s)
  | "prefixItems" => some fun s => .simple (.firstItems s)
  | _ => none

/-- Schemas by pattern. -/
def patterned? (schemas : List (String × Schema)) : Option (List (Pattern × Schema)) :=
  schemas.mapM fun entry => (Pattern.ofText? entry.1).map (·, entry.2)

def named? (key : String) : Option (List (String × Schema) → Option Part) :=
  match key with
  | "properties" => some fun s => some (.simple (.fields s))
  | "patternProperties" => some fun s => (patterned? s).map fun s => .simple (.matchingFields s)
  | _ => none

def namedFields (parts : List Part) : List (String × Schema) :=
  parts.flatMap fun
    | .simple (.fields s) => s
    | _ => []

def patternFields (parts : List Part) : List (Pattern × Schema) :=
  parts.flatMap fun
    | .simple (.matchingFields s) => s
    | _ => []

/-- How many items have schemas of their own. -/
def firstCount (parts : List Part) : Nat :=
  (parts.flatMap fun
    | .simple (.firstItems s) => s
    | _ => []).length

/-- Whether the fields without a schema of their own are restricted. -/
def restrictsOthers : Part → Bool
  | .otherFields (.always true) => false
  | .otherFields _ => true
  | _ => false

/-- The schema of `then` and `else`. -/
def branch (yes : Bool) (parts : List Part) : Schema :=
  (parts.findSome? fun
    | .yes s => if yes then some s else none
    | .no s => if yes then none else some s
    | _ => none).getD (.always true)

/-- Puts the parts of a schema together.  Where other fields are restricted, all fields are checked
there. -/
def assemble (parts : List Part) : Schema :=
  let restricted := parts.any restrictsOthers
  .keywords <| parts.filterMap fun
    | .simple (.fields s) => if restricted then none else some (.fields s)
    | .simple (.matchingFields s) => if restricted then none else some (.matchingFields s)
    | .simple k => some k
    | .otherFields (.always true) => none
    | .otherFields (.always false) =>
      some (.otherFields (namedFields parts) (patternFields parts) none)
    | .otherFields s => some (.otherFields (namedFields parts) (patternFields parts) (some s))
    | .otherItems s => some (.items (firstCount parts) s)
    | .condition s => some (.conditional s (branch true parts) (branch false parts))
    | _ => none

mutual

/-- The schema that a value spells. -/
def ofJson? : Json → Option Schema
  | .bool b => some (.always b)
  | .map fs => (parts? fs).map assemble
  | _ => none

def parts? : List (String × Json) → Option (List Part)
  | [] => some []
  | (key, value) :: rest => do
    let first ← part? key value
    let more ← parts? rest
    return first.toList ++ more

/-- A part of a schema, unless its keyword is not known. -/
def part? (key : String) : Json → Option (Option Part)
  | .list vs => match several? key with
    | some f => do
      let schemas ← schemas? vs
      if schemas.isEmpty then none else return some (f schemas)
    | none => (single? key (.list vs)).elim (simple? key (.list vs)) fun _ => none
  | .map fs => match single? key (.map fs) with
    | some f => do return some (f (assemble (← parts? fs)))
    | none => match named? key with
      | some f => do return some (← f (← byName? fs))
      | none => (several? key).elim (simple? key (.map fs)) fun _ => none
  | .bool b => match single? key (.bool b) with
    | some f => some (some (f (.always b)))
    | none =>
      (named? key).elim ((several? key).elim (simple? key (.bool b)) fun _ => none) fun _ => none
  | value =>
    if (single? key value).isSome || (several? key).isSome || (named? key).isSome then none
    else simple? key value

def simple? (key : String) (value : Json) : Option (Option Part) :=
  (simpleKeyword? key value).map fun k => k.map .simple

def schemas? : List Json → Option (List Schema)
  | [] => some []
  | v :: rest => do
    let s ← ofJson? v
    return s :: (← schemas? rest)

def byName? : List (String × Json) → Option (List (String × Schema))
  | [] => some []
  | (name, v) :: rest => do
    let s ← ofJson? v
    return (name, s) :: (← byName? rest)

end

end Sluice.Schema

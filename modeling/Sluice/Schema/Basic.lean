import Sluice.Json.Printer
import Sluice.Pattern.Parser

/-!
# Schemas

A schema says which values are accepted.  It is a list of keywords, each of which speaks of values
of one kind and accepts all others, or it accepts everything or nothing.
-/

namespace Sluice

/-- The kinds of values that schemas tell apart; integers are numbers without a fraction. -/
inductive Schema.Kind where
  | null | boolean | integer | number | string | array | object
deriving DecidableEq, Repr

mutual

/-- A schema. -/
inductive Schema where
  | always (accepts : Bool)
  | keywords (parts : List Schema.Keyword)

inductive Schema.Keyword where
  | kinds (several : Bool) (kinds : List Schema.Kind)
  | oneOfValues (values : List Json)
  | exactly (value : Json)
  | minLength (n : Nat) | maxLength (n : Nat)
  | pattern (text : String) (pattern : Pattern)
  | minimum (n : Number) | maximum (n : Number)
  | moreThan (n : Number) | lessThan (n : Number)
  | multipleOf (n : Number)
  | minItems (n : Nat) | maxItems (n : Nat) | distinctItems
  | firstItems (schemas : List Schema)
  | items (skipped : Nat) (schema : Schema)
  | containsItem (schema : Schema)
  | minFields (n : Nat) | maxFields (n : Nat)
  | required (names : List String)
  | requiredWith (names : List (String × List String))
  | fields (schemas : List (String × Schema))
  | matchingFields (schemas : List (Pattern × Schema))
  | otherFields (named : List (String × Schema)) (matching : List (Pattern × Schema))
      (others : Option Schema)
  | fieldNames (schema : Schema)
  | allOf (schemas : List Schema) | anyOf (schemas : List Schema) | oneOf (schemas : List Schema)
  | not (text : Json) (schema : Schema)
  | conditional (condition yes no : Schema)

end

namespace Schema

instance : Inhabited Schema := ⟨.always true⟩

def Kind.names : List (String × Kind) :=
  [("null", .null), ("boolean", .boolean), ("integer", .integer), ("number", .number),
   ("string", .string), ("array", .array), ("object", .object)]

def Kind.name : Kind → String
  | .null => "null" | .boolean => "boolean" | .integer => "integer" | .number => "number"
  | .string => "string" | .array => "array" | .object => "object"

/-- Whether a number has no fraction. -/
def isWhole : Number → Bool
  | .int .. => true
  | .float x _ => x.floor == x

def Kind.has : Kind → Json → Bool
  | .null, .null => true
  | .boolean, .bool _ => true
  | .integer, .number n => isWhole n
  | .number, .number _ => true
  | .string, .string _ => true
  | .array, .list _ => true
  | .object, .map _ => true
  | _, _ => false

/-- The schema of values of one kind, with further demands. -/
def of (kind : Kind) (more : List Keyword) : Schema := .keywords (.kinds false [kind] :: more)

def text : Schema := of .string []

def someText : Schema := of .string [.minLength 1]

/-- The schema of everything that has some fields. -/
def having (names : List String) : Schema := .keywords [.required names]

/-- Why a value is not accepted. -/
inductive Violation where
  | forbidden (v : Json)
  | wrongKind (v : Json) (several : Bool) (kinds : List Kind)
  | notListed (v : Json) (values : List Json)
  | notEqual (value : Json)
  | tooShort (v : Json) (n : Nat) | tooLong (v : Json) (n : Nat)
  | noMatch (v : Json) (pattern : String)
  | tooSmall (v : Json) (n : Number) | tooLarge (v : Json) (n : Number)
  | notAbove (v : Json) (n : Number) | notBelow (v : Json) (n : Number)
  | notMultiple (v : Json) (n : Number)
  | fewItems (v : Json) (n : Nat) | manyItems (v : Json) (n : Nat) | repeated (v : Json)
  | noSuchItem (v : Json)
  | fewFields (v : Json) (n : Nat) | manyFields (v : Json) (n : Nat)
  | missing (name : String)
  | unexpected (names : List String)
  | noneOf (v : Json) (keyword : String) | severalOf (v : Json)
  | excluded (schema v : Json)

/-- `1 item`, `2 items`. -/
def counted (n : Nat) (one many : String) : String :=
  toString n ++ " " ++ if n = 1 then one else many

/-- Alternatives: with a comma between them and `or` before the last one; of more than three only
two are shown. -/
def alternatives : List String → String
  | [] => ""
  | [a] => a
  | [a, b] => a ++ " or " ++ b
  | [a, b, c] => a ++ ", " ++ b ++ " or " ++ c
  | a :: b :: rest => a ++ ", " ++ b ++ " or " ++ toString rest.length ++ " other candidates"

/-- The wording of a violation. -/
def Violation.message : Violation → String
  | .forbidden v => "False schema does not allow " ++ v.text
  | .wrongKind v several kinds =>
    v.text ++ " is not of type" ++ (if several then "s " else " ")
      ++ ", ".intercalate (kinds.map fun k => "\"" ++ k.name ++ "\"")
  | .notListed v values => v.text ++ " is not one of " ++ alternatives (values.map Json.text)
  | .notEqual value => value.text ++ " was expected"
  | .tooShort v n => v.text ++ " is shorter than " ++ counted n "character" "characters"
  | .tooLong v n => v.text ++ " is longer than " ++ counted n "character" "characters"
  | .noMatch v pattern => v.text ++ " does not match \"" ++ pattern ++ "\""
  | .tooSmall v n => v.text ++ " is less than the minimum of " ++ n.text
  | .tooLarge v n => v.text ++ " is greater than the maximum of " ++ n.text
  | .notAbove v n => v.text ++ " is less than or equal to the minimum of " ++ n.text
  | .notBelow v n => v.text ++ " is greater than or equal to the maximum of " ++ n.text
  | .notMultiple v n => v.text ++ " is not a multiple of " ++ n.text
  | .fewItems v n => v.text ++ " has less than " ++ counted n "item" "items"
  | .manyItems v n => v.text ++ " has more than " ++ counted n "item" "items"
  | .repeated v => v.text ++ " has non-unique elements"
  | .noSuchItem v => "None of " ++ v.text ++ " are valid under the given schema"
  | .fewFields v n => v.text ++ " has less than " ++ counted n "property" "properties"
  | .manyFields v n => v.text ++ " has more than " ++ counted n "property" "properties"
  | .missing name => (Json.string name).text ++ " is a required property"
  | .unexpected names =>
    "Additional properties are not allowed (" ++
      ", ".intercalate (names.map fun n => "'" ++ n ++ "'")
      ++ (if names.length = 1 then " was unexpected)" else " were unexpected)")
  | .noneOf v keyword =>
    v.text ++ " is not valid under any of the schemas listed in the '" ++ keyword ++ "' keyword"
  | .severalOf v =>
    v.text ++ " is valid under more than one of the schemas listed in the 'oneOf' keyword"
  | .excluded schema v => schema.text ++ " is not allowed for " ++ v.text

end Schema

end Sluice

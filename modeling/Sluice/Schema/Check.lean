import Sluice.Schema.Basic
import Sluice.Expr.Operation

/-!
# Checking values against schemas

`violations` lists what is wrong with a value: keyword by keyword in the order of the schema, and
inside a list or map in the order of the value or of the keyword, whichever it follows.  A value is
accepted if nothing is wrong with it.
-/

namespace Sluice.Schema

def demand (met : Bool) (violation : Violation) : List Violation := if met then [] else [violation]

/-- Whether no two items are the same. -/
def distinct : List Json → Bool
  | [] => true
  | v :: rest => ¬ rest.any v.equals && distinct rest

/-- Whether a number is a multiple of another one. -/
def isMultiple (n of : Number) : Bool :=
  match n, of with
  | .int i _, .int j _ => i % j = 0
  | n, of => Decimal.remainder n.toFloat of.toFloat == 0.0

/-- Whether a field has no schema of its own. -/
def isOther (named : List (String × Schema)) (matching : List (Pattern × Schema)) (name : String) :
    Bool :=
  ¬ Fields.has name named && ¬ matching.any fun entry => entry.1.isMatch name

mutual

/-- What is wrong with a value. -/
def violations : Schema → Json → List Violation
  | .always true, _ => []
  | .always false, v => [.forbidden v]
  | .keywords parts, v => ofKeywords parts v

def ofKeywords : List Keyword → Json → List Violation
  | [], _ => []
  | k :: rest, v => ofKeyword k v ++ ofKeywords rest v

def ofKeyword : Keyword → Json → List Violation
  | .kinds several kinds, v => demand (kinds.any (·.has v)) (.wrongKind v several kinds)
  | .oneOfValues values, v => demand (values.any v.equals) (.notListed v values)
  | .exactly value, v => demand (v.equals value) (.notEqual value)
  | .minLength n, .string s => demand (n ≤ s.length) (.tooShort (.string s) n)
  | .maxLength n, .string s => demand (s.length ≤ n) (.tooLong (.string s) n)
  | .pattern text p, .string s => demand (p.isMatch s) (.noMatch (.string s) text)
  | .minimum n, .number x => demand (x.ordering n ≠ .lt) (.tooSmall (.number x) n)
  | .maximum n, .number x => demand (x.ordering n ≠ .gt) (.tooLarge (.number x) n)
  | .moreThan n, .number x => demand (x.ordering n = .gt) (.notAbove (.number x) n)
  | .lessThan n, .number x => demand (x.ordering n = .lt) (.notBelow (.number x) n)
  | .multipleOf n, .number x => demand (isMultiple x n) (.notMultiple (.number x) n)
  | .minItems n, .list vs => demand (n ≤ vs.length) (.fewItems (.list vs) n)
  | .maxItems n, .list vs => demand (vs.length ≤ n) (.manyItems (.list vs) n)
  | .distinctItems, .list vs => demand (distinct vs) (.repeated (.list vs))
  | .firstItems schemas, .list vs => ofPairs schemas vs
  | .items skipped s, .list vs => (vs.drop skipped).flatMap fun v => violations s v
  | .containsItem s, .list vs =>
    demand (vs.any fun v => (violations s v).isEmpty) (.noSuchItem (.list vs))
  | .minFields n, .map fs => demand (n ≤ fs.length) (.fewFields (.map fs) n)
  | .maxFields n, .map fs => demand (fs.length ≤ n) (.manyFields (.map fs) n)
  | .required names, .map fs => (names.filter fun name => ¬ Fields.has name fs).map .missing
  | .requiredWith names, .map fs =>
    (names.filter fun entry => Fields.has entry.1 fs).flatMap fun entry =>
      (entry.2.filter fun name => ¬ Fields.has name fs).map .missing
  | .fields schemas, .map fs => ofNamed schemas fs
  | .matchingFields schemas, .map fs => ofMatching schemas fs
  | .otherFields named matching (some others), .map fs =>
    fs.flatMap fun entry =>
      ofNamed named [entry] ++ ofMatching matching [entry] ++
        (if isOther named matching entry.1 then violations others entry.2 else [])
  | .otherFields named matching none, .map fs =>
    let strangers := (fs.map (·.1)).filter fun name => isOther named matching name
    (fs.flatMap fun entry => ofNamed named [entry] ++ ofMatching matching [entry])
      ++ demand strangers.isEmpty (.unexpected strangers)
  | .fieldNames s, .map fs => fs.flatMap fun entry => violations s (.string entry.1)
  | .allOf schemas, v => ofAll schemas v
  | .anyOf schemas, v => demand (accepting schemas v ≠ 0) (.noneOf v "anyOf")
  | .oneOf schemas, v =>
    match accepting schemas v with
    | 0 => [.noneOf v "oneOf"]
    | 1 => []
    | _ => [.severalOf v]
  | .not text s, v => demand (¬ (violations s v).isEmpty) (.excluded text v)
  | .conditional c yes no, v =>
    if (violations c v).isEmpty then violations yes v else violations no v
  | _, _ => []

def ofAll : List Schema → Json → List Violation
  | [], _ => []
  | s :: rest, v => violations s v ++ ofAll rest v

def accepting : List Schema → Json → Nat
  | [], _ => 0
  | s :: rest, v => (if (violations s v).isEmpty then 1 else 0) + accepting rest v

/-- What is wrong with the first items of a list, each under its own schema. -/
def ofPairs : List Schema → List Json → List Violation
  | s :: schemas, v :: vs => violations s v ++ ofPairs schemas vs
  | _, _ => []

def ofNamed : List (String × Schema) → Fields Json → List Violation
  | [], _ => []
  | (name, s) :: rest, fs =>
    (match Fields.get? name fs with
      | some v => violations s v
      | none => []) ++ ofNamed rest fs

/-- What is wrong with the fields of a map under the schemas of the patterns that their names
match. -/
def ofMatching : List (Pattern × Schema) → Fields Json → List Violation
  | [], _ => []
  | (p, s) :: rest, fs =>
    (fs.filter fun entry => p.isMatch entry.1).flatMap (fun entry => violations s entry.2) ++
      ofMatching rest fs

end

def accepts (s : Schema) (v : Json) : Bool := (violations s v).isEmpty

end Sluice.Schema

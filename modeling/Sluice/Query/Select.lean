import Sluice.Query.Parser
import Sluice.Pattern.Parser

/-!
# What a query finds

`find` gives the values that a query reaches, in the order in which they are reached: selector by
selector, and for each of them value by value.  `run` takes a definite query, one that names a
single place, to the value there, and any other query to the list of what it finds.
-/

namespace Sluice.Query

/-- The items of a list or the values of a map. -/
def children : Json → List Json
  | .list items => items
  | .map fields => fields.map (·.2)
  | _ => []

mutual

/-- The lists and maps inside a value, itself included, each before those inside it. -/
def containers : Json → List Json
  | .list items => .list items :: containersOfItems items
  | .map fields => .map fields :: containersOfFields fields
  | _ => []

def containersOfItems : List Json → List Json
  | [] => []
  | v :: rest => containers v ++ containersOfItems rest

def containersOfFields : List (String × Json) → List Json
  | [] => []
  | (_, v) :: rest => containers v ++ containersOfFields rest

end

/-- The item at a place; negative places count from the end. -/
def item (i : Int) (items : List Json) : Option Json :=
  let place := if i < 0 then i + items.length else i
  if place < 0 then none else items[place.toNat]?

/-- The place that a bound of a slice names. -/
def place (length : Nat) (bound : Int) : Int := if bound < 0 then bound + length else bound

/-- The places of a slice, in the order of its steps. -/
def slicePlaces (length : Nat) (start stop step : Option Int) : List Nat :=
  let step := step.getD 1
  if 0 < step then
    let first := min (max (place length (start.getD 0)) 0) length
    let last := min (max (place length (stop.getD length)) 0) length
    (List.range length).filter fun i => first ≤ i ∧ i < last ∧ (i - first) % step = 0
  else if step < 0 then
    let first := min (max (place length (start.getD (length - 1))) (-1)) (length - 1)
    let last := min (max (place length (stop.getD (-length - 1))) (-1)) (length - 1)
    (List.range length).reverse.filter fun i => last < i ∧ i ≤ first ∧ (first - i) % (-step) = 0
  else []

/-- What an operand of a condition stands for. -/
inductive Found where
  | absent
  | value (v : Json)
  | nodes (vs : List Json)

/-- The value that is compared, if there is one. -/
def Found.value? : Found → Option Json
  | .value v => some v
  | _ => none

def Found.toList : Found → List Json
  | .absent => []
  | .value v => [v]
  | .nodes vs => vs

/-- What the segments of a query have found; a query that leads to one place gives the value
there. -/
def Found.ofNodes (segments : List Segment) (vs : List Json) : Found :=
  match vs with
  | [] => .absent
  | [v] => if segments.all Segment.isSingular then .value v else .nodes [v]
  | vs => .nodes vs

def number? : Json → Option Float
  | .number n => some n.toFloat
  | _ => none

/-- Numbers closer than this are equal in conditions. -/
def epsilon : Float := Float.ofScientific 2220446049250313 true 31

/-- Equality in conditions. -/
def equal (l r : Json) : Bool :=
  match number? l, number? r with
  | some x, some y => (x - y).abs < epsilon
  | _, _ => l.same r

/-- Order in conditions: numbers and texts have one, everything else is not less. -/
def less (l r : Json) : Bool :=
  match l, r with
  | .number x, .number y => x.toFloat < y.toFloat
  | .string s, .string t => s < t
  | _, _ => false

/-- A relation between values that are there. -/
def both (p : Json → Json → Bool) : Option Json → Option Json → Bool
  | some l, some r => p l r
  | _, _ => false

/-- Equality of what may be absent. -/
def equal? : Option Json → Option Json → Bool
  | none, none => true
  | l, r => both equal l r

def Comparator.holds (op : Comparator) (l r : Option Json) : Bool :=
  match op with
  | .eq => equal? l r
  | .ne => ¬ equal? l r
  | .lt => both less l r
  | .le => both less l r || equal? l r
  | .gt => both less r l
  | .ge => both less r l || equal? l r

/-- The number of characters, items or fields. -/
def length? : Json → Option Nat
  | .string s => some s.length
  | .list items => some items.length
  | .map fields => some fields.length
  | _ => none

/-- The text of a pattern that has to match a whole text; a backslash may be doubled. -/
def anchored (cs : List Char) : List Char :=
  let cs := if cs.head? = some '^' then cs else '^' :: cs
  if cs.getLast? = some '$' then cs else cs ++ ['$']

/-- A text with single backslashes for doubled ones. -/
def singleBackslashes : List Char → List Char
  | '\\' :: '\\' :: rest => '\\' :: singleBackslashes rest
  | c :: rest => c :: singleBackslashes rest
  | [] => []

/-- Whether a text matches a pattern, as a whole or in part. -/
def matchesText (whole : Bool) (text pattern : Found) : Bool :=
  match text.value?, pattern.value? with
  | some (.string text), some (.string pattern) =>
    let cs := if whole then anchored pattern.toList else pattern.toList
    match Pattern.ofText? (String.ofList (singleBackslashes cs)) with
    | some p => p.isMatch text
    | none => false
  | _, _ => false

def isItem (items : List Json) (v : Json) : Bool := items.any (·.same v)

/-- A relation between the items of two lists. -/
def onLists (p : List Json → List Json → Bool) : List Json → Found
  | [.list ls, .list rs] => .value (.bool (p ls rs))
  | _ => .absent

/-- A relation between a value and the items of a list. -/
def onList (p : Json → List Json → Bool) : List Json → Found
  | [v, .list items] => .value (.bool (p v items))
  | _ => .absent

/-- What a function gives. -/
def Function.apply (f : Function) (args : List Found) : Found :=
  let values := args.flatMap Found.toList
  match f, args with
  | .length, [.value v] => match length? v with
    | some n => .value (.nat n)
    | none => .absent
  | .length, [.nodes vs] => .value (.nat vs.length)
  | .value, [.value v] => .value v
  | .value, [.nodes [v]] => .value v
  | .count, [found] => .value (.nat found.toList.length)
  | .isMatch, [text, pattern] => .value (.bool (matchesText true text pattern))
  | .search, [text, pattern] => .value (.bool (matchesText false text pattern))
  | .isIn, _ => onList (fun v items => isItem items v) values
  | .notIn, _ => onList (fun v items => ¬ isItem items v) values
  | .noneOf, _ => onLists (fun ls rs => ls.all fun l => ¬ isItem rs l) values
  | .anyOf, _ => onLists (fun ls rs => ls.any (isItem rs)) values
  | .subsetOf, _ => onLists (fun ls rs => ls.all (isItem rs)) values
  | _, _ => .absent

/-- Whether a test holds: a function that answers a question answers it, anything else has to be
there. -/
def Operand.holds (what : Operand) (found : Found) : Bool :=
  match what, found with
  | .call f _, .value (.bool b) => f.isComparable || b
  | _, .absent => false
  | _, _ => true

mutual

/-- What a selector takes of a value. -/
def Selector.select (root : Json) : Selector → Json → List Json
  | .name key, .map fields => (Fields.get? key fields).toList
  | .wildcard, v => children v
  | .index i, .list items => (item i items).toList
  | .slice start stop step, .list items =>
    (slicePlaces items.length start stop step).filterMap (items[·]?)
  | .filter c, v => (children v).filter fun child => c.holds root child
  | _, _ => []

/-- What selectors take of values: all that the first one takes, then what the others take. -/
def selectAll (root : Json) : List Selector → List Json → List Json
  | [], _ => []
  | s :: rest, vs => vs.flatMap (fun v => s.select root v) ++ selectAll root rest vs

def follow (root : Json) : List Segment → List Json → List Json
  | [], vs => vs
  | .step deep selectors :: rest, vs =>
    follow root rest (selectAll root selectors (if deep then vs.flatMap containers else vs))

def Condition.holds (root : Json) : Condition → Json → Bool
  | .any parts, v => anyHolds root parts v
  | .all parts, v => allHold root parts v
  | .not part, v => ¬ part.holds root v
  | .compare op l r, v => op.holds (l.find root v).value? (r.find root v).value?
  | .test what, v => what.holds (what.find root v)

def anyHolds (root : Json) : List Condition → Json → Bool
  | [], _ => false
  | c :: rest, v => c.holds root v || anyHolds root rest v

def allHold (root : Json) : List Condition → Json → Bool
  | [], _ => true
  | c :: rest, v => c.holds root v && allHold root rest v

def Operand.find (root : Json) : Operand → Json → Found
  | .constant c, _ => .value c
  | .found fromRoot segments, v =>
    .ofNodes segments (follow root segments [if fromRoot then root else v])
  | .call f args, v => f.apply (findAll root args v)
  | .truth c, v => .value (.bool (c.holds root v))

def findAll (root : Json) : List Operand → Json → List Found
  | [], _ => []
  | o :: rest, v => o.find root v :: findAll root rest v

end

def find (segments : List Segment) (root : Json) : List Json := follow root segments [root]

/-- Whether the text of a query names a single place: outside quotes it has no wildcard, filter,
slice or list, and no two dots in a row. -/
def isDefinite (quote : Option Char) (previous : Char) : List Char → Bool
  | [] => true
  | c :: rest =>
    match quote with
    | some q => isDefinite (if c = q ∧ previous ≠ '\\' then none else some q) c rest
    | none =>
      if c = '\'' ∨ c = '"' then isDefinite (some c) c rest
      else if c = '*' ∨ c = '?' ∨ c = ':' ∨ c = ',' then false
      else if c = '.' ∧ previous = '.' then false
      else isDefinite none c rest

/-- The value at the place that a definite query names, or the list of all that another query
finds. -/
def run (text : String) (root : Json) : Except Flaw Json :=
  match ofText? text with
  | none => .error .malformed
  | some segments =>
    let found := find segments root
    if isDefinite none '\x00' text.toList then
      match found with
      | [] => .error .noMatch
      | [v] => .ok v
      | vs => .ok (.list vs)
    else .ok (.list found)

end Sluice.Query

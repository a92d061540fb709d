import Sluice.Json.Basic

/-!
# Queries

A query starts at a value and follows segments.  A segment takes the children that its selectors
name, either of the values reached so far or of everything inside them.  A filter keeps the children
for which a condition holds.
-/

namespace Sluice.Query

/-- How two values are compared. -/
inductive Comparator where
  | eq | ne | lt | le | gt | ge
deriving DecidableEq, Repr

/-- The functions of conditions. -/
inductive Function where
  | length | value | count
  | isMatch | search
  | isIn | notIn | noneOf | anyOf | subsetOf
deriving DecidableEq, Repr

mutual

/-- What is taken of a value: a field, an item (from the end if negative), some items, all children,
or those with a property. -/
inductive Selector where
  | name (key : String)
  | wildcard
  | index (i : Int)
  | slice (start stop step : Option Int)
  | filter (condition : Condition)

/-- A step of a query; `deep` steps start at every list and map inside what was reached before. -/
inductive Segment where
  | step (deep : Bool) (selectors : List Selector)

inductive Condition where
  | any (parts : List Condition)
  | all (parts : List Condition)
  | not (part : Condition)
  | compare (op : Comparator) (left right : Operand)
  | test (what : Operand)

/-- What a condition speaks of: a constant, what a query finds from the value itself or from the
root, the result of a function, or whether a condition holds. -/
inductive Operand where
  | constant (value : Json)
  | found (fromRoot : Bool) (segments : List Segment)
  | call (function : Function) (args : List Operand)
  | truth (condition : Condition)

end

def Selector.isSingular : Selector → Bool
  | .name _ => true
  | .index _ => true
  | _ => false

/-- Whether a segment leads from one value to at most one. -/
def Segment.isSingular : Segment → Bool
  | .step false [s] => s.isSingular
  | .step _ _ => false

/-- Why a query has no result. -/
inductive Flaw where
  | malformed | noMatch
deriving DecidableEq, Repr

end Sluice.Query

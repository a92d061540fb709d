import Sluice.Expr.Error
import Sluice.Decimal.Remainder

/-!
# Operations on values

Integers are compared and combined as integers as long as operands and result fit 63 bits and a
sign; otherwise both operands are taken as floats.  A division that leaves a remainder gives a
float.
-/

namespace Sluice

/-- The boolean that `when`, `result`, `!`, `&&`, `||` and `?:` ask for; `what` names the value. -/
def Json.expectBool (what : String) (v : Json) : Except EvalError Bool :=
  match v with
  | .bool b => .ok b
  | v => .error (.mismatch (.notBoolean what v.kind))

/-- Equality: numbers by value (`1` equals `1.0`), all else by structure. -/
def Json.equals (left right : Json) : Bool :=
  match left, right with
  | .number l, .number r => match l.toSigned?, r.toSigned? with
    | some i, some j => i = j
    | _, _ => l.toFloat == r.toFloat
  | _, _ => left.same right

/-- The order of two finite floats; `0.0` and `-0.0` are equal. -/
def floatOrdering (x y : Float) : Ordering := if x < y then .lt else if x == y then .eq else .gt

def Number.ordering (l r : Number) : Ordering :=
  match l.toSigned?, r.toSigned? with
  | some i, some j => compare i j
  | _, _ => floatOrdering l.toFloat r.toFloat

/-- The order of two numbers, or of two texts by their code points. -/
def Json.ordering (left right : Json) : Except EvalError Ordering :=
  match left, right with
  | .number l, .number r => .ok (l.ordering r)
  | .string l, .string r => .ok (compareOfLessAndEq l r)
  | l, r => .error (.mismatch (.incomparable l.kind r.kind))

/-- Integers of 63 bits and a sign. -/
def isSigned (i : Int) : Bool := -9223372036854775808 ≤ i ∧ i < 9223372036854775808

/-- What an operator gives on two integers before its range is checked; `none` if that is no
integer. -/
def exactResult (op : BinaryOp) (a b : Int) : Option Int :=
  match op with
  | .add => some (a + b)
  | .sub => some (a - b)
  | .mul => some (a * b)
  | .div => if Int.tmod a b = 0 then some (Int.tdiv a b) else none
  | .mod => some (Int.tmod a b)
  | _ => none

/-- Whether the quotient of two integers leaves the range, in which case neither it nor the
remainder is computed as an integer. -/
def quotientOverflows (a b : Int) : Bool := a = -9223372036854775808 ∧ b = -1

/-- The integer that an operator gives on two integers, if it is one and in range. -/
def exactInteger? (op : BinaryOp) (a b : Int) : Option Int :=
  if (op = .div ∨ op = .mod) ∧ quotientOverflows a b then none
  else (exactResult op a b).filter isSigned

/-- What an operator gives on two floats. -/
def floatResult (op : BinaryOp) (x y : Float) : Except EvalError Float :=
  match op with
  | .add => .ok (x + y)
  | .sub => .ok (x - y)
  | .mul => .ok (x * y)
  | .div => if y == 0.0 then .error .divisionByZero else .ok (x / y)
  | .mod => if y == 0.0 then .error .divisionByZero else .ok (Decimal.remainder x y)
  | op => .error (.mismatch (.notArithmetic op))

/-- An operator on numbers taken as floats. -/
def onFloats (op : BinaryOp) (l r : Number) : Except EvalError Json :=
  match floatResult op l.toFloat r.toFloat with
  | .error e => .error e
  | .ok x => match Number.ofFloat? x with
    | some n => .ok (.number n)
    | none => .error (.mismatch .notFinite)

def onNumbers (op : BinaryOp) (l r : Number) : Except EvalError Json :=
  match l.toSigned?, r.toSigned? with
  | some a, some b =>
    if (op = .div ∨ op = .mod) ∧ b = 0 then .error .divisionByZero
    else match (exactInteger? op a b).bind Number.ofInt? with
      | some n => .ok (.number n)
      | none => onFloats op l r
  | _, _ => onFloats op l r

/-- `+ - * / %`: numbers are combined, lists appended; a text is appended to whatever stands on its
other side. -/
def Json.arithmetic (op : BinaryOp) (left right : Json) : Except EvalError Json :=
  match op, left, right with
  | .add, .string l, r => .ok (.string (l ++ r.display))
  | .add, l, .string r => .ok (.string (l.display ++ r))
  | .add, .list l, .list r => .ok (.list (l ++ r))
  | op, .number l, .number r => onNumbers op l r
  | op, l, r => .error (.mismatch (.inapplicable op l.kind r.kind))

def isInfix (part : List Char) : List Char → Bool
  | [] => part.isEmpty
  | c :: cs => part.isPrefixOf (c :: cs) || isInfix part cs

/-- `needle in haystack`: an item of a list, a key of a map, or a part of a text. -/
def Json.contains (needle haystack : Json) : Except EvalError Bool :=
  match needle, haystack with
  | n, .list items => .ok (items.any n.equals)
  | .string key, .map fields => .ok (Fields.has key fields)
  | .string part, .string whole => .ok (isInfix part.toList whole.toList)
  | n, h => .error (.mismatch (.notContainer n.kind h.kind))

end Sluice

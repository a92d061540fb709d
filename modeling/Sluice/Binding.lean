import Sluice.Context

/-!
# Binding values

Binding replaces every text inside a configuration value by what it evaluates to.  Maps keep their
keys and lists their order; the first text without a value, in document order, fails the whole.
-/

namespace Sluice.Binding

mutual

/-- A configuration value with its texts evaluated. -/
def value (view : View) : Json → Except EvalError Json
  | .string s => Expr.evaluate view s
  | .list items => do return .list (← values view items)
  | .map entries => do return .map (← fields view entries)
  | .null => .ok .null
  | .bool b => .ok (.bool b)
  | .number n => .ok (.number n)

def values (view : View) : List Json → Except EvalError (List Json)
  | [] => .ok []
  | raw :: rest => do
    let v ← value view raw
    return v :: (← values view rest)

def fields (view : View) : List (String × Json) → Except EvalError (List (String × Json))
  | [] => .ok []
  | (key, raw) :: rest => do
    let v ← value view raw
    return (key, v) :: (← fields view rest)

end

end Sluice.Binding

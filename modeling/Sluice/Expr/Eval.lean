import Sluice.Expr.Function
import Sluice.Expr.Operation
import Sluice.Expr.Parser
import Sluice.Pattern.Parser

/-!
# Evaluating expressions

An expression sees a `View`: the request, the variables and the registered results, under the names
`In`, `V` and `R`.  Its queries look into all three, or, right of a `|`, into the value left of it.
-/

namespace Sluice

/-- What expressions see. -/
structure View where
  input : Json
  assigned : Json
  registered : Json

namespace View

/-- The value that an identifier names. -/
def find (view : View) (name : String) : Except EvalError Json :=
  if name = "In" then .ok view.input
  else if name = "V" then .ok view.assigned
  else if name = "R" then .ok view.registered
  else .error (.unknownIdentifier name)

def whole (view : View) : Json :=
  .map [("In", view.input), ("V", view.assigned), ("R", view.registered)]

end View

namespace Expr

/-- An access path as diagnostics show it. -/
def render : Expr → String
  | .ident name => name
  | .query path => path
  | .field base name => base.render ++ "." ++ name
  | .index base (.literal (.string key)) => base.render ++ "[" ++ Text.quote key ++ "]"
  | .index base (.literal value) => base.render ++ "[" ++ value.text ++ "]"
  | .index base _ => base.render ++ "[...]"
  | .call name _ => name ++ "(...)"
  | _ => "(...)"

/-- The field of a value; `base` is the expression that the value came from. -/
def fieldOf (base : Expr) (name : String) (v : Json) : Except EvalError Json :=
  match v with
  | .map fields => match Fields.get? name fields with
    | some found => .ok found
    | none => .error (.pathNotFound (render (.field base name)))
  | other => .error (.mismatch (.fieldOf name base.render other.kind))

/-- The item of a list at an index. -/
def itemOf (items : List Json) (n : Number) : Except EvalError Json :=
  match n.toSigned? with
  | none => .error (.mismatch .fractionalIndex)
  | some i =>
    match if i < 0 then none else items[i.toNat]? with
    | some v => .ok v
    | none => .error (.indexOutOfBounds i items.length)

/-- The item or field of a value under a key; `path` is the whole access. -/
def elementOf (path : Expr) (v key : Json) : Except EvalError Json :=
  match v, key with
  | .list items, .number n => itemOf items n
  | .map fields, .string name => match Fields.get? name fields with
    | some found => .ok found
    | none => .error (.pathNotFound path.render)
  | .list _, other => .error (.mismatch (.wrongKey .list other.kind))
  | .map _, other => .error (.mismatch (.wrongKey .map other.kind))
  | other, _ => .error (.mismatch (.notIndexable other.kind))

def matchesPattern (text pattern : Json) : Except EvalError Bool :=
  match text, pattern with
  | .string text, .string pattern => match Pattern.ofText? pattern with
    | some p => .ok (p.isMatch text)
    | none => .error (.mismatch (.badPattern pattern))
  | text, pattern => .error (.mismatch (.notMatchable text.kind pattern.kind))

def zero : Json := .nat 0

def applyUnary (op : UnaryOp) (v : Json) : Except EvalError Json :=
  match op with
  | .not => do return .bool (!(← v.expectBool "operand of '!'"))
  | .neg => Json.arithmetic .sub zero v

/-- An operator between two values; `&&`, `||` and `??` do not come here. -/
def applyBinary (op : BinaryOp) (l r : Json) : Except EvalError Json :=
  match op with
  | .eq => .ok (.bool (l.equals r))
  | .ne => .ok (.bool (!l.equals r))
  | .lt => do return .bool ((← l.ordering r) = .lt)
  | .le => do return .bool ((← l.ordering r) ≠ .gt)
  | .gt => do return .bool ((← l.ordering r) = .gt)
  | .ge => do return .bool ((← l.ordering r) ≠ .lt)
  | .isIn => do return .bool (← l.contains r)
  | .matches => do return .bool (← matchesPattern l r)
  | op => Json.arithmetic op l r

/-- What a query finds: in the subject if there is one, otherwise in everything that is seen. -/
def evalQuery (view : View) (subject : Option Json) (path : String) : Except EvalError Json :=
  Function.query path (subject.getD view.whole)

mutual

/-- The value of an expression.  `subject` is the value left of the nearest `|`. -/
def eval (view : View) (subject : Option Json) : Expr → Except EvalError Json
  | .literal v => .ok v
  | .ident name => view.find name
  | .query path => evalQuery view subject path
  | .list items => do return .list (← evalItems view subject items)
  | .map entries => do return .map (Fields.ofList (← evalEntries view subject entries))
  | .field base name => do fieldOf base name (← eval view subject base)
  | .index base key => do
    let v ← eval view subject base
    elementOf (.index base key) v (← eval view subject key)
  | .call name args => do Function.call name (← evalItems view subject args)
  | .unary op operand => do applyUnary op (← eval view subject operand)
  | .binary .and left right => do
    if ← (← eval view subject left).expectBool "operand of '&&'" then
      return .bool (← (← eval view subject right).expectBool "operand of '&&'")
    else return .bool false
  | .binary .or left right => do
    if ← (← eval view subject left).expectBool "operand of '||'" then return .bool true
    else return .bool (← (← eval view subject right).expectBool "operand of '||'")
  | .binary .coalesce left right =>
    match eval view subject left with
    | .ok .null => eval view subject right
    | .ok v => .ok v
    | .error e => if e.isAbsence then eval view subject right else .error e
  | .binary op left right => do
    let l ← eval view subject left
    applyBinary op l (← eval view subject right)
  | .ternary condition yes no => do
    if ← (← eval view subject condition).expectBool "condition of '?:'" then eval view subject yes
    else eval view subject no
  | .pipe left right => do
    let v ← eval view subject left
    eval view (some v) right

def evalItems (view : View) (subject : Option Json) : List Expr → Except EvalError (List Json)
  | [] => .ok []
  | e :: rest => do
    let v ← eval view subject e
    return v :: (← evalItems view subject rest)

def evalEntries (view : View) (subject : Option Json) :
    List (String × Expr) → Except EvalError (List (String × Json))
  | [] => .ok []
  | (key, e) :: rest => do
    let v ← eval view subject e
    return (key, v) :: (← evalEntries view subject rest)

end

/-- The value of a text: what stands behind a leading `=` is an expression, any other text stands
for itself. -/
def evaluate (view : View) (raw : String) : Except EvalError Json :=
  match raw.toList with
  | '=' :: source => match parse (String.ofList source) with
    | .error e => .error (.malformed e)
    | .ok e => e.eval view none
  | _ => .ok (.string raw)

end Expr

end Sluice

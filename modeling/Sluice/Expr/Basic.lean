import Sluice.Json.Basic

/-!
# Expressions

The trees of the expression language: literals, the roots `In`, `V` and `R`, JSONPath queries, field
and index access, calls of built-in functions, operators, and `left | right`, where the queries of
`right` look into the value of `left`.
-/

namespace Sluice

/-- The operators between two operands. -/
inductive BinaryOp where
  | add | sub | mul | div | mod
  | eq | ne | lt | le | gt | ge
  | and | or | coalesce | matches | isIn
deriving DecidableEq, Repr

def BinaryOp.symbol : BinaryOp → String
  | .add => "+" | .sub => "-" | .mul => "*" | .div => "/" | .mod => "%"
  | .eq => "==" | .ne => "!=" | .lt => "<" | .le => "<=" | .gt => ">" | .ge => ">="
  | .and => "&&" | .or => "||" | .coalesce => "??" | .matches => "=~" | .isIn => "in"

/-- The operators before one operand. -/
inductive UnaryOp where
  | not | neg
deriving DecidableEq, Repr

/-- An expression. -/
inductive Expr where
  | literal (value : Json)
  | ident (name : String)
  | query (path : String)
  | list (items : List Expr)
  | map (entries : List (String × Expr))
  | field (base : Expr) (name : String)
  | index (base : Expr) (key : Expr)
  | call (name : String) (args : List Expr)
  | unary (op : UnaryOp) (operand : Expr)
  | binary (op : BinaryOp) (left right : Expr)
  | ternary (condition yes no : Expr)
  | pipe (left right : Expr)

instance : Inhabited Expr := ⟨.literal .null⟩

end Sluice

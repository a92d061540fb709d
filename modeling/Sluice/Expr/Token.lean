import Sluice.Json.Printer
import Sluice.Text.Quoted

/-!
# Tokens of the expression language
-/

namespace Sluice

/-- A token. -/
inductive Token where
  | number (n : Number) | str (s : String) | ident (name : String) | query (path : String)
  | leftParen | rightParen | leftBracket | rightBracket | leftBrace | rightBrace
  | comma | colon | dot | question | coalesce
  | plus | minus | star | slash | percent
  | eqEq | notEq | lt | le | gt | ge
  | andAnd | orOr | not | pipe | matches
  | eof
deriving DecidableEq

/-- A token and the offset of its first byte. -/
structure Located where
  token : Token
  offset : Nat
deriving DecidableEq

namespace Token

def kindName : Token → String
  | .number _ => "Number" | .str _ => "Str" | .ident _ => "Ident" | .query _ => "JsonPath"
  | .leftParen => "LParen" | .rightParen => "RParen" | .leftBracket => "LBracket"
  | .rightBracket => "RBracket" | .leftBrace => "LBrace" | .rightBrace => "RBrace"
  | .comma => "Comma" | .colon => "Colon" | .dot => "Dot" | .question => "Question"
  | .coalesce => "Coalesce" | .plus => "Plus" | .minus => "Minus" | .star => "Star"
  | .slash => "Slash" | .percent => "Percent" | .eqEq => "EqEq" | .notEq => "NotEq"
  | .lt => "Lt" | .le => "Le" | .gt => "Gt" | .ge => "Ge" | .andAnd => "AndAnd" | .orOr => "OrOr"
  | .not => "Not" | .pipe => "Pipe" | .matches => "Matches" | .eof => "Eof"

/-- A token as diagnostics name it. -/
def describe (t : Token) : String :=
  match t with
  | .number n => t.kindName ++ "(Number(" ++ n.text ++ "))"
  | .str s => t.kindName ++ "(" ++ Text.quote s ++ ")"
  | .ident s => t.kindName ++ "(" ++ Text.quote s ++ ")"
  | .query s => t.kindName ++ "(" ++ Text.quote s ++ ")"
  | _ => t.kindName

end Token

end Sluice

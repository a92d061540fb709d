import Sluice.Expr.Basic
import Sluice.Expr.Token
import Sluice.Json.Reader
import Sluice.Query.Basic

/-!
# Why an expression has no value

The causes, and their wording.  What a pattern or a query language has to say about a text that it
refuses is not part of a message: `elided` stands for it, and nothing follows it.
-/

namespace Sluice

/-- Stands for the details of a refusal. -/
def elided : String := "<...>"

/-- Why a text is no expression. -/
inductive SyntaxFlaw where
  | unexpectedChar (c : Char) | badNumber (text : String) | badString (reason : Json.Refusal)
  | unterminatedString | unterminatedBracket
  | unexpectedEnd | unexpected (found : Token) | expected (wanted found : Token)

def SyntaxFlaw.message : SyntaxFlaw → String
  | .unexpectedChar c => "unexpected character '" ++ c.toString ++ "'"
  | .badNumber text => "invalid number '" ++ text ++ "'"
  | .badString reason => "invalid string: " ++ reason.message
  | .unterminatedString => "unterminated string"
  | .unterminatedBracket => "unterminated JSONPath bracket"
  | .unexpectedEnd => "unexpected end of expression"
  | .unexpected found => "unexpected " ++ found.describe
  | .expected wanted found => "expected " ++ wanted.describe ++ ", found " ++ found.describe

/-- A flaw and the offset of the byte where it shows. -/
structure SyntaxError where
  offset : Nat
  flaw : SyntaxFlaw

/-- Why values do not fit an operation. -/
inductive Mismatch where
  | notBoolean (what : String) (actual : Json.Kind)
  | incomparable (left right : Json.Kind)
  | inapplicable (op : BinaryOp) (left right : Json.Kind)
  | notArithmetic (op : BinaryOp)
  | notFinite
  | notContainer (needle haystack : Json.Kind)
  | notMatchable (text pattern : Json.Kind)
  | badPattern (pattern : String)
  | fieldOf (name path : String) (actual : Json.Kind)
  | fractionalIndex
  | wrongKey (container key : Json.Kind)
  | notIndexable (actual : Json.Kind)

def expectedGot (expected actual : String) : String :=
  " (expected " ++ expected ++ ", got " ++ actual ++ ")"

/-- The wording of a mismatch. -/
def Mismatch.message : Mismatch → String
  | .notBoolean what actual => what ++ " must be boolean" ++ expectedGot "boolean" actual.name
  | .incomparable left right =>
    "Cannot compare values of different types" ++ expectedGot left.name right.name
  | .inapplicable op left right =>
    "Cannot apply '" ++ op.symbol ++ "' to " ++ left.name ++ " and " ++ right.name ++
      expectedGot "number" (if left = .number then right.name else left.name)
  | .notArithmetic op => "'" ++ op.symbol ++ "' is not an arithmetic operator"
  | .notFinite => "Arithmetic result is not a finite number"
  | .notContainer needle haystack =>
    "Cannot look for " ++ needle.name ++ " in " ++ haystack.name ++ expectedGot "list" haystack.name
  | .notMatchable text pattern =>
    "'=~' needs a string and a pattern" ++
      expectedGot "string" (text.name ++ " and " ++ pattern.name)
  | .badPattern pattern => "Invalid pattern '" ++ pattern ++ "': " ++ elided
  | .fieldOf name path actual =>
    "Cannot access field '" ++ name ++ "' of " ++ path ++ expectedGot "map" actual.name
  | .fractionalIndex => "List index must be an integer" ++ expectedGot "integer" "float"
  | .wrongKey container key =>
    "Invalid index type" ++ expectedGot (if container = .list then "integer" else "string") key.name
  | .notIndexable actual =>
    "Cannot index into " ++ actual.name ++ expectedGot "list or map" actual.name

/-- Why a built-in function rejects its arguments. -/
inductive Misuse where
  | arity (expected actual : Nat)
  | argument (expected : String) (place : Nat) (actual : Json.Kind)
  | notText (element : Json)
  | notJson (reason : Json.Refusal)
  | noJson (actual : Json.Kind)
  | noTemplate | templateNotText
  | notList (actual : Json.Kind)

def Misuse.message : Misuse → String
  | .arity expected actual =>
    "expects exactly " ++ toString expected ++ " argument" ++ (if expected = 1 then "" else "s") ++
      ", got " ++ toString actual
  | .argument expected place actual =>
    "expects " ++ expected ++ " as argument " ++ toString place ++ ", got " ++ actual.name
  | .notText element => "element is not string: " ++ element.text
  | .notJson reason => "cannot convert to json: " ++ reason.message
  | .noJson actual => "cannot convert " ++ actual.name ++ " to json"
  | .noTemplate => "expects at least one argument"
  | .templateNotText => "expects string as first argument"
  | .notList actual => "expects list as argument, got " ++ actual.name

/-- Why an expression has no value. -/
inductive EvalError where
  | malformed (error : SyntaxError)
  | unknownIdentifier (name : String)
  | pathNotFound (path : String)
  | mismatch (cause : Mismatch)
  | divisionByZero
  | indexOutOfBounds (index : Int) (length : Nat)
  | unknownFunction (name : String)
  | misuse (function : String) (cause : Misuse)
  | query (path : String) (cause : Query.Flaw)

namespace EvalError

def message : EvalError → String
  | .malformed e => "Syntax error at offset " ++ toString e.offset ++ ": " ++ e.flaw.message
  | .unknownIdentifier name => "Unknown identifier: " ++ name
  | .pathNotFound path => "Path not found: " ++ path
  | .mismatch cause => "Type error: " ++ cause.message
  | .divisionByZero => "Division by zero"
  | .indexOutOfBounds index length =>
    "Index out of bounds: " ++ toString index ++ " (length: " ++ toString length ++ ")"
  | .unknownFunction name => "Unknown function: " ++ name ++ "()"
  | .misuse function cause => function ++ "(): " ++ cause.message
  | .query path cause =>
    "JSONPath '" ++ path ++ "': " ++ match cause with
      | .malformed => elided
      | .noMatch => "no match"

/-- Whether the error only says that something is absent. -/
def isAbsence : EvalError → Bool
  | .unknownIdentifier _ => true
  | .pathNotFound _ => true
  | _ => false

end EvalError

end Sluice

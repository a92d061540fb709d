import Sluice.Json.Basic
import Sluice.Decimal.Places

/-!
# Compact JSON text

`Json.print` writes a value without blanks.  Floats have the fewest digits that read back and never
look like integers: decimal exponents from -5 to 15 are written positionally, with `.0` if no digit
follows the point, all others as `d.ddde±x`.
-/

namespace Sluice

def Number.printFloat (x : Float) : List Char :=
  let s := Decimal.shortest x
  let mantissa := match s.digits with
    | [] => []
    | [d] => [d]
    | d :: ds => d :: '.' :: ds
  if -5 ≤ s.exponent ∧ s.exponent < 16 then
    let (whole, places) := s.positional
    Decimal.sign x ++ whole ++ '.' :: (if places.isEmpty then ['0'] else places)
  else
    Decimal.sign x ++ mantissa ++ 'e' :: (if s.exponent < 0 then '-' else '+')
      :: Decimal.digits s.exponent.natAbs

def Number.printInt (i : Int) : List Char :=
  if i < 0 then '-' :: Decimal.digits i.natAbs else Decimal.digits i.natAbs

def Number.print : Number → List Char
  | .int i _ => printInt i
  | .float x _ => printFloat x

namespace Json

def hexDigit (n : Nat) : Char := Nat.digitChar (n % 16)

/-- A character inside a quoted text: quotes, backslashes and control characters are escaped, the
usual ones by a letter and the others by four hexadecimal digits. -/
def escape (c : Char) : List Char :=
  if c = '"' then ['\\', '"']
  else if c = '\\' then ['\\', '\\']
  else if c = '\n' then ['\\', 'n']
  else if c = '\r' then ['\\', 'r']
  else if c = '\t' then ['\\', 't']
  else if c = '\x08' then ['\\', 'b']
  else if c = '\x0c' then ['\\', 'f']
  else if c.toNat < 32 then ['\\', 'u', '0', '0', hexDigit (c.toNat / 16), hexDigit c.toNat]
  else [c]

def escaped : List Char → List Char
  | [] => []
  | c :: cs => escape c ++ escaped cs

def quoted (cs : List Char) : List Char := '"' :: escaped cs ++ ['"']

mutual

/-- The compact text of a value. -/
def print : Json → List Char
  | .null => ['n', 'u', 'l', 'l']
  | .bool true => ['t', 'r', 'u', 'e']
  | .bool false => ['f', 'a', 'l', 's', 'e']
  | .number n => n.print
  | .string s => quoted s.toList
  | .list items => '[' :: printItems items ++ [']']
  | .map fields => '\x7b' :: printFields fields ++ ['\x7d']

def printItems : List Json → List Char
  | [] => []
  | [v] => print v
  | v :: w :: rest => print v ++ ',' :: printItems (w :: rest)

def printFields : List (String × Json) → List Char
  | [] => []
  | [(key, v)] => quoted key.toList ++ ':' :: print v
  | (key, v) :: w :: rest => quoted key.toList ++ ':' :: print v ++ ',' :: printFields (w :: rest)

end

/-- The compact text of a value. -/
def text (v : Json) : String := String.ofList v.print

/-- A value inside a text: strings stand for themselves, all else as JSON. -/
def display : Json → String
  | .string s => s
  | v => v.text

end Json

def Number.text (n : Number) : String := String.ofList n.print

end Sluice

import Sluice.Text.Split
import Sluice.Text.Utf8

/-!
# Form encoding

The notation of query strings: pairs of a name and a value with `&` between them and `=` inside
them. A blank is written as `+`, and any byte may be written as `%` and two hexadecimal digits.
Reading never fails: a `%` that no two digits follow stands for itself.
-/

namespace Sluice.Form

open Sluice.Text

/-- The value of a hexadecimal digit, as a byte. -/
def digit? (b : UInt8) : Option UInt8 :=
  if 0x30 ≤ b ∧ b ≤ 0x39 then some (b - 0x30)
  else if 0x61 ≤ b ∧ b ≤ 0x66 then some (b - 0x61 + 10)
  else if 0x41 ≤ b ∧ b ≤ 0x46 then some (b - 0x41 + 10)
  else none

/-- Replaces each `%` with two hexadecimal digits behind it by the byte they spell. -/
def unescape : List UInt8 → List UInt8
  | [] => []
  | [a] => [a]
  | [a, b] => [a, b]
  | p :: a :: b :: rest =>
    if p = 0x25 then
      match digit? a, digit? b with
      | some high, some low => (high * 16 + low) :: unescape rest
      | _, _ => p :: unescape (a :: b :: rest)
    else p :: unescape (a :: b :: rest)

/-- The text that a part of a query string stands for. -/
def decode (cs : List Char) : String :=
  Text.decode (unescape (Text.encode (String.ofList (cs.map fun c => if c = '+' then ' ' else c))))

/-- A name and a value; without `=` the value is empty. -/
def pair (cs : List Char) : String × String :=
  match splitOnce? '=' cs with
  | some (name, value) => (decode name, decode value)
  | none => (decode cs, "")

def read (query : String) : List (String × String) :=
  ((splitAt '&' query.toList).filter fun cs => ¬ cs.isEmpty).map pair

/-- Whether a byte stands for itself: letters, digits and `*-._`. -/
def isPlain (b : UInt8) : Bool :=
  0x30 ≤ b ∧ b ≤ 0x39 ∨ 0x61 ≤ b ∧ b ≤ 0x7a ∨ 0x41 ≤ b ∧ b ≤ 0x5a
    ∨ b = 0x2a ∨ b = 0x2d ∨ b = 0x2e ∨ b = 0x5f

def escape (b : UInt8) : List Char :=
  if isPlain b then [Char.ofNat b.toNat]
  else if b = 0x20 then ['+']
  else '%' :: (hexByte b).map Char.toUpper

/-- How a name or a value is written. -/
def encode (s : String) : List Char := (Text.encode s).flatMap escape

def writePair (entry : String × String) : List Char := encode entry.1 ++ '=' :: encode entry.2

/-- Pairs as a query string. -/
def write : List (String × String) → List Char
  | [] => []
  | [entry] => writePair entry
  | entry :: next :: rest => writePair entry ++ '&' :: write (next :: rest)

end Sluice.Form

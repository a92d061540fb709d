import Sluice.Text.Case
import Sluice.Text.Split

/-!
# Domains in ASCII

A label with characters outside ASCII is written as `xn--`, its ASCII characters, a hyphen, and a
run of numbers that tells which other characters stand where.  The characters come in the order of
their code points; each number counts the places and code points that are skipped before the next
one.  The numbers have digits of 36 values, and thresholds that follow the size of the numbers so
far tell where one ends.
-/

namespace Sluice.Url

/-- The digit of a value below 36: letters, then digits. -/
def punyDigit (n : Nat) : Char :=
  if n < 26 then Char.ofNat ('a'.toNat + n) else Char.ofNat ('0'.toNat + (n - 26))

/-- The threshold of the digit at `place`, counted in steps of 36 from 36 on. -/
def threshold (bias place : Nat) : Nat :=
  if place ≤ bias + 1 then 1 else if bias + 26 ≤ place then 26 else place - bias

theorem one_le_threshold (bias place : Nat) : 1 ≤ threshold bias place := by
  unfold threshold
  split <;> (try split) <;> omega

/-- The digits of a number from a place on. -/
def punyDigits (bias place n : Nat) : List Char :=
  let t := threshold bias place
  if h : n < t then [punyDigit n]
  else
    have : (n - t) / (36 - t) < n := by
      have h1 := one_le_threshold bias place
      exact Nat.lt_of_le_of_lt (Nat.div_le_self _ _) (by omega)
    punyDigit (t + (n - t) % (36 - t)) :: punyDigits bias (place + 36) ((n - t) / (36 - t))
termination_by n

/-- Brings a number down to the size at which it sets the bias; `steps` is what that has taken. -/
def settle (steps n : Nat) : Nat :=
  if 455 < n then settle (steps + 36) (n / 35) else steps + 36 * n / (n + 38)
termination_by n

/-- The bias behind a number that was written when `points` characters were there. -/
def adapt (first : Bool) (n points : Nat) : Nat :=
  let n := if first then n / 700 else n / 2
  settle 0 (n + n / points)

/-- A label that is being written: the next code point, the places skipped, the bias, how many
characters are there, and the digits so far. -/
structure Label where
  next : Nat
  skipped : Nat
  bias : Nat
  count : Nat
  first : Bool
  digits : List Char

/-- Comes to a character of the label while writing those with code point `code`. -/
def Label.visit (code : Nat) (l : Label) (c : Char) : Label :=
  if c.toNat < code then { l with skipped := l.skipped + 1 }
  else if c.toNat = code then
    { next := l.next
      skipped := 0
      bias := adapt l.first l.skipped (l.count + 1)
      count := l.count + 1
      first := false
      digits := l.digits ++ punyDigits l.bias 36 l.skipped }
  else l

def Label.write (cs : List Char) (l : Label) (code : Nat) : Label :=
  let start := { l with skipped := l.skipped + (code - l.next) * (l.count + 1) }
  let done := cs.foldl (Label.visit code) start
  { done with next := code + 1, skipped := done.skipped + 1 }

/-- The ASCII characters of a label and the digits that stand for the others. -/
def punycode (cs : List Char) : List Char :=
  let plain := cs.filter fun c => c.toNat < 128
  let codes := (((cs.map Char.toNat).filter (128 ≤ ·)).mergeSort).eraseDups
  let done := codes.foldl (Label.write cs) ⟨128, 0, 72, plain.length, true, []⟩
  (if plain.isEmpty then [] else plain ++ ['-']) ++ done.digits

/-- A label of a domain in ASCII. -/
def asciiLabel (cs : List Char) : List Char :=
  if cs.all fun c => c.toNat < 128 then cs else "xn--".toList ++ punycode cs

/-- A domain in lower case and in ASCII; the full stops of other scripts separate labels too. -/
def asciiDomain (cs : List Char) : List Char :=
  let isStop (c : Char) : Bool := c = '.' ∨ [0x3002, 0xFF0E, 0xFF61].contains c.toNat
  let labels := (Text.splitWhen isStop (cs.flatMap Text.lowerChar)).map asciiLabel
  ['.'].intercalate labels

end Sluice.Url

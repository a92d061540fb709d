import Sluice.Decimal.Exact
import Sluice.Decimal.Shortest

/-!
# Numerals with a given number of places

The exact value of a binary64 number, rounded once to the asked number of places; a half goes to the
even neighbour.  The sign bit is written even of zero.
-/

namespace Sluice.Decimal

def sign (x : Float) : List Char := if isNegative x then ['-'] else []

/-- `n / 10 ^ places` in positional notation with exactly that many places. -/
def pointed (n places : Nat) : List Char :=
  let ds := digits n
  let padded := List.replicate (places + 1 - ds.length) '0' ++ ds
  let whole := padded.take (padded.length - places)
  if places = 0 then whole else whole ++ '.' :: padded.drop (padded.length - places)

/-- Positional notation with exactly the given number of places. -/
def fixed (x : Float) (places : Nat) : List Char :=
  sign x ++ pointed ((fraction x).scale places).round places

/-- One digit, the given number of places, and the decimal exponent. -/
def scientific (x : Float) (places : Nat) : List Char × Int :=
  let f := fraction x
  if f.num = 0 then (sign x ++ pointed 0 places, 0)
  else
    let e := f.order
    let n := (f.scale (places - e)).round
    if n = Nat.pow 10 (places + 1) then (sign x ++ pointed (Nat.pow 10 places) places, e + 1)
    else (sign x ++ pointed n places, e)

/-- The fewest digits that read back, never with an exponent and with a point only where a digit
follows it. -/
def plain (x : Float) : List Char :=
  let (whole, places) := (shortest x).positional
  sign x ++ whole ++ if places.isEmpty then [] else '.' :: places

end Sluice.Decimal

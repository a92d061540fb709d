import Sluice.Decimal.Exact

/-!
# The fewest digits that read back

Every real number in an interval around a binary64 number `x` reads back as `x`.  `shortest` looks
for a point of that interval on the decimal grids of one digit, two digits, and so on; only the two
grid points next to `x` can be the nearest ones.  The first grid with a hit gives the digits, the
nearer point if both are hits and the even one if both are equally near.
-/

namespace Sluice.Decimal

/-- The digits `d₀d₁d₂…` with the exponent `e` stand for `d₀.d₁d₂… * 10 ^ e`. -/
structure Scientific where
  digits : List Char
  exponent : Int
deriving DecidableEq, Repr

/-- The numeral `n * 10 ^ e`, without the zeros at its end. -/
def Scientific.ofNat (n : Nat) (e : Int) : Scientific :=
  let ds := Decimal.digits n
  let kept := (ds.reverse.dropWhile (· = '0')).reverse
  ⟨if kept.isEmpty then ['0'] else kept, e + ds.length - 1⟩

/-- The reals that read back as a magnitude: from `low` to `high` quarters of its last place, the
ends included iff the mantissa is even. -/
structure Span where
  low : Nat
  high : Nat
  closed : Bool

def Magnitude.span (m : Magnitude) : Span :=
  ⟨4 * m.mantissa - (if m.narrow then 1 else 2), 4 * m.mantissa + 2, m.mantissa % 2 = 0⟩

/-- Whether `n` grid units lie in the span; `unit` is one grid unit in quarters of the last
place. -/
def Span.holds (s : Span) (unit : Fraction) (n : Nat) : Bool :=
  let x := n * unit.num
  let low := s.low * unit.den
  let high := s.high * unit.den
  if s.closed then low ≤ x ∧ x ≤ high else low < x ∧ x < high

/-- The point of the grid `10 ^ e` that reads back as the magnitude and is nearest to it. -/
def Magnitude.onGrid (m : Magnitude) (e : Int) : Option Nat :=
  let unit := (Fraction.dyadic 1 (2 - m.exponent)).scale e
  let quarters := 4 * m.mantissa
  let below := quarters * unit.den / unit.num
  match m.span.holds unit below, m.span.holds unit (below + 1) with
  | true, true =>
    let twice := 2 * quarters * unit.den
    let middle := (2 * below + 1) * unit.num
    some (if twice < middle ∨ (twice = middle ∧ below % 2 = 0) then below else below + 1)
  | true, false => some below
  | false, true => some (below + 1)
  | false, false => none

/-- The fewest digits that read back as the magnitude, nearest to it; seventeen always do. -/
def Magnitude.shortest (m : Magnitude) : Scientific :=
  if m.mantissa = 0 then ⟨['0'], 0⟩
  else
    let order := (Fraction.dyadic m.mantissa m.exponent).order
    let hit := (List.range 17).findSome? fun (n : Nat) =>
      let e := order - n
      (m.onGrid e).map (Scientific.ofNat · e)
    hit.getD ⟨['0'], 0⟩

/-- The fewest digits that read back as the magnitude of `x`. -/
def shortest (x : Float) : Scientific := (magnitude x).shortest

/-- The digits in positional notation: whole part and fractional part, which may be empty. -/
def Scientific.positional (s : Scientific) : List Char × List Char :=
  if s.exponent < 0 then (['0'], List.replicate (-s.exponent - 1).toNat '0' ++ s.digits)
  else
    let whole := s.exponent.toNat + 1
    (s.digits.take whole ++ List.replicate (whole - s.digits.length) '0', s.digits.drop whole)

end Sluice.Decimal

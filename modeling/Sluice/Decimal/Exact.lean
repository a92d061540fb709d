/-!
# Exact values of binary64 numbers, and rounding

A finite binary64 number is a sign and a fraction `num / den` of naturals.  Everything that prints
or reads such numbers goes through this fraction, so no step of it rounds unless it says so.
-/

namespace Sluice.Decimal

/-- A finite magnitude as `mantissa * 2 ^ exponent`; `narrow` marks the powers of two, below which
the neighbouring numbers lie twice as dense as above. -/
structure Magnitude where
  mantissa : Nat
  exponent : Int
  narrow : Bool
deriving DecidableEq, Repr

def isNegative (x : Float) : Bool := x.toBits.toNat / Nat.pow 2 63 = 1

def magnitude (x : Float) : Magnitude :=
  let bits := x.toBits.toNat
  let field : Nat := bits / Nat.pow 2 52 % Nat.pow 2 11
  let fraction : Nat := bits % Nat.pow 2 52
  if field = 0 then ⟨fraction, -1074, false⟩
  else ⟨fraction + Nat.pow 2 52, (field : Int) - 1075, fraction = 0 ∧ 1 < field⟩

/-- A fraction of naturals; the denominator is positive wherever one is built here. -/
structure Fraction where
  num : Nat
  den : Nat
deriving DecidableEq, Repr

def Fraction.dyadic (n : Nat) (e : Int) : Fraction := ⟨n * Nat.pow 2 e.toNat, Nat.pow 2 (-e).toNat⟩

def Fraction.scale (f : Fraction) (e : Int) : Fraction :=
  ⟨f.num * Nat.pow 10 e.toNat, f.den * Nat.pow 10 (-e).toNat⟩

/-- The exact magnitude of a finite number. -/
def fraction (x : Float) : Fraction :=
  let m := magnitude x
  .dyadic m.mantissa m.exponent

/-- The nearest natural; of two nearest ones the even one. -/
def Fraction.round (f : Fraction) : Nat :=
  let q := f.num / f.den
  let r := f.num % f.den
  if f.den < 2 * r ∨ (f.den = 2 * r ∧ q % 2 = 1) then q + 1 else q

/-- The decimal digits of a natural, most significant first; `0` has the digit `0`. -/
def digits (n : Nat) : List Char := Nat.toDigits 10 n

/-- How many decimal digits a natural needs; none for `0`. -/
def width (n : Nat) : Nat := if n = 0 then 0 else (digits n).length

/-- The `e` with `10 ^ e ≤ f < 10 ^ (e + 1)`, for a positive fraction. -/
def Fraction.order (f : Fraction) : Int :=
  if f.den ≤ f.num then (width (f.num / f.den) : Int) - 1
  else -(width ((f.den + f.num - 1) / f.num - 1) : Int)

/-- The rounding of the middle between two naturals goes to the even one. -/
theorem round_half (n : Nat) : (Fraction.mk (2 * n + 1) 2).round = if n % 2 = 1 then n + 1 else n :=
  by
  have hq : (2 * n + 1) / 2 = n := by omega
  have hr : (2 * n + 1) % 2 = 1 := by omega
  simp [Fraction.round, hq, hr]

end Sluice.Decimal

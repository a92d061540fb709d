import Sluice.Decimal.Exact

/-!
# The remainder of binary64 numbers

`remainder x y` is `x - n * y` for the integer `n` nearest to `x / y` towards zero.  It is always a
binary64 number, so nothing is rounded; it has the sign of `x`, even when it is zero.
-/

namespace Sluice.Decimal

/-- The number `2 ^ e`, for the exponents of binary64 numbers. -/
def powerOfTwo (e : Int) : Float :=
  if -1022 ≤ e then Float.ofBits (UInt64.ofNat ((e + 1023).toNat * Nat.pow 2 52))
  else Float.ofBits (UInt64.ofNat (Nat.pow 2 (e + 1074).toNat))

/-- The remainder of the division towards zero of finite numbers, the second not zero. -/
def remainder (x y : Float) : Float :=
  let a := magnitude x
  let b := magnitude y
  let e := min a.exponent b.exponent
  let n := a.mantissa * Nat.pow 2 (a.exponent - e).toNat
  let d := b.mantissa * Nat.pow 2 (b.exponent - e).toNat
  let size := Float.ofNat (n % d) * powerOfTwo e
  if isNegative x then -size else size

end Sluice.Decimal

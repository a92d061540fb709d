/-!
# Reading decimal numerals

`nearest` gives the binary64 number nearest to a decimal one.  `Numeral` is the form in which the
notations of this library spell numbers: digits, maybe a point and more digits, maybe an exponent.
-/

namespace Sluice.Decimal

/-- The binary64 number nearest to `n * 10 ^ e`; infinite where that is beyond the largest one. -/
def nearest (n : Nat) (e : Int) : Float :=
  let order := e + (Nat.toDigits 10 n).length
  if n = 0 ∨ order < -400 then 0.0
  else if 400 < order then 1.0 / 0.0
  else Float.ofScientific n (e < 0) e.natAbs

def value (ds : List Char) : Nat := ds.foldl (fun n d => 10 * n + (d.toNat - '0'.toNat)) 0

/-- A numeral in parts: `whole.places` times ten to the `exponent`. -/
structure Numeral where
  whole : List Char
  places : List Char
  exponent : Int
deriving DecidableEq, Repr

/-- The binary64 number nearest to a numeral. -/
def Numeral.toFloat (n : Numeral) : Float :=
  nearest (value (n.whole ++ n.places)) (n.exponent - n.places.length)

/-- An exponent: maybe a sign, then digits, and nothing after them. -/
def exponent? (cs : List Char) : Option Int :=
  let (negative, ds) := match cs with
    | '-' :: rest => (true, rest)
    | '+' :: rest => (false, rest)
    | _ => (false, cs)
  if ds.isEmpty ∨ ¬ ds.all Char.isDigit then none
  else some (if negative then -(value ds : Int) else value ds)

/-- Reads a whole text as an unsigned numeral: at least one digit before or after the point, and an
exponent only after them. -/
def Numeral.read? (cs : List Char) : Option Numeral :=
  let whole := cs.takeWhile Char.isDigit
  let rest := cs.dropWhile Char.isDigit
  let (places, rest) := match rest with
    | '.' :: r => (r.takeWhile Char.isDigit, r.dropWhile Char.isDigit)
    | _ => ([], rest)
  if whole.isEmpty ∧ places.isEmpty then none
  else match rest with
    | [] => some ⟨whole, places, 0⟩
    | c :: r => if c = 'e' ∨ c = 'E' then (exponent? r).map (⟨whole, places, ·⟩) else none

end Sluice.Decimal

import Mathlib
import Sluice.Decimal.Exact

/-!
# Integers as binary64 numbers

An integer of 64 bits that is made a float is rounded to the nearest number of 53 binary digits with
zeros behind them (`roundedInt`), and floats of this kind compare like the integers that they stand
for.

A rounding shifts the mantissa twice.  The first shift keeps what it drops in two bits
(`IsQuotient`), by which the mantissa is rounded; the second one is for a mantissa that is rounded
up to a power of two.  What comes out is packed and unpacked without loss, as it is never subnormal
nor too large (`IsNormal`).
-/

namespace Sluice.Decimal

open Float.Model Float.Model.UnpackedFloat

/-- The natural nearest to `n` among those of 53 binary digits with zeros behind; of two nearest
ones the even one. -/
def rounded (n : Nat) : Nat :=
  let unit := 2 ^ (n.log2 - 52)
  (Fraction.mk n unit).round * unit

/-! ## Rounding a quotient -/

variable {m n d : Nat}

theorem Fraction.round_bounds (n d : Nat) :
    n / d ≤ (Fraction.mk n d).round ∧ (Fraction.mk n d).round ≤ n / d + 1 := by
  unfold Fraction.round
  dsimp only
  split <;> omega

theorem Fraction.round_one (n : Nat) : (Fraction.mk n 1).round = n := by
  simp [Fraction.round, Nat.mod_one]

theorem Fraction.round_mul (n d : Nat) {c : Nat} (hc : 0 < c) :
    (Fraction.mk (n * c) (d * c)).round = (Fraction.mk n d).round := by
  have hlt : d * c < 2 * (n % d * c) ↔ d < 2 * (n % d) := by
    rw [← Nat.mul_assoc]
    exact Nat.mul_lt_mul_right hc
  have heq : d * c = 2 * (n % d * c) ↔ d = 2 * (n % d) := by
    rw [← Nat.mul_assoc]
    exact Nat.mul_left_inj (Nat.ne_of_gt hc)
  simp only [Fraction.round, Nat.mul_div_mul_right _ _ hc, Nat.mul_mod_mul_right, hlt, heq]

/-! ## Shifting -/

/-- An extended mantissa is the quotient of two naturals, with what is left in its two last bits. -/
structure IsQuotient (em : ExtendedMantissa) (n d : Nat) : Prop where
  mantissa : em.mantissa = n / d
  half : em.roundBit = true ↔ d ≤ 2 * (n % d)
  above : em.roundBit = true → (em.stickyBit = true ↔ d < 2 * (n % d))
  below : em.roundBit = false → (em.stickyBit = true ↔ 0 < n % d)

variable {em : ExtendedMantissa} {e : Int}

theorem IsQuotient.exact (n : Nat) : IsQuotient ⟨n, false, false⟩ n 1 where
  mantissa := (Nat.div_one n).symm
  half := by simp [Nat.mod_one]
  above h := by cases h
  below _ := by simp [Nat.mod_one]

theorem IsQuotient.shiftRightOne (hd : 0 < d) (h : IsQuotient em n d) :
    IsQuotient em.shiftRightOne n (2 * d) := by
  obtain ⟨hmantissa, hhalf, habove, hbelow⟩ := h
  have hr : n % d < d := Nat.mod_lt n hd
  have hmod : n % (2 * d) = n % d + d * (n / d % 2) := by
    rw [Nat.mul_comm 2 d, Nat.mod_mul]
  have hdigit : n / d % 2 = 0 ∨ n / d % 2 = 1 := by omega
  -- a bit below the mantissa is set just where the division leaves a remainder
  have hsticky : (em.roundBit || em.stickyBit) = true ↔ 0 < n % d := by
    cases hround : em.roundBit with
    | true =>
      have := hhalf.1 hround
      simp only [Bool.true_or, true_iff]
      omega
    | false => simpa using hbelow hround
  refine ⟨?_, ?_, ?_, ?_⟩
  · rw [ExtendedMantissa.shiftRightOne, hmantissa, Nat.div_div_eq_div_mul, Nat.mul_comm]
  · rw [ExtendedMantissa.shiftRightOne, hmantissa, hmod]
    rcases hdigit with h | h
    · simp [h]
      omega
    · simp [h]
  · intro hround
    rw [ExtendedMantissa.shiftRightOne, hmantissa] at hround
    have hodd : n / d % 2 = 1 := by
      rcases hdigit with h | h
      · simp [h] at hround
      · exact h
    rw [ExtendedMantissa.shiftRightOne, hmod, hodd]
    refine hsticky.trans ?_
    omega
  · intro hround
    rw [ExtendedMantissa.shiftRightOne, hmantissa] at hround
    have heven : n / d % 2 = 0 := by simpa using hround
    rw [ExtendedMantissa.shiftRightOne, hmod, heven]
    refine hsticky.trans ?_
    omega

theorem IsQuotient.shiftRight (hd : 0 < d) (h : IsQuotient em n d) (k : Nat) :
    IsQuotient (em >>> k) n (2 ^ k * d) := by
  change IsQuotient (k.repeat ExtendedMantissa.shiftRightOne em) n (2 ^ k * d)
  induction k with
  | zero => simpa [Nat.repeat] using h
  | succ k ih =>
    have hstep := ih.shiftRightOne (Nat.mul_pos (Nat.two_pow_pos k) hd)
    rw [← Nat.mul_assoc, Nat.mul_comm 2, ← Nat.pow_succ] at hstep
    exact hstep

theorem IsQuotient.roundedMantissa (h : IsQuotient em n d) :
    em.roundedMantissa = (Fraction.mk n d).round := by
  obtain ⟨hmantissa, hhalf, habove, hbelow⟩ := h
  obtain ⟨mantissa, round, sticky⟩ := em
  have hround : (Fraction.mk n d).round =
      if d < 2 * (n % d) ∨ (d = 2 * (n % d) ∧ n / d % 2 = 1) then n / d + 1 else n / d := rfl
  have hmantissa : mantissa = n / d := hmantissa
  rw [hround, ← hmantissa]
  cases round with
  | false =>
    have hless : ¬ d ≤ 2 * (n % d) := fun hle => by cases hhalf.2 hle
    rw [if_neg (by omega)]
    cases sticky <;> rfl
  | true =>
    have hle : d ≤ 2 * (n % d) := hhalf.1 rfl
    have habove : sticky = true ↔ d < 2 * (n % d) := habove rfl
    cases sticky with
    | true => rw [if_pos (.inl (habove.1 rfl))]; rfl
    | false =>
      have hmiddle : ¬ d < 2 * (n % d) := fun hlt => by cases habove.2 hlt
      have htie : ExtendedMantissa.roundedMantissa ⟨mantissa, true, false⟩ =
          mantissa + mantissa % 2 := rfl
      rw [htie]
      split <;> omega

/-! ## Packing -/

theorem sign_unpackSign_packComponents (spec : Format) (s : Sign)
    (exponent : BitVec spec.exponentBits) (mantissa : BitVec spec.mantissaBitsWithoutImplicit) :
    Sign.ofBitVec (unpackSign (packComponents spec s exponent mantissa)) = s := by
  have hbits : unpackSign (packComponents spec s exponent mantissa) = s.toBitVec := by
    apply BitVec.eq_of_getLsbD_eq
    intro i hi
    obtain rfl : i = 0 := by omega
    simp [unpackSign, packComponents, BitVec.getLsbD_append, BitVec.getElem_append]
  rw [hbits]
  cases s <;> rfl

/-- A normal number is packed and unpacked without loss. -/
theorem unpack_pack_finite (s : Sign) (hm : 0 < m) (hlog : m.log2 = 52) (hlow : -1074 ≤ e)
    (hhigh : e ≤ 971) :
    (Float.Model.pack (.finite s m e hm)).unpack = .finite s m e hm := by
  have hlt : m < 2 ^ 53 := (Nat.log2_lt (Nat.ne_of_gt hm)).1 (by omega)
  have hle : 2 ^ 52 ≤ m := by
    have := Nat.log2_self_le (Nat.ne_of_gt hm)
    rwa [hlog] at this
  -- `b` is the biased exponent: with 53 digits it is neither 0 nor 2047
  obtain ⟨b, hb⟩ : ∃ b : Nat, e + 1075 = b := ⟨(e + 1075).toNat, by omega⟩
  have hpack : UnpackedFloat.pack Format.binary64 (.finite s m e hm) =
      packComponents Format.binary64 s (BitVec.ofNat 11 b) (BitVec.ofNat 52 m) := by
    have hexponent : (e + 1023 + 52).toNat = b := by omega
    have hbits : ¬ 2047 ≤ b := by omega
    simp [UnpackedFloat.pack, Format.exponentBias, Format.mantissaBits, hexponent, hbits, hlog]
  have hexponent : (BitVec.ofNat 11 b).toNat = b := by
    rw [BitVec.toNat_ofNat]
    omega
  have hinfinite : BitVec.ofNat 11 b ≠ -1#11 := by
    intro h
    have := congrArg BitVec.toNat h
    rw [hexponent] at this
    have hones : (-1#11).toNat = 2047 := rfl
    omega
  have hsubnormal : BitVec.ofNat 11 b ≠ 0#11 := by
    intro h
    have := congrArg BitVec.toNat h
    rw [hexponent] at this
    have hzero : (0#11).toNat = 0 := rfl
    omega
  -- the leading digit is not stored, and `m` has one
  have hmantissa : (1#1 ++ BitVec.ofNat 52 m).toNat = m := by
    rw [BitVec.toNat_append, BitVec.toNat_ofNat, ← Nat.shiftLeft_add_eq_or_of_lt (by omega)]
    simp only [BitVec.toNat_ofNat, Nat.shiftLeft_eq]
    omega
  change UnpackedFloat.unpack Format.binary64 (UnpackedFloat.pack Format.binary64 _) = _
  rw [hpack]
  simp only [UnpackedFloat.unpack, unpackMantissa_packComponents, unpackExponent_packComponents,
    sign_unpackSign_packComponents, hinfinite, hsubnormal, if_false, hmantissa, hexponent]
  have hbias : Format.binary64.exponentBias = 1023 := rfl
  congr 1
  rw [hbias]
  omega

/-! ## Rounding an integer -/

/-- An unpacked number is normal and stands for a natural, with a sign. -/
def IsNormal (u : UnpackedFloat) (s : Sign) (v : Nat) : Prop :=
  ∃ (m k : Nat) (h : 0 < m), u = .finite s m (k - 52) h ∧ m.log2 = 52 ∧ k ≤ 64 ∧
    m * 2 ^ k = v * 2 ^ 52

theorem IsNormal.unpack_pack {u : UnpackedFloat} {s : Sign} {v : Nat} (h : IsNormal u s v) :
    (Float.Model.pack u).unpack = u := by
  obtain ⟨m, k, hm, rfl, hlog, hk, -⟩ := h
  exact unpack_pack_finite s hm hlog (by omega) (by omega)

theorem shiftToTargetExponent_exact (m : Nat) (e : Int) {t : Nat}
    (ht : Format.binary64.targetExponent (totalExponent m e) - e = t) :
    shiftToTargetExponent Format.binary64 m e .exact =
      ((⟨m, false, false⟩ : ExtendedMantissa) >>> t, e + t) := by
  simp only [shiftToTargetExponent, shiftToExponent, ht, Int.toNat_natCast]
  rfl

theorem targetExponent_binary64 (m : Nat) (e : Int) (h : -1074 ≤ m.log2 + e - 52) :
    Format.binary64.targetExponent (totalExponent m e) = m.log2 + e - 52 := by
  have hmin : Format.binary64.minExponent = -1074 := rfl
  simp only [Format.targetExponent, totalExponent, Format.mantissaBits, hmin]
  omega

/-- The two shifts of a rounding, the second of them after the mantissa is rounded. -/
theorem roundWithAccuracy_of_shifts {s : Sign} {em : ExtendedMantissa} {r m₂ : Nat} {e₁ e₂ : Int}
    (hfirst : shiftToTargetExponent Format.binary64 m e .exact = (em, e₁))
    (hr : em.roundedMantissa = r)
    (hsecond : shiftToTargetExponent Format.binary64 r e₁ .exact = (⟨m₂, false, false⟩, e₂))
    (hm : 0 < m₂) :
    roundWithAccuracy Format.binary64 s m e .exact = .finite s m₂ e₂ hm := by
  simp only [roundWithAccuracy, hfirst, hr, hsecond, Nat.ne_of_gt hm, dif_neg, not_false_eq_true]

theorem log2_eq_of_bounds {k : Nat} (hle : 2 ^ k ≤ n) (hlt : n < 2 ^ (k + 1)) : n.log2 = k :=
  (Nat.log2_eq_iff (Nat.ne_of_gt (Nat.lt_of_lt_of_le (Nat.two_pow_pos k) hle))).2 ⟨hle, hlt⟩

theorem log2_mul_two_pow (hn : n ≠ 0) (j : Nat) : (n * 2 ^ j).log2 = n.log2 + j := by
  induction j with
  | zero => rw [Nat.pow_zero, Nat.mul_one, Nat.add_zero]
  | succ j ih =>
    have hne : n * 2 ^ j ≠ 0 := Nat.mul_ne_zero hn (Nat.ne_of_gt (Nat.two_pow_pos j))
    rw [Nat.pow_succ, ← Nat.mul_assoc, Nat.mul_comm, Nat.log2_two_mul hne, ih, Nat.add_assoc]

/-- A natural with zeros behind it, rounded to the 53 leading digits. -/
theorem round_shifted {j t : Nat} (h : n.log2 + j = t + 52) :
    (Fraction.mk (n * 2 ^ j) (2 ^ t)).round * 2 ^ n.log2 = rounded n * 2 ^ 52 := by
  rcases Nat.le_total n.log2 52 with hsmall | hlarge
  · obtain ⟨i, rfl⟩ : ∃ i, j = t + i := ⟨j - t, by omega⟩
    have hunit : n.log2 - 52 = 0 := by omega
    have hround : (Fraction.mk (n * 2 ^ (t + i)) (2 ^ t)).round = n * 2 ^ i := by
      have := Fraction.round_mul (n * 2 ^ i) 1 (Nat.two_pow_pos t)
      rw [Fraction.round_one, Nat.one_mul, Nat.mul_assoc, ← Nat.pow_add, Nat.add_comm i] at this
      exact this
    have hdigits : i + n.log2 = 52 := by omega
    rw [hround, rounded, hunit, Nat.mul_assoc, ← Nat.pow_add, hdigits]
    simp [Fraction.round_one]
  · obtain ⟨i, hi⟩ : ∃ i, n.log2 = i + 52 := ⟨n.log2 - 52, by omega⟩
    obtain rfl : t = i + j := by omega
    have hunit : n.log2 - 52 = i := by omega
    rw [Nat.pow_add 2 i j, Fraction.round_mul _ _ (Nat.two_pow_pos j), rounded, hunit, hi,
      Nat.pow_add 2 i 52, Nat.mul_assoc]

theorem round_shifted_bounds {j t : Nat} (hn : n ≠ 0) (h : n.log2 + j = t + 52) :
    2 ^ 52 ≤ (Fraction.mk (n * 2 ^ j) (2 ^ t)).round ∧
      (Fraction.mk (n * 2 ^ j) (2 ^ t)).round ≤ 2 ^ 53 := by
  have hne : n * 2 ^ j ≠ 0 := Nat.mul_ne_zero hn (Nat.ne_of_gt (Nat.two_pow_pos j))
  have hlog : (n * 2 ^ j).log2 = t + 52 := by rw [log2_mul_two_pow hn, h]
  obtain ⟨hfloor, hceil⟩ := Fraction.round_bounds (n * 2 ^ j) (2 ^ t)
  constructor
  · have hself := Nat.log2_self_le hne
    rw [hlog, Nat.pow_add, Nat.mul_comm] at hself
    exact Nat.le_trans ((Nat.le_div_iff_mul_le (Nat.two_pow_pos t)).2 hself) hfloor
  · have hself := (Nat.log2_lt (k := t + 53) hne).1 (by omega)
    rw [Nat.pow_add, Nat.mul_comm (2 ^ t)] at hself
    exact Nat.le_trans hceil ((Nat.div_lt_iff_lt_mul (Nat.two_pow_pos t)).2 hself)

/-- A rounding whose first shift leaves 53 digits: the second one shifts only if these are rounded
up to the next power of two. -/
theorem isNormal_of_shift {s : Sign} {em : ExtendedMantissa} {r k v : Nat}
    (hfirst : shiftToTargetExponent Format.binary64 m e .exact = (em, (k - 52 : Int)))
    (hr : em.roundedMantissa = r) (hlow : 2 ^ 52 ≤ r) (hhigh : r ≤ 2 ^ 53) (hk : k < 64)
    (hvalue : r * 2 ^ k = v * 2 ^ 52) :
    IsNormal (roundWithAccuracy Format.binary64 s m e .exact) s v := by
  rcases Nat.lt_or_ge r (2 ^ 53) with hfits | hcarry
  · have hlog : r.log2 = 52 := log2_eq_of_bounds hlow hfits
    have hsecond : shiftToTargetExponent Format.binary64 r (k - 52) .exact =
        ((⟨r, false, false⟩ : ExtendedMantissa), (k - 52 : Int) + (0 : Nat)) := by
      refine shiftToTargetExponent_exact (t := 0) _ _ ?_
      rw [targetExponent_binary64] <;> omega
    rw [Int.natCast_zero, Int.add_zero] at hsecond
    have hm : 0 < r := by omega
    exact ⟨r, k, hm, roundWithAccuracy_of_shifts hfirst hr hsecond hm, hlog, by omega, hvalue⟩
  · obtain rfl : r = 2 ^ 53 := by omega
    have hlog : (2 ^ 53).log2 = 53 := Nat.log2_two_pow
    have hsecond : shiftToTargetExponent Format.binary64 (2 ^ 53) (k - 52) .exact =
        ((⟨2 ^ 52, false, false⟩ : ExtendedMantissa), (k - 52 : Int) + (1 : Nat)) := by
      refine shiftToTargetExponent_exact (t := 1) _ _ ?_
      rw [targetExponent_binary64] <;> omega
    have hexponent : (k - 52 : Int) + (1 : Nat) = (k + 1 : Nat) - 52 := by omega
    rw [hexponent] at hsecond
    refine ⟨2 ^ 52, k + 1, by decide, roundWithAccuracy_of_shifts hfirst hr hsecond (by decide),
      Nat.log2_two_pow, by omega, ?_⟩
    rw [← hvalue, Nat.pow_succ]
    ring

/-- The rounding of a natural below `2 ^ 64`, given with enough zeros behind it. -/
theorem isNormal_roundWithAccuracy (s : Sign) {j : Nat} (hn : 0 < n) (hlt : n < 2 ^ 64)
    (hj : 52 ≤ n.log2 + j) :
    IsNormal (roundWithAccuracy Format.binary64 s (n * 2 ^ j) (-j) .exact) s (rounded n) := by
  have hne : n ≠ 0 := by omega
  obtain ⟨t, ht⟩ : ∃ t, n.log2 + j = t + 52 := ⟨n.log2 + j - 52, by omega⟩
  have hlog : (n * 2 ^ j).log2 = t + 52 := by rw [log2_mul_two_pow hne, ht]
  obtain ⟨hlow, hhigh⟩ := round_shifted_bounds hne ht
  have hfirst : shiftToTargetExponent Format.binary64 (n * 2 ^ j) (-(j : Int)) .exact =
      ((⟨n * 2 ^ j, false, false⟩ : ExtendedMantissa) >>> t, -(j : Int) + t) := by
    refine shiftToTargetExponent_exact _ _ ?_
    rw [targetExponent_binary64, hlog] <;> omega
  have hexponent : -(j : Int) + t = n.log2 - 52 := by omega
  rw [hexponent] at hfirst
  have hrounded := ((IsQuotient.exact (n * 2 ^ j)).shiftRight Nat.one_pos t).roundedMantissa
  rw [Nat.mul_one] at hrounded
  exact isNormal_of_shift hfirst hrounded hlow hhigh ((Nat.log2_lt hne).2 hlt) (round_shifted ht)

/-- A natural of 53 binary digits is what it is rounded to. -/
theorem rounded_of_lt (h : n < 2 ^ 53) : rounded n = n := by
  have hunit : n.log2 - 52 = 0 := by
    rcases Nat.eq_zero_or_pos n with rfl | hn
    · rfl
    · have := (Nat.log2_lt (Nat.ne_of_gt hn)).2 h
      omega
  simp [rounded, hunit, Fraction.round_one]

theorem isNormal_round (s : Sign) (hn : 0 < n) (hlt : n < 2 ^ 64) :
    IsNormal (UnpackedFloat.round Format.binary64 s n 0) s (rounded n) := by
  have htarget : Format.binary64.targetExponent (totalExponent n 0) = n.log2 - 52 := by
    rw [targetExponent_binary64] <;> omega
  have hshift : decreaseExponent n 0 (n.log2 - 52) =
      (n * 2 ^ (52 - n.log2), -((52 - n.log2 : Nat) : Int)) := by
    have hamount : (0 - ((n.log2 : Int) - 52)).toNat = 52 - n.log2 := by omega
    rw [decreaseExponent, hamount, Nat.shiftLeft_eq, Int.zero_sub]
  simp only [UnpackedFloat.round, htarget, hshift]
  exact isNormal_roundWithAccuracy s hn hlt (by omega)

/-- Of a natural with at most 53 digits every digit is kept. -/
theorem IsNormal.exact {u : UnpackedFloat} {s : Sign} (hn : 0 < n) (h : IsNormal u s n)
    (hlt : n < 2 ^ 53) :
    ∃ hm, u = .finite s (n * 2 ^ (52 - n.log2)) (-((52 - n.log2 : Nat) : Int)) hm := by
  obtain ⟨m, k, hm, rfl, hlog, -, hvalue⟩ := h
  have hdigits : n.log2 < 53 := (Nat.log2_lt (Nat.ne_of_gt hn)).2 hlt
  have hk : k = n.log2 := by
    have := congrArg Nat.log2 hvalue
    rw [log2_mul_two_pow (by omega), log2_mul_two_pow (by omega), hlog] at this
    omega
  obtain rfl : m = n * 2 ^ (52 - n.log2) := by
    refine Nat.eq_of_mul_eq_mul_right (Nat.two_pow_pos k) (hvalue.trans ?_)
    rw [Nat.mul_assoc, ← Nat.pow_add, hk, Nat.sub_add_cancel (by omega)]
  refine ⟨hm, ?_⟩
  congr 1
  omega

theorem isNormal_toFloat (hn : 0 < n) (hlt : n < 2 ^ 64) :
    IsNormal n.toUInt64.toFloat.toModel.unpack .positive (rounded n) := by
  have hnat : n.toUInt64.toNat = n := UInt64.toNat_ofNat_of_lt' hlt
  have hnormalize : UnpackedFloat.normalize Format.binary64 n 0 .positive =
      UnpackedFloat.round Format.binary64 .positive n 0 := by
    have hcompare : compare (n : Int) 0 = .gt := by
      rw [compare_gt_iff_gt]
      omega
    simp [UnpackedFloat.normalize, hcompare]
  have hround := isNormal_round .positive hn hlt
  rw [← hnormalize] at hround
  have hpack := hround.unpack_pack
  change IsNormal
    (Float.Model.pack (UnpackedFloat.normalize Format.binary64 n.toUInt64.toNat 0 .positive)).unpack
    .positive (rounded n)
  rw [hnat, hpack]
  exact hround

/-- Below `2 ^ 53` a natural becomes a float as a product with `1.0`. -/
theorem isNormal_ofNat_of_lt (hn : 0 < n) (hlt : n < 2 ^ 53) :
    IsNormal (Float.ofNat n).toModel.unpack .positive (rounded n) := by
  have hlt' : n < 2 ^ 64 := by omega
  have hfloat : Float.ofNat n = n.toUInt64.toFloat * Float.ofBits 0x3FF0000000000000 :=
    dif_pos ⟨hlt, by decide⟩
  have hone : (Float.ofBits 0x3FF0000000000000).toModel.unpack =
      .finite .positive (2 ^ 52) (-52) (by decide) := rfl
  have hfactor := isNormal_toFloat hn hlt'
  rw [rounded_of_lt hlt] at hfactor
  obtain ⟨hm, hexact⟩ := hfactor.exact hn hlt
  have hproduct := isNormal_roundWithAccuracy .positive (j := 52 - n.log2 + 52) hn hlt' (by omega)
  have hmantissa : n * 2 ^ (52 - n.log2 + 52) = n * 2 ^ (52 - n.log2) * 2 ^ 52 := by
    rw [Nat.pow_add, Nat.mul_assoc]
  have hexponent : -((52 - n.log2 + 52 : Nat) : Int) = -((52 - n.log2 : Nat) : Int) + -52 := by
    omega
  rw [hmantissa, hexponent] at hproduct
  have hmul : (Float.ofNat n).toModel.unpack =
      (Float.Model.pack (UnpackedFloat.mul Format.binary64 n.toUInt64.toFloat.toModel.unpack
        (Float.ofBits 0x3FF0000000000000).toModel.unpack)).unpack := by
    rw [hfloat]
    rfl
  rw [hmul, hexact, hone]
  exact hproduct.unpack_pack ▸ hproduct

/-- From `2 ^ 53` on it does as a product with `10 ^ 0`. -/
theorem isNormal_ofNat_of_le (hle : 2 ^ 53 ≤ n) (hlt : n < 2 ^ 64) :
    IsNormal (Float.ofNat n).toModel.unpack .positive (rounded n) := by
  have hn : 0 < n := by omega
  have hfloat : Float.ofNat n = Float.ofModel (Float.Model.ofScientific n 0) :=
    dif_neg (fun h => by omega)
  have hround := isNormal_roundWithAccuracy .positive (j := 53) hn hlt (by omega)
  have hscientific : UnpackedFloat.ofScientific Format.binary64 n 0 =
      roundWithAccuracy Format.binary64 .positive (n * 2 ^ 53) (-(53 : Nat)) .exact := by
    have hlow : ¬ (0 : Int) < -(2 ^ Format.binary64.exponentBits + (n.log2 : Int)) := by
      have : (0 : Int) ≤ 2 ^ Format.binary64.exponentBits := by decide
      omega
    rw [UnpackedFloat.ofScientific, dif_neg (Nat.ne_of_gt hn), if_neg (by decide), if_neg hlow,
      if_pos (Int.le_refl 0), UnpackedFloat.mul, Nat.shiftLeft_eq]
    simp only [Int.toNat_zero, Nat.pow_zero, Nat.mul_one, Int.add_zero]
    rfl
  have hmodel : (Float.ofNat n).toModel =
      Float.Model.pack (UnpackedFloat.ofScientific Format.binary64 n 0) := by
    rw [hfloat]
    rfl
  rw [hmodel, hscientific, hround.unpack_pack]
  exact hround

theorem isNormal_ofNat (hn : 0 < n) (hlt : n < 2 ^ 64) :
    IsNormal (Float.ofNat n).toModel.unpack .positive (rounded n) := by
  rcases Nat.lt_or_ge n (2 ^ 53) with hsmall | hlarge
  · exact isNormal_ofNat_of_lt hn hsmall
  · exact isNormal_ofNat_of_le hlarge hlt

/-! ## Rounding keeps the order -/

theorem Fraction.round_mono (h : m ≤ n) (d : Nat) :
    (Fraction.mk m d).round ≤ (Fraction.mk n d).round := by
  rcases Nat.lt_or_ge (m / d) (n / d) with hlt | hge
  · have hm := (Fraction.round_bounds m d).2
    have hn := (Fraction.round_bounds n d).1
    omega
  · -- within one quotient the remainder grows
    have hq : m / d = n / d := Nat.le_antisymm (Nat.div_le_div_right h) hge
    have hr : m % d ≤ n % d := by
      have hm := Nat.div_add_mod m d
      have hn := Nat.div_add_mod n d
      rw [hq] at hm
      omega
    simp only [Fraction.round, hq]
    split <;> split <;> omega

theorem Fraction.round_near (n : Nat) {d : Nat} (hd : 0 < d) :
    2 * ((Fraction.mk n d).round * d) ≤ 2 * n + d ∧
      2 * n ≤ 2 * ((Fraction.mk n d).round * d) + d := by
  have hn := Nat.div_add_mod n d
  have hr := Nat.mod_lt n hd
  rw [Nat.mul_comm] at hn
  simp only [Fraction.round]
  split
  · rw [Nat.add_mul]
    omega
  · omega

theorem rounded_bounds (hn : 0 < n) :
    2 ^ n.log2 ≤ rounded n ∧ rounded n ≤ 2 ^ (n.log2 + 1) := by
  have hne : n ≠ 0 := by omega
  rcases Nat.le_total n.log2 52 with hsmall | hlarge
  · have hlt : n < 2 ^ 53 := (Nat.log2_lt hne).1 (by omega)
    rw [rounded_of_lt hlt]
    exact ⟨Nat.log2_self_le hne, Nat.le_of_lt Nat.lt_log2_self⟩
  · obtain ⟨i, hi⟩ : ∃ i, n.log2 = 52 + i := ⟨n.log2 - 52, by omega⟩
    have hunit : n.log2 - 52 = i := by omega
    have hpos := Nat.two_pow_pos i
    have hlow : 2 ^ 52 ≤ n / 2 ^ i := by
      rw [Nat.le_div_iff_mul_le hpos, ← Nat.pow_add, ← hi]
      exact Nat.log2_self_le hne
    have hhigh : n / 2 ^ i < 2 ^ 53 := by
      rw [Nat.div_lt_iff_lt_mul hpos, ← Nat.pow_add]
      exact (Nat.log2_lt hne).1 (by omega)
    have hround := Fraction.round_bounds n (2 ^ i)
    have hsucc : 52 + i + 1 = 53 + i := by omega
    rw [rounded, hunit, hi, hsucc, Nat.pow_add, Nat.pow_add]
    exact ⟨Nat.mul_le_mul_right _ (by omega), Nat.mul_le_mul_right _ (by omega)⟩

theorem rounded_mono (h : m ≤ n) : rounded m ≤ rounded n := by
  rcases Nat.eq_zero_or_pos m with rfl | hm
  · exact Nat.zero_le _
  · have hlog : m.log2 ≤ n.log2 := (Nat.le_log2 (by omega)).2
      (Nat.le_trans (Nat.log2_self_le (by omega)) h)
    rcases Nat.lt_or_ge m.log2 n.log2 with hlt | hge
    · calc rounded m ≤ 2 ^ (m.log2 + 1) := (rounded_bounds hm).2
        _ ≤ 2 ^ n.log2 := Nat.pow_le_pow_right (by decide) hlt
        _ ≤ rounded n := (rounded_bounds (by omega)).1
    · have heq : m.log2 = n.log2 := Nat.le_antisymm hlog hge
      rw [rounded, rounded, heq]
      exact Nat.mul_le_mul_right _ (Fraction.round_mono h _)

/-- Below `2 ^ 64` a natural is moved by at most half of the largest unit. -/
theorem rounded_near (hlt : n < 2 ^ 64) : rounded n ≤ n + 1024 ∧ n ≤ rounded n + 1024 := by
  have hlog : n.log2 - 52 ≤ 11 := by
    rcases Nat.eq_zero_or_pos n with rfl | hn
    · decide
    · have := (Nat.log2_lt (Nat.ne_of_gt hn)).2 hlt
      omega
  have hunit : 2 ^ (n.log2 - 52) ≤ 2 ^ 11 := Nat.pow_le_pow_right (by decide) hlog
  have := Fraction.round_near n (Nat.two_pow_pos (n.log2 - 52))
  simp only [rounded]
  omega

/-! ## Comparing -/

/-- An unpacked number stands for an integer. -/
inductive IsInteger : UnpackedFloat → Int → Prop
  | zero (s : Sign) : IsInteger (.zero s) 0
  | positive {u : UnpackedFloat} {v : Nat} (h : IsNormal u .positive v) : IsInteger u v
  | negative {u : UnpackedFloat} {v : Nat} (h : IsNormal u .negative v) : IsInteger u (-v)

theorem IsNormal.pos {u : UnpackedFloat} {s : Sign} {v : Nat} (h : IsNormal u s v) : 0 < v := by
  obtain ⟨m, k, hm, -, -, -, hvalue⟩ := h
  refine Nat.pos_of_ne_zero ?_
  rintro rfl
  have := Nat.mul_pos hm (Nat.two_pow_pos k)
  omega

/-- Mantissas of one length: the larger exponent wins. -/
theorem lt_of_exponent_lt {m m' k k' v v' : Nat} (hm : m.log2 = 52) (hm' : m'.log2 = 52)
    (hv : m * 2 ^ k = v * 2 ^ 52) (hv' : m' * 2 ^ k' = v' * 2 ^ 52) (hk : k < k') : v < v' := by
  have hne : m' ≠ 0 := by
    rintro rfl
    cases hm'
  have hlow : 2 ^ 52 ≤ m' := by
    have := Nat.log2_self_le hne
    rwa [hm'] at this
  have hhigh : m < 2 ^ 53 := by
    have : m < 2 ^ (m.log2 + 1) := Nat.lt_log2_self
    rwa [hm] at this
  refine Nat.lt_of_mul_lt_mul_right (a := 2 ^ 52) ?_
  calc v * 2 ^ 52 = m * 2 ^ k := hv.symm
    _ < 2 ^ 53 * 2 ^ k := Nat.mul_lt_mul_of_pos_right hhigh (Nat.two_pow_pos k)
    _ = 2 ^ 52 * 2 ^ (k + 1) := by ring
    _ ≤ m' * 2 ^ k' := Nat.mul_le_mul hlow (Nat.pow_le_pow_right (by decide) hk)
    _ = v' * 2 ^ 52 := hv'

theorem compare_normal {m m' k k' v v' : Nat} (hm : m.log2 = 52) (hm' : m'.log2 = 52)
    (hv : m * 2 ^ k = v * 2 ^ 52) (hv' : m' * 2 ^ k' = v' * 2 ^ 52) :
    (compare ((k : Int) - 52) ((k' : Int) - 52)).then (compare m m') =
      compare (v : Int) (v' : Int) := by
  rcases Nat.lt_trichotomy k k' with hlt | rfl | hgt
  · have hexponent : compare ((k : Int) - 52) ((k' : Int) - 52) = .lt :=
      compare_lt_iff_lt.2 (by omega)
    have hvalue := lt_of_exponent_lt hm hm' hv hv' hlt
    rw [hexponent, compare_lt_iff_lt.2 (by omega : (v : Int) < v')]
    rfl
  · have hexponent : compare ((k : Int) - 52) ((k : Int) - 52) = .eq := compare_eq_iff_eq.2 rfl
    have hpos := Nat.two_pow_pos k
    rw [hexponent, Ordering.eq_then]
    rcases Nat.lt_trichotomy m m' with hlt | rfl | hgt
    · have := Nat.mul_lt_mul_of_pos_right hlt hpos
      rw [compare_lt_iff_lt.2 hlt, compare_lt_iff_lt.2 (by omega : (v : Int) < v')]
    · rw [compare_eq_iff_eq.2 rfl, compare_eq_iff_eq.2 (by omega : (v : Int) = v')]
    · have := Nat.mul_lt_mul_of_pos_right hgt hpos
      rw [compare_gt_iff_gt.2 hgt, compare_gt_iff_gt.2 (by omega : (v' : Int) < v)]
  · have hexponent : compare ((k : Int) - 52) ((k' : Int) - 52) = .gt :=
      compare_gt_iff_gt.2 (by omega)
    have hvalue := lt_of_exponent_lt hm' hm hv' hv hgt
    rw [hexponent, compare_gt_iff_gt.2 (by omega : (v' : Int) < v)]
    rfl

theorem compare_neg (i j : Int) : compare (-i) (-j) = (compare i j).swap := by
  rcases Int.lt_trichotomy i j with hlt | rfl | hgt
  · rw [compare_lt_iff_lt.2 hlt, compare_gt_iff_gt.2 (by omega : -j < -i)]
    rfl
  · rw [compare_eq_iff_eq.2 rfl, compare_eq_iff_eq.2 rfl]
    rfl
  · rw [compare_gt_iff_gt.2 hgt, compare_lt_iff_lt.2 (by omega : -i < -j)]
    rfl

/-- Unpacked integers compare by value. -/
theorem IsInteger.compare {u u' : UnpackedFloat} {i j : Int} (h : IsInteger u i)
    (h' : IsInteger u' j) : u.compare u' = some (compare i j) := by
  -- numbers of one sign are compared by their exponents and mantissas, all others by their signs
  cases h with
  | zero s =>
    cases h' with
    | zero s' => rfl
    | positive h' =>
      have hpos := h'.pos
      obtain ⟨m', k', hm', rfl, -⟩ := h'
      rw [UnpackedFloat.compare, compare_lt_iff_lt.2 (by omega)]
    | negative h' =>
      have hpos := h'.pos
      obtain ⟨m', k', hm', rfl, -⟩ := h'
      rw [UnpackedFloat.compare, compare_gt_iff_gt.2 (by omega)]
  | positive h =>
    have hpos := h.pos
    obtain ⟨m, k, hm, rfl, hlog, -, hv⟩ := h
    cases h' with
    | zero s' => rw [UnpackedFloat.compare, compare_gt_iff_gt.2 (by omega)]
    | positive h' =>
      obtain ⟨m', k', hm', rfl, hlog', -, hv'⟩ := h'
      rw [UnpackedFloat.compare, compare_normal hlog hlog' hv hv']
    | negative h' =>
      have hpos' := h'.pos
      obtain ⟨m', k', hm', rfl, -⟩ := h'
      rw [UnpackedFloat.compare, compare_gt_iff_gt.2 (by omega)]
  | negative h =>
    have hpos := h.pos
    obtain ⟨m, k, hm, rfl, hlog, -, hv⟩ := h
    cases h' with
    | zero s' => rw [UnpackedFloat.compare, compare_lt_iff_lt.2 (by omega)]
    | positive h' =>
      have hpos' := h'.pos
      obtain ⟨m', k', hm', rfl, -⟩ := h'
      rw [UnpackedFloat.compare, compare_lt_iff_lt.2 (by omega)]
    | negative h' =>
      obtain ⟨m', k', hm', rfl, hlog', -, hv'⟩ := h'
      rw [UnpackedFloat.compare, compare_normal hlog hlog' hv hv', compare_neg]

/-- The integer nearest to `i` among those of 53 binary digits with zeros behind them. -/
def roundedInt (i : Int) : Int := i.sign * rounded i.natAbs

theorem roundedInt_natCast (n : Nat) : roundedInt n = rounded n := by
  rcases Nat.eq_zero_or_pos n with rfl | hn
  · rfl
  · rw [roundedInt, Int.sign_eq_one_of_pos (by omega), Int.natAbs_natCast, Int.one_mul]

theorem roundedInt_neg (i : Int) : roundedInt (-i) = -roundedInt i := by
  rw [roundedInt, roundedInt, Int.sign_neg, Int.natAbs_neg, Int.neg_mul]

theorem roundedInt_mono {i j : Int} (h : i ≤ j) : roundedInt i ≤ roundedInt j := by
  rcases Int.eq_nat_or_neg i with ⟨m, rfl | rfl⟩ <;>
    rcases Int.eq_nat_or_neg j with ⟨n, rfl | rfl⟩
  · have := rounded_mono (m := m) (n := n) (by omega)
    rw [roundedInt_natCast, roundedInt_natCast]
    omega
  · obtain ⟨rfl, rfl⟩ : m = 0 ∧ n = 0 := by omega
    exact Int.le_refl _
  · rw [roundedInt_neg, roundedInt_natCast, roundedInt_natCast]
    omega
  · have := rounded_mono (m := n) (n := m) (by omega)
    rw [roundedInt_neg, roundedInt_neg, roundedInt_natCast, roundedInt_natCast]
    omega

theorem roundedInt_near {i : Int} (h : i.natAbs < 2 ^ 64) :
    roundedInt i ≤ i + 1024 ∧ i ≤ roundedInt i + 1024 := by
  rcases Int.eq_nat_or_neg i with ⟨n, rfl | rfl⟩
  · have := rounded_near (n := n) (by omega)
    rw [roundedInt_natCast]
    omega
  · have := rounded_near (n := n) (by omega)
    rw [roundedInt_neg, roundedInt_natCast]
    omega

theorem IsNormal.neg {u : UnpackedFloat} {s : Sign} {v : Nat} (h : IsNormal u s v) :
    IsNormal u.neg (-s) v := by
  obtain ⟨m, k, hm, rfl, h⟩ := h
  exact ⟨m, k, hm, rfl, h⟩

/-- As a float an integer of 64 bits stands for what it is rounded to. -/
theorem isInteger_ofInt {i : Int} (h : i.natAbs < 2 ^ 64) :
    IsInteger (Float.ofInt i).toModel.unpack (roundedInt i) := by
  cases i with
  | ofNat n =>
    change IsInteger (Float.ofNat n).toModel.unpack (roundedInt n)
    rw [roundedInt_natCast]
    rcases Nat.eq_zero_or_pos n with rfl | hn
    · exact .zero .positive
    · exact .positive (isNormal_ofNat hn h)
  | negSucc n =>
    have hnormal := (isNormal_ofNat (Nat.succ_pos n) h).neg
    have hneg : (Float.ofInt (Int.negSucc n)).toModel.unpack =
        (Float.Model.pack (Float.ofNat (n + 1)).toModel.unpack.neg).unpack := rfl
    rw [hneg, hnormal.unpack_pack, Int.negSucc_eq, roundedInt_neg]
    have hvalue := roundedInt_natCast (n + 1)
    rw [Int.natCast_add, Int.natCast_one] at hvalue
    rw [hvalue]
    exact .negative hnormal

end Sluice.Decimal

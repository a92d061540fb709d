import Sluice.Expr.Eval
import Sluice.Proofs.Failing

/-!
# Arithmetic on integers

An `Arithmetic` is an expression of integer literals, the minus before an operand and the five
operators.  Its value `integer?` is the one of mathematics, as long as that and the values of all
parts are integers of 63 bits and a sign.  The evaluator gives this value, as an integer.

A remainder is taken together with its quotient.  There is one pair in range whose quotient is not,
`-2 ^ 63` and `-1`; for its remainder the evaluator turns to floats, and the zero that it gives is
none of the integers.
-/

namespace Sluice.Expr

/-- The operators of arithmetic. -/
inductive Operator where
  | add | sub | mul | div | mod
deriving DecidableEq, Repr

def Operator.toBinaryOp : Operator → BinaryOp
  | .add => .add | .sub => .sub | .mul => .mul | .div => .div | .mod => .mod

/-- Expressions of integers; the literals fit 63 bits. -/
inductive Arithmetic where
  | literal (n : Nat) (small : n < 9223372036854775808)
  | neg (operand : Arithmetic)
  | binary (op : Operator) (left right : Arithmetic)

/-- Why an integer expression has no exact value: it divides by zero, or the value of a part is no
integer or out of range. -/
inductive Fault where
  | zeroDivisor | inexact
deriving DecidableEq, Repr

/-- An integer, if it is one of 63 bits and a sign. -/
def ranged (i : Int) : Except Fault Int := if isSigned i then .ok i else .error .inexact

/-- What an operator gives on two integers in range: the quotient where it leaves no remainder, and
the remainder of the division towards zero, but not where the quotient is out of range. -/
def Operator.integer? (op : Operator) (a b : Int) : Except Fault Int :=
  match op with
  | .add => ranged (a + b)
  | .sub => ranged (a - b)
  | .mul => ranged (a * b)
  | .div => if b = 0 then .error .zeroDivisor else if b ∣ a then ranged (a / b) else .error .inexact
  | .mod =>
    if b = 0 then .error .zeroDivisor
    else if a = -9223372036854775808 ∧ b = -1 then .error .inexact
    else .ok (a.tmod b)

namespace Arithmetic

def toExpr : Arithmetic → Expr
  | .literal n small => .literal (.number (.int n (by unfold Number.Fits; omega)))
  | .neg operand => .unary .neg operand.toExpr
  | .binary op left right => .binary op.toBinaryOp left.toExpr right.toExpr

/-- The value of an integer expression among the integers. -/
def integer? : Arithmetic → Except Fault Int
  | .literal n _ => .ok n
  | .neg operand => do ranged (-(← operand.integer?))
  | .binary op left right => do op.integer? (← left.integer?) (← right.integer?)

end Arithmetic

theorem isSigned_iff {i : Int} :
    isSigned i = true ↔ -9223372036854775808 ≤ i ∧ i < 9223372036854775808 := by
  simp [isSigned]

theorem fits_of_isSigned {i : Int} (h : isSigned i = true) : Number.Fits i := by
  have hi := isSigned_iff.1 h
  exact ⟨hi.1, by omega⟩

theorem ofInt?_of_isSigned {i : Int} (h : isSigned i = true) :
    Number.ofInt? i = some (.int i (fits_of_isSigned h)) :=
  dif_pos (fits_of_isSigned h)

theorem toSigned?_of_isSigned {i : Int} {fits : Number.Fits i} (h : isSigned i = true) :
    (Number.int i fits).toSigned? = some i :=
  if_pos (isSigned_iff.1 h).2

theorem ranged_eq_ok_iff {i v : Int} : ranged i = .ok v ↔ isSigned i = true ∧ i = v := by
  unfold ranged
  split
  · next h => simp [h]
  · next h => simp [h]

theorem ranged_ne_zeroDivisor {i : Int} : ranged i ≠ .error .zeroDivisor := by
  unfold ranged
  split <;> simp

/-! ## One operator on two integers -/

section Operators

variable {op : Operator} {a b v : Int}

/-- The remainder towards zero lies between zero and the dividend. -/
theorem isSigned_tmod (ha : isSigned a = true) : isSigned (a.tmod b) = true := by
  have hle : (a.tmod b).natAbs ≤ a.natAbs := by
    rw [Int.natAbs_tmod]
    exact Nat.mod_le _ _
  have ha := isSigned_iff.1 ha
  refine isSigned_iff.2 ?_
  rcases Int.le_total 0 a with h | h
  · have := Int.tmod_nonneg b h
    omega
  · have hneg := Int.tmod_nonneg b (Int.neg_nonneg_of_nonpos h)
    rw [Int.neg_tmod] at hneg
    omega

theorem quotientOverflows_eq_false (h : isSigned (a.tdiv b) = true) :
    quotientOverflows a b = false := by
  cases hq : quotientOverflows a b with
  | false => rfl
  | true =>
    obtain ⟨rfl, rfl⟩ : a = -9223372036854775808 ∧ b = -1 := by simpa [quotientOverflows] using hq
    cases h

/-- The operator's exact value is what the evaluator computes with integers. -/
theorem exactInteger?_of_integer? (ha : isSigned a = true) (h : op.integer? a b = .ok v) :
    exactInteger? op.toBinaryOp a b = some v ∧ isSigned v = true := by
  -- a sum, a difference and a product are checked once; a quotient has to be whole as well
  cases op with
  | add | sub | mul =>
    obtain ⟨hv, rfl⟩ := ranged_eq_ok_iff.1 h
    exact ⟨by simp [exactInteger?, exactResult, Operator.toBinaryOp, hv], hv⟩
  | div =>
    simp only [Operator.integer?] at h
    split at h
    · cases h
    · split at h
      · next hdvd =>
        obtain ⟨hv, rfl⟩ := ranged_eq_ok_iff.1 h
        rw [← Int.tdiv_eq_ediv_of_dvd hdvd] at hv ⊢
        refine ⟨?_, hv⟩
        simp [exactInteger?, exactResult, Operator.toBinaryOp, quotientOverflows_eq_false hv,
          Int.tmod_eq_zero_of_dvd hdvd, hv]
      · cases h
  | mod =>
    simp only [Operator.integer?] at h
    split at h
    · cases h
    · split at h
      · cases h
      · next hpair =>
        cases h
        have hv := isSigned_tmod (b := b) ha
        have hq : quotientOverflows a b = false := decide_eq_false hpair
        refine ⟨?_, hv⟩
        simp [exactInteger?, exactResult, Operator.toBinaryOp, hq, hv]

theorem onNumbers_of_integer? (fa : Number.Fits a) (fb : Number.Fits b) (ha : isSigned a = true)
    (hb : isSigned b = true) (h : op.integer? a b = .ok v) :
    ∃ hv : isSigned v = true, onNumbers op.toBinaryOp (.int a fa) (.int b fb) =
      .ok (.number (.int v (fits_of_isSigned hv))) := by
  obtain ⟨hexact, hv⟩ := exactInteger?_of_integer? ha h
  have hdivisor : ¬ ((op.toBinaryOp = .div ∨ op.toBinaryOp = .mod) ∧ b = 0) := by
    rintro ⟨hop, rfl⟩
    cases op with
    | div | mod => cases h
    | _ => rcases hop with hop | hop <;> cases hop
  refine ⟨hv, ?_⟩
  simp only [onNumbers, toSigned?_of_isSigned ha, toSigned?_of_isSigned hb, if_neg hdivisor, hexact,
    Option.bind_some, ofInt?_of_isSigned hv]

end Operators

/-! ## Zero divisors and failures -/

/-- Whether a number is zero, as an integer or as a float of either sign. -/
def isZero : Number → Bool
  | .int i _ => i = 0
  | .float x _ => x == 0.0

/-- A zero is refused as a divisor, whatever is divided. -/
theorem onNumbers_of_isZero {op : BinaryOp} (hop : op = .div ∨ op = .mod) (m : Number) {n : Number}
    (hn : isZero n = true) : onNumbers op m n = .error .divisionByZero := by
  have hfloats : (n.toFloat == 0.0) = true → onFloats op m n = .error .divisionByZero := by
    intro hzero
    rcases hop with rfl | rfl <;> simp [onFloats, floatResult, hzero]
  cases n with
  | int i fits =>
    obtain rfl : i = 0 := of_decide_eq_true hn
    have hsigned : (Number.int 0 fits).toSigned? = some 0 := rfl
    have hzero : (Float.ofInt 0 == 0.0) = true := by decide
    cases hm : m.toSigned? with
    | none => simp only [onNumbers, hm, hfloats hzero]
    | some a => simp only [onNumbers, hm, hsigned, hop, and_self, if_true]
  | float x finite =>
    have hsigned : (Number.float x finite).toSigned? = none := rfl
    rw [← hfloats hn]
    cases hm : m.toSigned? <;> simp only [onNumbers, hm, hsigned]

/-- The ways in which arithmetic on numbers can end: with a number, or with one of two errors. -/
def Ends (r : Except EvalError Json) : Prop :=
  (∃ n, r = .ok (.number n)) ∨ r = .error .divisionByZero ∨ r = .error (.mismatch .notFinite)

theorem ends_onFloats (op : Operator) (m n : Number) : Ends (onFloats op.toBinaryOp m n) := by
  have hresult : (∃ x, floatResult op.toBinaryOp m.toFloat n.toFloat = .ok x) ∨
      floatResult op.toBinaryOp m.toFloat n.toFloat = .error .divisionByZero := by
    cases op with
    | div | mod =>
      simp only [floatResult, Operator.toBinaryOp]
      split
      · exact .inr rfl
      · exact .inl ⟨_, rfl⟩
    | _ => exact .inl ⟨_, rfl⟩
  unfold onFloats
  rcases hresult with ⟨x, hx⟩ | hx
  · simp only [hx]
    cases Number.ofFloat? x with
    | none => exact .inr (.inr rfl)
    | some k => exact .inl ⟨k, rfl⟩
  · simp only [hx]
    exact .inr (.inl rfl)

theorem ends_onNumbers (op : Operator) (m n : Number) : Ends (onNumbers op.toBinaryOp m n) := by
  unfold onNumbers
  split
  · split
    · exact .inr (.inl rfl)
    · split
      · exact .inl ⟨_, rfl⟩
      · exact ends_onFloats op m n
  · exact ends_onFloats op m n

/-! ## Expressions -/

theorem arithmetic_number (op : Operator) (m n : Number) :
    Json.arithmetic op.toBinaryOp (.number m) (.number n) = onNumbers op.toBinaryOp m n := by
  cases op <;> rfl

theorem zero_eq : zero = .number (.int 0 (by decide)) := rfl

namespace Arithmetic

variable {view : View} {subject : Option Json}

theorem eval_neg (operand : Arithmetic) :
    (neg operand).toExpr.eval view subject =
      (do Json.arithmetic .sub zero (← operand.toExpr.eval view subject)) := by
  rw [toExpr, eval]
  rfl

theorem eval_binary (op : Operator) (left right : Arithmetic) :
    (binary op left right).toExpr.eval view subject = (do
      let l ← left.toExpr.eval view subject
      Json.arithmetic op.toBinaryOp l (← right.toExpr.eval view subject)) := by
  cases op <;> (rw [toExpr, Operator.toBinaryOp, eval] <;> simp [applyBinary])

theorem eval_binary_of_numbers {left right : Arithmetic} {m n : Number} (op : Operator)
    (hl : left.toExpr.eval view subject = .ok (.number m))
    (hr : right.toExpr.eval view subject = .ok (.number n)) :
    (binary op left right).toExpr.eval view subject = onNumbers op.toBinaryOp m n := by
  rw [eval_binary, hl, hr, ← arithmetic_number]
  rfl

theorem eval_neg_of_number {operand : Arithmetic} {n : Number}
    (h : operand.toExpr.eval view subject = .ok (.number n)) :
    (neg operand).toExpr.eval view subject = onNumbers .sub (.int 0 (by decide)) n := by
  rw [eval_neg, h, zero_eq]
  rfl

variable (view subject) in
/-- The exact value is what the evaluator gives, as an integer. -/
theorem eval_of_integer?_eq_ok {t : Arithmetic} {v : Int} (h : t.integer? = .ok v) :
    ∃ hv : isSigned v = true,
      t.toExpr.eval view subject = .ok (.number (.int v (fits_of_isSigned hv))) := by
  induction t generalizing v with
  | literal n small =>
    obtain rfl : (n : Int) = v := Except.ok.inj h
    exact ⟨isSigned_iff.2 (by omega), rfl⟩
  | neg operand ih =>
    obtain ⟨a, ha, hv⟩ := bind_eq_ok_iff.1 h
    obtain ⟨hsigned, heval⟩ := ih ha
    -- the minus is a difference from zero
    have hsub : Operator.sub.integer? 0 a = .ok v := by rw [Operator.integer?, Int.zero_sub, hv]
    obtain ⟨hv, hnumbers⟩ := onNumbers_of_integer? (by decide) (fits_of_isSigned hsigned)
      (by decide) hsigned hsub
    exact ⟨hv, (eval_neg_of_number heval).trans hnumbers⟩
  | binary op left right ihl ihr =>
    obtain ⟨a, ha, h⟩ := bind_eq_ok_iff.1 h
    obtain ⟨b, hb, h⟩ := bind_eq_ok_iff.1 h
    obtain ⟨hsa, hl⟩ := ihl ha
    obtain ⟨hsb, hr⟩ := ihr hb
    obtain ⟨hv, hnumbers⟩ := onNumbers_of_integer? (fits_of_isSigned hsa) (fits_of_isSigned hsb)
      hsa hsb h
    exact ⟨hv, (eval_binary_of_numbers op hl hr).trans hnumbers⟩

theorem integer?_eq_zeroDivisor {op : Operator} {a b : Int}
    (h : op.integer? a b = .error .zeroDivisor) : (op = .div ∨ op = .mod) ∧ b = 0 := by
  cases op with
  | add | sub | mul => exact absurd h ranged_ne_zeroDivisor
  | div =>
    simp only [Operator.integer?] at h
    split at h
    · next hb => exact ⟨.inl rfl, hb⟩
    · split at h
      · exact absurd h ranged_ne_zeroDivisor
      · cases h
  | mod =>
    simp only [Operator.integer?] at h
    split at h
    · next hb => exact ⟨.inr rfl, hb⟩
    · split at h <;> cases h

theorem toBinaryOp_of_divides {op : Operator} (h : op = .div ∨ op = .mod) :
    op.toBinaryOp = .div ∨ op.toBinaryOp = .mod := by
  rcases h with rfl | rfl
  · exact .inl rfl
  · exact .inr rfl

/-- A division by zero among exact values is what the evaluator reports. -/
theorem eval_of_integer?_eq_zeroDivisor {t : Arithmetic} (h : t.integer? = .error .zeroDivisor) :
    t.toExpr.eval view subject = .error .divisionByZero := by
  induction t with
  | literal n small => cases h
  | neg operand ih =>
    rcases bind_eq_error_iff.1 h with h | ⟨a, -, h⟩
    · rw [eval_neg, ih h]
      rfl
    · exact absurd h ranged_ne_zeroDivisor
  | binary op left right ihl ihr =>
    rcases bind_eq_error_iff.1 h with h | ⟨a, ha, h⟩
    · rw [eval_binary, ihl h]
      rfl
    · obtain ⟨hsa, hl⟩ := eval_of_integer?_eq_ok view subject ha
      rcases bind_eq_error_iff.1 h with h | ⟨b, hb, h⟩
      · rw [eval_binary, hl, ihr h]
        rfl
      · obtain ⟨hop, rfl⟩ := integer?_eq_zeroDivisor h
        obtain ⟨hsb, hr⟩ := eval_of_integer?_eq_ok view subject hb
        rw [eval_binary_of_numbers op hl hr]
        exact onNumbers_of_isZero (toBinaryOp_of_divides hop) _ rfl

/-- Every integer expression ends with a number or with one of two errors. -/
theorem ends_eval (t : Arithmetic) : Ends (t.toExpr.eval view subject) := by
  induction t with
  | literal n small => exact .inl ⟨_, rfl⟩
  | neg operand ih =>
    rcases ih with ⟨n, h⟩ | h | h
    · rw [eval_neg_of_number h]
      exact ends_onNumbers .sub _ n
    · rw [eval_neg, h]
      exact .inr (.inl rfl)
    · rw [eval_neg, h]
      exact .inr (.inr rfl)
  | binary op left right ihl ihr =>
    rcases ihl with ⟨m, hl⟩ | hl | hl
    · rcases ihr with ⟨n, hr⟩ | hr | hr
      · rw [eval_binary_of_numbers op hl hr]
        exact ends_onNumbers op m n
      · rw [eval_binary, hl, hr]
        exact .inr (.inl rfl)
      · rw [eval_binary, hl, hr]
        exact .inr (.inr rfl)
    · rw [eval_binary, hl]
      exact .inr (.inl rfl)
    · rw [eval_binary, hl]
      exact .inr (.inr rfl)

theorem onNumbers_lowest_mod_minusOne :
    onNumbers .mod (.int (-9223372036854775808) (by decide)) (.int (-1) (by decide)) =
      .ok (.number (.float (-0.0) (by decide))) := rfl

/-- The remainder of the one pair whose quotient is out of range is the float `-0.0`. -/
theorem eval_lowest_mod_minusOne {left right : Arithmetic}
    (hl : left.integer? = .ok (-9223372036854775808)) (hr : right.integer? = .ok (-1)) :
    (binary .mod left right).toExpr.eval view subject =
      .ok (.number (.float (-0.0) (by decide))) := by
  obtain ⟨hsl, hleft⟩ := eval_of_integer?_eq_ok view subject hl
  obtain ⟨hsr, hright⟩ := eval_of_integer?_eq_ok view subject hr
  rw [eval_binary_of_numbers .mod hleft hright]
  exact onNumbers_lowest_mod_minusOne

/-- An integer expression has its exact value, as an integer, and division by zero is reported as
such.  The remainder of the lowest integer by `-1` has no exact value and is the float `-0.0`.  A
divisor that is zero in any form is refused whatever is divided, and every integer expression ends
with a number or with one of two errors. -/
theorem eval_is_exact (view : View) (subject : Option Json) :
    (∀ (t : Arithmetic) (v : Int), t.integer? = .ok v →
      ∃ hv : isSigned v = true,
        t.toExpr.eval view subject = .ok (.number (.int v (fits_of_isSigned hv)))) ∧
    (∀ t : Arithmetic, t.integer? = .error .zeroDivisor →
      t.toExpr.eval view subject = .error .divisionByZero) ∧
    (∀ left right : Arithmetic, left.integer? = .ok (-9223372036854775808) →
      right.integer? = .ok (-1) → (binary .mod left right).toExpr.eval view subject =
        .ok (.number (.float (-0.0) (by decide)))) ∧
    (∀ (op : Operator) (left right : Arithmetic) (m n : Number), op = .div ∨ op = .mod →
      left.toExpr.eval view subject = .ok (.number m) →
      right.toExpr.eval view subject = .ok (.number n) → isZero n = true →
      (binary op left right).toExpr.eval view subject = .error .divisionByZero) ∧
    ∀ t : Arithmetic, Ends (t.toExpr.eval view subject) := by
  refine ⟨fun t v => eval_of_integer?_eq_ok view subject, fun t => eval_of_integer?_eq_zeroDivisor,
    fun left right => eval_lowest_mod_minusOne, ?_, ends_eval⟩
  intro op left right m n hop hl hr hn
  rw [eval_binary_of_numbers op hl hr]
  exact onNumbers_of_isZero (toBinaryOp_of_divides hop) m hn

def lowest : Arithmetic :=
  .binary .sub (.neg (.literal 9223372036854775807 (by decide))) (.literal 1 (by decide))

/-- At the lowest integer: `lowest / 2 * 2 % -7` is exact, `lowest % (3 - 3)` divides by zero,
`lowest % -1` is a float, and so is what `(0 - lowest) / 0` divides. -/
theorem eval_is_exact_at_lowest :
    let view : View := ⟨.null, .null, .null⟩
    let two : Arithmetic := .literal 2 (by decide)
    let three : Arithmetic := .literal 3 (by decide)
    let nothing : Arithmetic := .literal 0 (by decide)
    let half : Arithmetic := .binary .div lowest two
    let even : Arithmetic := .binary .mul half two
    let remainder : Arithmetic := .binary .mod even (.neg (.literal 7 (by decide)))
    let faulty : Arithmetic := .binary .mod lowest (.binary .sub three three)
    let left : Arithmetic := .binary .sub nothing lowest
    (remainder.integer? = .ok (-1) ∧
      remainder.toExpr.eval view none = .ok (.number (.int (-1) (by decide)))) ∧
    (faulty.integer? = .error .zeroDivisor ∧
      faulty.toExpr.eval view none = .error .divisionByZero) ∧
    (lowest.integer? = .ok (-9223372036854775808) ∧
      (binary .mod lowest (.neg (.literal 1 (by decide)))).toExpr.eval view none =
        .ok (.number (.float (-0.0) (by decide)))) ∧
    (left.toExpr.eval view none =
        .ok (.number (.float (Float.ofNat 9223372036854775808) (by decide))) ∧
      (binary .div left nothing).toExpr.eval view none = .error .divisionByZero) ∧
    Ends ((binary .div left nothing).toExpr.eval view none) := by
  intro view two three nothing half even remainder faulty left
  obtain ⟨hexact, hzero, hlowest, hdivisor, hends⟩ := eval_is_exact view none
  have hnothing : nothing.toExpr.eval view none = .ok (.number (.int 0 (by decide))) := rfl
  have hminusOne : (neg (.literal 1 (by decide))).integer? = .ok (-1) := rfl
  have hlowest' : lowest.integer? = .ok (-9223372036854775808) := rfl
  have hremainder : remainder.integer? = .ok (-1) := rfl
  have hfaulty : faulty.integer? = .error .zeroDivisor := rfl
  have hdifference :
      onNumbers .sub (.int 0 (by decide)) (.int (-9223372036854775808) (by decide)) =
        .ok (.number (.float (Float.ofNat 9223372036854775808) (by decide))) := rfl
  obtain ⟨_, hlow⟩ := hexact lowest _ hlowest'
  have hleft := (eval_binary_of_numbers .sub hnothing hlow).trans hdifference
  obtain ⟨_, hvalue⟩ := hexact remainder (-1) hremainder
  refine ⟨⟨hremainder, hvalue⟩, ⟨hfaulty, hzero faulty hfaulty⟩, ⟨hlowest', ?_⟩, ⟨hleft, ?_⟩,
    hends _⟩
  · exact hlowest lowest _ hlowest' hminusOne
  · exact hdivisor .div left nothing _ _ (.inl rfl) hleft hnothing (by decide)

/-- The operands of `lowest % -1` and its remainder, `0`, are in range, and yet its value is no
integer. -/
theorem eval_lowest_mod_not_integer :
    let minusOne : Arithmetic := .neg (.literal 1 (by decide))
    lowest.integer? = .ok (-9223372036854775808) ∧ minusOne.integer? = .ok (-1) ∧
    Int.tmod (-9223372036854775808) (-1) = 0 ∧ isSigned 0 = true ∧
    (binary .mod lowest minusOne).toExpr.eval ⟨.null, .null, .null⟩ none =
      .ok (.number (.float (-0.0) (by decide))) ∧
    (binary .mod lowest minusOne).toExpr.eval ⟨.null, .null, .null⟩ none ≠
      .ok (.number (.int 0 (by decide))) := by
  intro minusOne
  have hvalue : (binary .mod lowest minusOne).toExpr.eval ⟨.null, .null, .null⟩ none =
      .ok (.number (.float (-0.0) (by decide))) := rfl
  refine ⟨rfl, rfl, by decide, by decide, hvalue, ?_⟩
  rw [hvalue]
  simp

end Arithmetic
end Sluice.Expr

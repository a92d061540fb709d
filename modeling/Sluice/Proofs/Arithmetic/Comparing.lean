import Sluice.Proofs.Arithmetic.Binary64
import Sluice.Proofs.Arithmetic.Integers

/-!
# Comparing integers

Two integers of 63 bits and a sign compare by value.  As soon as one of the two is larger, both are
compared as floats, that is by what they are rounded to.  Then two different integers can count as
equal, but they are close to each other, and no order is ever turned around.
-/

namespace Sluice.Expr

open Decimal

/-- Two different integers that count as equal. -/
def Confused (i j : Int) : Prop :=
  ¬ (isSigned i = true ∧ isSigned j = true) ∧ i ≠ j ∧ roundedInt i = roundedInt j

instance (i j : Int) : Decidable (Confused i j) := by unfold Confused; infer_instance

/-- The operators that compare. -/
inductive Relation where
  | eq | ne | lt | le | gt | ge
deriving DecidableEq, Repr

def Relation.toBinaryOp : Relation → BinaryOp
  | .eq => .eq | .ne => .ne | .lt => .lt | .le => .le | .gt => .gt | .ge => .ge

def Relation.holds (r : Relation) (i j : Int) : Bool :=
  match r with
  | .eq => i = j
  | .ne => i ≠ j
  | .lt => i < j
  | .le => i ≤ j
  | .gt => j < i
  | .ge => j ≤ i

/-- Whether a value stands for an integer, as this integer or as the float nearest to it. -/
def Represents (v : Json) (i : Int) : Prop :=
  match v with
  | .number (.int j _) => i = j
  | .number (.float x _) => (Float.ofInt i == x) = true
  | _ => False

variable {i j k : Int} {fi : Number.Fits i} {fj : Number.Fits j} {fk : Number.Fits k}

theorem natAbs_lt_of_fits (h : Number.Fits i) : i.natAbs < 2 ^ 64 := by
  unfold Number.Fits at h
  omega

/-! ## As floats -/

theorem compare_ofInt (fi : Number.Fits i) (fj : Number.Fits j) :
    (Float.ofInt i).toModel.unpack.compare (Float.ofInt j).toModel.unpack =
      some (compare (roundedInt i) (roundedInt j)) :=
  (isInteger_ofInt (natAbs_lt_of_fits fi)).compare (isInteger_ofInt (natAbs_lt_of_fits fj))

theorem ofInt_beq_ofInt (fi : Number.Fits i) (fj : Number.Fits j) :
    (Float.ofInt i == Float.ofInt j) = decide (roundedInt i = roundedInt j) := by
  have hbeq : (Float.ofInt i == Float.ofInt j) =
      ((Float.ofInt i).toModel.unpack.compare (Float.ofInt j).toModel.unpack == some .eq) := rfl
  rw [hbeq, compare_ofInt fi fj, Bool.eq_iff_iff]
  simp

theorem ofInt_lt_ofInt (fi : Number.Fits i) (fj : Number.Fits j) :
    Float.ofInt i < Float.ofInt j ↔ roundedInt i < roundedInt j := by
  have hlt : Float.ofInt i < Float.ofInt j ↔ decide
      (((Float.ofInt i).toModel.unpack.compare (Float.ofInt j).toModel.unpack == some .lt) = true) =
      true := Iff.rfl
  rw [hlt, compare_ofInt fi fj]
  simp [compare_lt_iff_lt]

theorem floatOrdering_ofInt (fi : Number.Fits i) (fj : Number.Fits j) :
    floatOrdering (Float.ofInt i) (Float.ofInt j) = compare (roundedInt i) (roundedInt j) := by
  simp only [floatOrdering, ofInt_lt_ofInt fi fj, ofInt_beq_ofInt fi fj, decide_eq_true_eq]
  rfl

/-! ## As numbers -/

theorem toSigned?_int (fi : Number.Fits i) :
    (Number.int i fi).toSigned? = if isSigned i = true then some i else none := by
  have : isSigned i = true ↔ i < 9223372036854775808 := by
    rw [isSigned_iff]
    exact and_iff_right fi.1
  simp only [Number.toSigned?, this]

/-- Between two integers in range equality and order are those of the integers, otherwise those of
what they are rounded to. -/
theorem compared (fi : Number.Fits i) (fj : Number.Fits j) :
    let exact := isSigned i = true ∧ isSigned j = true
    (Json.number (.int i fi)).equals (.number (.int j fj)) =
        (if exact then decide (i = j) else decide (roundedInt i = roundedInt j)) ∧
      (Number.int i fi).ordering (.int j fj) =
        (if exact then compare i j else compare (roundedInt i) (roundedInt j)) := by
  have hi := toSigned?_int fi
  have hj := toSigned?_int fj
  by_cases hsi : isSigned i = true
  · by_cases hsj : isSigned j = true
    · simp [Json.equals, Number.ordering, hi, hj, hsi, hsj]
    · simp [Json.equals, Number.ordering, hi, hj, hsi, hsj, Number.toFloat, ofInt_beq_ofInt fi fj,
        floatOrdering_ofInt fi fj]
  · simp [Json.equals, Number.ordering, hi, hj, hsi, Number.toFloat, ofInt_beq_ofInt fi fj,
      floatOrdering_ofInt fi fj]

/-- What is rounded to different integers lies in the same order as these. -/
theorem compare_roundedInt (h : i = j ∨ roundedInt i ≠ roundedInt j) :
    compare (roundedInt i) (roundedInt j) = compare i j := by
  rcases Int.lt_trichotomy i j with hlt | rfl | hgt
  · have hle := roundedInt_mono (Int.le_of_lt hlt)
    rw [compare_lt_iff_lt.2 hlt, compare_lt_iff_lt]
    omega
  · rw [compare_eq_iff_eq.2 rfl, compare_eq_iff_eq.2 rfl]
  · have hle := roundedInt_mono (Int.le_of_lt hgt)
    rw [compare_gt_iff_gt.2 hgt, compare_gt_iff_gt]
    omega

theorem compared_of_not_confused (fi : Number.Fits i) (fj : Number.Fits j) (h : ¬ Confused i j) :
    (Json.number (.int i fi)).equals (.number (.int j fj)) = decide (i = j) ∧
      (Number.int i fi).ordering (.int j fj) = compare i j := by
  obtain ⟨hequals, hordering⟩ := compared fi fj
  rw [hequals, hordering]
  by_cases hexact : isSigned i = true ∧ isSigned j = true
  · rw [if_pos hexact, if_pos hexact]
    exact ⟨rfl, rfl⟩
  · have hdistinct : i = j ∨ roundedInt i ≠ roundedInt j := by
      by_cases heq : i = j
      · exact .inl heq
      · exact .inr fun hround => h ⟨hexact, heq, hround⟩
    rw [if_neg hexact, if_neg hexact]
    refine ⟨?_, compare_roundedInt hdistinct⟩
    rcases hdistinct with rfl | hne
    · simp
    · have : i ≠ j := fun heq => hne (by rw [heq])
      simp [hne, this]

theorem compared_of_confused (fi : Number.Fits i) (fj : Number.Fits j) (h : Confused i j) :
    (Json.number (.int i fi)).equals (.number (.int j fj)) = true ∧
      (Number.int i fi).ordering (.int j fj) = .eq := by
  obtain ⟨hequals, hordering⟩ := compared fi fj
  rw [hequals, hordering, if_neg h.1, if_neg h.1]
  exact ⟨decide_eq_true h.2.2, compare_eq_iff_eq.2 h.2.2⟩

/-- Only close neighbours are confused, and one of them is beyond 63 bits. -/
theorem Confused.near (fi : Number.Fits i) (fj : Number.Fits j) (h : Confused i j) :
    (9223372036854775808 ≤ i ∨ 9223372036854775808 ≤ j) ∧ (i - j).natAbs ≤ 2048 := by
  obtain ⟨hrange, -, hround⟩ := h
  have hi := roundedInt_near (natAbs_lt_of_fits fi)
  have hj := roundedInt_near (natAbs_lt_of_fits fj)
  rw [isSigned_iff, isSigned_iff] at hrange
  unfold Number.Fits at fi fj
  omega

/-! ## Operators -/

theorem applyBinary_relation (r : Relation) (fi : Number.Fits i) (fj : Number.Fits j)
    (h : ¬ Confused i j) :
    applyBinary r.toBinaryOp (.number (.int i fi)) (.number (.int j fj)) =
      .ok (.bool (r.holds i j)) := by
  obtain ⟨hequals, hordering⟩ := compared_of_not_confused fi fj h
  have hordering : Json.ordering (.number (.int i fi)) (.number (.int j fj)) = .ok (compare i j) :=
    congrArg Except.ok hordering
  have hlt : compare i j = .lt ↔ i < j := compare_lt_iff_lt
  have hgt : compare i j = .gt ↔ j < i := compare_gt_iff_gt
  cases r with
  | eq | ne => simp [Relation.toBinaryOp, applyBinary, hequals, Relation.holds]
  | lt | le | gt | ge =>
    simp only [Relation.toBinaryOp, applyBinary, hordering, Relation.holds]
    simp [bind, Except.bind, pure, Except.pure, hlt, hgt]

theorem Relation.holds_trans {r : Relation} (hr : r ≠ .ne) (hij : r.holds i j = true)
    (hjk : r.holds j k = true) : r.holds i k = true := by
  cases r with
  | ne => exact absurd rfl hr
  | eq | lt | le | gt | ge =>
    simp only [Relation.holds, decide_eq_true_eq] at hij hjk ⊢
    omega

theorem equals_iff_represents (fi : Number.Fits i) (v : Json)
    (h : ∀ (j : Int) (fj : Number.Fits j), v = .number (.int j fj) → ¬ Confused i j) :
    (Json.number (.int i fi)).equals v = true ↔ Represents v i := by
  cases v with
  | number n =>
    cases n with
    | int j fj =>
      rw [(compared_of_not_confused fi fj (h j fj rfl)).1]
      exact decide_eq_true_iff
    | float x finite =>
      have hequals : (Json.number (.int i fi)).equals (.number (.float x finite)) =
          (Float.ofInt i == x) := by
        have hx : (Number.float x finite).toSigned? = none := rfl
        cases hi : (Number.int i fi).toSigned? <;> simp only [Json.equals, hi, hx] <;> rfl
      rw [hequals]
      exact Iff.rfl
  | _ => simp [Json.equals, Json.same, Represents]

/-- An integer is in a list that holds it, as an integer or as its nearest float, and no other. -/
theorem contains_iff_represents (fi : Number.Fits i) (items : List Json)
    (h : ∀ (j : Int) (fj : Number.Fits j), .number (.int j fj) ∈ items → ¬ Confused i j) :
    ∃ b : Bool, Json.contains (.number (.int i fi)) (.list items) = .ok b ∧
      (b = true ↔ ∃ v ∈ items, Represents v i) := by
  refine ⟨items.any (Json.number (.int i fi)).equals, rfl, ?_⟩
  rw [List.any_eq_true]
  constructor
  · rintro ⟨v, hv, hequals⟩
    exact ⟨v, hv, (equals_iff_represents fi v fun j fj hj => h j fj (hj ▸ hv)).1 hequals⟩
  · rintro ⟨v, hv, hrepresents⟩
    exact ⟨v, hv, (equals_iff_represents fi v fun j fj hj => h j fj (hj ▸ hv)).2 hrepresents⟩

theorem eval_binary_of_values {view : View} {subject : Option Json} {left right : Expr} {l r : Json}
    {op : BinaryOp} (hop : op ≠ .and ∧ op ≠ .or ∧ op ≠ .coalesce)
    (hl : left.eval view subject = .ok l) (hr : right.eval view subject = .ok r) :
    (Expr.binary op left right).eval view subject = applyBinary op l r := by
  cases op with
  | and => exact absurd rfl hop.1
  | or => exact absurd rfl hop.2.1
  | coalesce => exact absurd rfl hop.2.2
  | _ => rw [eval, hl, hr] <;> first | rfl | simp

theorem Relation.toBinaryOp_ne (r : Relation) :
    r.toBinaryOp ≠ .and ∧ r.toBinaryOp ≠ .or ∧ r.toBinaryOp ≠ .coalesce := by
  cases r <;> decide

/-- Integers that are not confused compare by value: equality, order, the six operators, which are
transitive but for `!=`, and the membership in a list.  Confused integers count as equal; they are
close to each other, and one of them is beyond 63 bits. -/
theorem integers_compare_by_value (view : View) (subject : Option Json) :
    (∀ (i j : Int) (fi : Number.Fits i) (fj : Number.Fits j),
      let l := Json.number (.int i fi)
      let r := Json.number (.int j fj)
      (¬ Confused i j → l.equals r = decide (i = j) ∧ l.ordering r = .ok (compare i j)) ∧
      (Confused i j → l.equals r = true ∧ l.ordering r = .ok .eq ∧
        (9223372036854775808 ≤ i ∨ 9223372036854775808 ≤ j) ∧ (i - j).natAbs ≤ 2048)) ∧
    (∀ (r : Relation) (i j : Int) (fi : Number.Fits i) (fj : Number.Fits j) (left right : Expr),
      left.eval view subject = .ok (.number (.int i fi)) →
      right.eval view subject = .ok (.number (.int j fj)) → ¬ Confused i j →
      (Expr.binary r.toBinaryOp left right).eval view subject = .ok (.bool (r.holds i j))) ∧
    (∀ (r : Relation) (i j k : Int) (fi : Number.Fits i) (fj : Number.Fits j) (fk : Number.Fits k),
      r ≠ .ne → ¬ Confused i j → ¬ Confused j k → ¬ Confused i k →
      let compares := fun l m => applyBinary r.toBinaryOp (.number l) (.number m) = .ok (.bool true)
      compares (.int i fi) (.int j fj) → compares (.int j fj) (.int k fk) →
        compares (.int i fi) (.int k fk)) ∧
    (∀ (i : Int) (fi : Number.Fits i) (items : List Json) (left right : Expr),
      left.eval view subject = .ok (.number (.int i fi)) →
      right.eval view subject = .ok (.list items) →
      (∀ (j : Int) (fj : Number.Fits j), .number (.int j fj) ∈ items → ¬ Confused i j) →
      ∃ b : Bool, (Expr.binary .isIn left right).eval view subject = .ok (.bool b) ∧
        (b = true ↔ ∃ v ∈ items, Represents v i)) := by
  refine ⟨?_, ?_, ?_, ?_⟩
  · intro i j fi fj l r
    refine ⟨fun h => ?_, fun h => ?_⟩
    · obtain ⟨hequals, hordering⟩ := compared_of_not_confused fi fj h
      exact ⟨hequals, congrArg Except.ok hordering⟩
    · obtain ⟨hequals, hordering⟩ := compared_of_confused fi fj h
      exact ⟨hequals, congrArg Except.ok hordering, h.near fi fj⟩
  · intro r i j fi fj left right hl hr h
    rw [eval_binary_of_values r.toBinaryOp_ne hl hr]
    exact applyBinary_relation r fi fj h
  · intro r i j k fi fj fk hr hij hjk hik compares
    -- where no two of the integers are confused, the operators are those of the integers
    have hcompares : ∀ {a b : Int} (fa : Number.Fits a) (fb : Number.Fits b), ¬ Confused a b →
        (compares (.int a fa) (.int b fb) ↔ r.holds a b = true) := by
      intro a b fa fb h
      change applyBinary r.toBinaryOp (.number (.int a fa)) (.number (.int b fb)) = _ ↔ _
      rw [applyBinary_relation r fa fb h]
      simp
    rw [hcompares fi fj hij, hcompares fj fk hjk, hcompares fi fk hik]
    exact Relation.holds_trans hr
  · intro i fi items left right hl hr h
    obtain ⟨b, hb, hiff⟩ := contains_iff_represents fi items h
    refine ⟨b, ?_, hiff⟩
    rw [eval_binary_of_values (by decide) hl hr, applyBinary, hb]
    rfl

/-- The greatest integer of 63 bits is told from the greatest of 64 bits, and not found in a list of
this and of floats. -/
theorem integers_compare_by_value_at_limits :
    let view : View := ⟨.null, .null, .null⟩
    let signed : Json := .number (.int 9223372036854775807 (by decide))
    let greatest : Json := .number (.int 18446744073709551615 (by decide))
    let next : Json := .number (.int 18446744073709551614 (by decide))
    (signed.equals greatest = false ∧ signed.ordering greatest = .ok .lt) ∧
    (greatest.equals next = true ∧ greatest.ordering next = .ok .eq) ∧
    (Expr.binary .le (.literal signed) (.literal greatest)).eval view none = .ok (.bool true) ∧
    applyBinary .lt (.number (.int (-1) (by decide))) greatest = .ok (.bool true) ∧
    ∃ b : Bool, (Expr.binary .isIn (.literal signed)
        (.list [.literal greatest, .literal (.number (.float 0.5 (by decide)))])).eval view none =
      .ok (.bool b) ∧
      (b = true ↔ ∃ v ∈ [greatest, .number (.float 0.5 (by decide))],
        Represents v 9223372036854775807) := by
  intro view signed greatest next
  obtain ⟨hnumbers, hoperators, htransitive, hmember⟩ := integers_compare_by_value view none
  have hsigned : ¬ Confused 9223372036854775807 18446744073709551615 := by decide
  refine ⟨?_, ?_, ?_, ?_, ?_⟩
  · exact (hnumbers _ _ (by decide) (by decide)).1 hsigned
  · obtain ⟨hequals, hordering, -⟩ :=
      (hnumbers 18446744073709551615 18446744073709551614 (by decide) (by decide)).2 (by decide)
    exact ⟨hequals, hordering⟩
  · exact hoperators .le _ _ _ _ (.literal signed) (.literal greatest) rfl rfl hsigned
  · exact htransitive .lt (-1) 9223372036854775807 18446744073709551615 (by decide) (by decide)
      (by decide) (by decide) (by decide) hsigned (by decide) rfl rfl
  · refine hmember _ _ _ (.literal signed) _ rfl rfl ?_
    intro j fj hj
    obtain rfl : j = 18446744073709551615 := by simpa [greatest] using hj
    exact hsigned

/-- The two greatest integers of 64 bits are taken for one.  Equality is not transitive either: the
least integer beyond 63 bits equals the two before it, which differ. -/
theorem greatest_integers_confused :
    let integer : (i : Int) → Number.Fits i → Json := fun i fits => .number (.int i fits)
    let greatest := integer 18446744073709551615 (by decide)
    let next := integer 18446744073709551614 (by decide)
    let a := integer 9223372036854775807 (by decide)
    let b := integer 9223372036854775808 (by decide)
    let c := integer 9223372036854775806 (by decide)
    greatest.equals next = true ∧ greatest.ordering next = .ok .eq ∧
    greatest.contains (.list [next]) = .ok true ∧
    a.equals b = true ∧ b.equals c = true ∧ a.equals c = false := by
  refine ⟨rfl, rfl, rfl, rfl, rfl, rfl⟩

end Sluice.Expr

import Mathlib.Order.Compare
import Sluice.Proofs.Json.Equality

/-!
# Operators that compare

All six operators read one outcome, that of the order, although `==` and `!=` compute theirs on
their own.  So they fit together: one of `<`, `==` and `>` holds, the others are negations, and
exchanging both sides turns the outcome around.

* `Json.Comparable` : numbers among each other, and texts among each other, have an order;
* `Relation.accepts` : the outcomes for which an operator holds;
* `Relation.swapped` : the operator that says the same of exchanged sides.
-/

namespace Sluice

/-! ## Values that have an order -/

namespace Json

variable {l r : Json} {o : Ordering}

/-- Whether two values have an order. -/
def Comparable (l r : Json) : Prop :=
  (∃ m n, l = .number m ∧ r = .number n) ∨ ∃ s t, l = .string s ∧ r = .string t

theorem Comparable.symm (h : l.Comparable r) : r.Comparable l := by
  rcases h with ⟨m, n, rfl, rfl⟩ | ⟨s, t, rfl, rfl⟩
  · exact .inl ⟨n, m, rfl, rfl⟩
  · exact .inr ⟨t, s, rfl, rfl⟩

theorem comparable_comm : l.Comparable r ↔ r.Comparable l := ⟨.symm, .symm⟩

theorem exists_ordering_eq_ok_iff : (∃ o, l.ordering r = .ok o) ↔ l.Comparable r := by
  constructor
  · rintro ⟨o, ho⟩
    unfold ordering at ho
    split at ho
    · next m n => exact .inl ⟨m, n, rfl, rfl⟩
    · next s t => exact .inr ⟨s, t, rfl, rfl⟩
    · cases ho
  · rintro (⟨m, n, rfl, rfl⟩ | ⟨s, t, rfl, rfl⟩) <;> exact ⟨_, rfl⟩

theorem exists_ordering_eq_error_iff : (∃ e, l.ordering r = .error e) ↔ ¬ l.Comparable r := by
  rw [← exists_ordering_eq_ok_iff]
  cases l.ordering r <;> simp

theorem compareOfLessAndEq_swap (s t : String) :
    compareOfLessAndEq t s = (compareOfLessAndEq s t).swap :=
  compareOfLessAndEq_eq_swap String.le_antisymm String.le_total String.not_le

theorem ordering_swap (h : l.ordering r = .ok o) : r.ordering l = .ok o.swap := by
  rcases exists_ordering_eq_ok_iff.1 ⟨o, h⟩ with ⟨m, n, rfl, rfl⟩ | ⟨s, t, rfl, rfl⟩
  · obtain rfl := Except.ok.inj h
    exact congrArg Except.ok (m.ordering_swap n)
  · obtain rfl := Except.ok.inj h
    exact congrArg Except.ok (compareOfLessAndEq_swap s t)

/-- Values that have an order are equal where the order says so. -/
theorem equals_of_ordering (h : l.ordering r = .ok o) : l.equals r = decide (o = .eq) := by
  rcases exists_ordering_eq_ok_iff.1 ⟨o, h⟩ with ⟨m, n, rfl, rfl⟩ | ⟨s, t, rfl, rfl⟩
  · obtain rfl := Except.ok.inj h
    exact m.equals_eq_ordering n
  · obtain rfl := Except.ok.inj h
    exact decide_eq_decide.2 (compareOfLessAndEq_eq_eq String.le_refl String.not_le).symm

end Json

namespace Expr

/-! ## Operators and outcomes -/

namespace Relation

/-- Whether an operator holds for an outcome of the order. -/
def accepts (rel : Relation) (o : Ordering) : Bool :=
  match rel with
  | .eq => o = .eq
  | .ne => o ≠ .eq
  | .lt => o = .lt
  | .le => o ≠ .gt
  | .gt => o = .gt
  | .ge => o ≠ .lt

/-- The operator that says the same of exchanged sides. -/
def swapped : Relation → Relation
  | .eq => .eq | .ne => .ne | .lt => .gt | .le => .ge | .gt => .lt | .ge => .le

theorem accepts_swapped (rel : Relation) (o : Ordering) :
    rel.swapped.accepts o.swap = rel.accepts o := by
  cases rel <;> cases o <;> rfl

theorem existsUnique_accepts (o : Ordering) :
    ∃! rel, rel ∈ [Relation.lt, .eq, .gt] ∧ rel.accepts o = true := by
  cases o with
  | lt => exact ⟨.lt, by decide, fun rel h => by cases rel <;> simp_all [accepts]⟩
  | eq => exact ⟨.eq, by decide, fun rel h => by cases rel <;> simp_all [accepts]⟩
  | gt => exact ⟨.gt, by decide, fun rel h => by cases rel <;> simp_all [accepts]⟩

end Relation

variable {l r : Json} {o : Ordering}

theorem applyBinary_of_ordering (rel : Relation) (h : l.ordering r = .ok o) :
    applyBinary rel.toBinaryOp l r = .ok (.bool (rel.accepts o)) := by
  cases rel with
  | eq => rw [Relation.toBinaryOp, applyBinary, Json.equals_of_ordering h, Relation.accepts]
  | ne =>
    rw [Relation.toBinaryOp, applyBinary, Json.equals_of_ordering h, Relation.accepts, decide_not]
  | lt | le | gt | ge =>
    rw [Relation.toBinaryOp, applyBinary, h]
    rfl

theorem applyBinary_of_ordering_error {e : EvalError} {rel : Relation} (hrel : rel ∉ [.eq, .ne])
    (h : l.ordering r = .error e) : applyBinary rel.toBinaryOp l r = .error e := by
  cases rel with
  | eq | ne => exact absurd (by decide) hrel
  | lt | le | gt | ge =>
    rw [Relation.toBinaryOp, applyBinary, h]
    rfl

theorem exists_applyBinary_eq_error_iff {rel : Relation} (hrel : rel ∉ [.eq, .ne]) :
    (∃ e, applyBinary rel.toBinaryOp l r = .error e) ↔ ¬ l.Comparable r := by
  rw [← Json.exists_ordering_eq_error_iff]
  cases h : l.ordering r with
  | ok o => simp [applyBinary_of_ordering rel h]
  | error e => simp [applyBinary_of_ordering_error hrel h]

/-- Between two numbers or two texts exactly one of `<`, `==` and `>` holds, `<=`, `>=` and `!=` are
the negations of `>`, `<` and `==`, and exchanging the sides exchanges `<` with `>` and `<=` with
`>=`.  Between other values only `==` and `!=` do not fail, whichever side is which.  Equality is
reflexive and symmetric for all values whose maps have no key twice. -/
theorem comparisons_coherent {view : View} {subject : Option Json} {left right : Expr}
    (hl : left.eval view subject = .ok l) (hr : right.eval view subject = .ok r) :
    let compared := fun rel : Relation => (binary rel.toBinaryOp left right).eval view subject
    let exchanged := fun rel : Relation => (binary rel.toBinaryOp right left).eval view subject
    (l.Comparable r → ∃ holds : Relation → Bool,
      (∀ rel, compared rel = .ok (.bool (holds rel)) ∧
        exchanged rel.swapped = .ok (.bool (holds rel))) ∧
      (∃! rel, rel ∈ [Relation.lt, .eq, .gt] ∧ holds rel = true) ∧
      holds .le = !holds .gt ∧ holds .ge = !holds .lt ∧ holds .ne = !holds .eq) ∧
    (∀ rel, rel ∉ [Relation.eq, .ne] →
      ((∃ e, compared rel = .error e) ↔ ¬ l.Comparable r) ∧
      ((∃ e, exchanged rel = .error e) ↔ ¬ l.Comparable r)) ∧
    (∃ b, compared .eq = .ok (.bool b) ∧ compared .ne = .ok (.bool !b) ∧
      (l.WellFormed → r.WellFormed →
        exchanged .eq = .ok (.bool b) ∧ exchanged .ne = .ok (.bool !b))) ∧
    (l.WellFormed → (binary .eq left left).eval view subject = .ok (.bool true)) := by
  intro compared exchanged
  have hcompared : ∀ rel, compared rel = applyBinary rel.toBinaryOp l r := fun rel =>
    eval_binary_of_values rel.toBinaryOp_ne hl hr
  have hexchanged : ∀ rel, exchanged rel = applyBinary rel.toBinaryOp r l := fun rel =>
    eval_binary_of_values rel.toBinaryOp_ne hr hl
  refine ⟨fun h => ?_, fun rel hrel => ?_, ⟨l.equals r, hcompared .eq, hcompared .ne,
    fun hwl hwr => ?_⟩, fun hw => ?_⟩
  · obtain ⟨o, ho⟩ := Json.exists_ordering_eq_ok_iff.2 h
    refine ⟨fun rel => rel.accepts o, fun rel => ⟨?_, ?_⟩, Relation.existsUnique_accepts o, ?_⟩
    · rw [hcompared, applyBinary_of_ordering rel ho]
    · rw [hexchanged, applyBinary_of_ordering rel.swapped (Json.ordering_swap ho),
        Relation.accepts_swapped]
    · cases o <;> exact ⟨rfl, rfl, rfl⟩
  · rw [hcompared, hexchanged, exists_applyBinary_eq_error_iff hrel,
      exists_applyBinary_eq_error_iff hrel, Json.comparable_comm]
    exact ⟨Iff.rfl, Iff.rfl⟩
  · rw [hexchanged, hexchanged, Json.equals_comm hwl hwr]
    exact ⟨rfl, rfl⟩
  · rw [eval_binary_of_values (by decide) hl hl, applyBinary, Json.equals_self hw]

/-- The greatest integer of 64 bits and a float have an order.  Two maps do not, but they are equal,
whatever the order of their keys, if their values are. -/
theorem comparisons_coherent_mixed :
    let view : View := ⟨.null, .null, .null⟩
    let greatest : Expr := .literal (.number (.int 18446744073709551615 (by decide)))
    let half : Expr := .literal (.number (.float 0.5 (by decide)))
    (∃ holds : Relation → Bool,
      (∀ rel, (binary rel.toBinaryOp greatest half).eval view none = .ok (.bool (holds rel)) ∧
        (binary rel.swapped.toBinaryOp half greatest).eval view none = .ok (.bool (holds rel))) ∧
      (∃! rel, rel ∈ [Relation.lt, .eq, .gt] ∧ holds rel = true) ∧
      holds .le = !holds .gt ∧ holds .ge = !holds .lt ∧ holds .ne = !holds .eq) ∧
    let forth : Expr := .literal (.map [("a", .null), ("b", .list [.bool true])])
    let back : Expr := .literal (.map [("b", .list [.bool true]), ("a", .null)])
    (binary .eq forth forth).eval view none = .ok (.bool true) ∧
    (∃ b, (binary .eq forth back).eval view none = .ok (.bool b) ∧
      (binary .eq back forth).eval view none = .ok (.bool b)) ∧
    ∃ e, (binary .lt forth back).eval view none = .error e := by
  intro view greatest half
  refine ⟨?_, ?_⟩
  · exact (comparisons_coherent (show greatest.eval view none = .ok _ from rfl)
      (show half.eval view none = .ok _ from rfl)).1 (.inl ⟨_, _, rfl, rfl⟩)
  · intro forth back
    obtain ⟨-, horder, ⟨b, hb, -, hexchanged⟩, hself⟩ :=
      comparisons_coherent (show forth.eval view none = .ok _ from rfl)
        (show back.eval view none = .ok _ from rfl)
    refine ⟨hself ?_, ⟨b, hb, (hexchanged ?_ ?_).1⟩, ((horder .lt (by decide)).1).2 ?_⟩
    · simp [Json.WellFormed, Json.WellFormedFields, Json.WellFormedItems, Fields.keys]
    · simp [Json.WellFormed, Json.WellFormedFields, Json.WellFormedItems, Fields.keys]
    · simp [Json.WellFormed, Json.WellFormedFields, Json.WellFormedItems, Fields.keys]
    · rintro (⟨m, n, hm, -⟩ | ⟨s, t, hs, -⟩)
      · cases hm
      · cases hs

end Expr

end Sluice

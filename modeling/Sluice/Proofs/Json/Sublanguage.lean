import Sluice.Proofs.Grammar.Texts
import Sluice.Proofs.Json.Spelling

/-!
# JSON is a sublanguage of the expressions

Whatever an expression sees, the spelling of a value has this value, so the compact text of a value
behind `=` evaluates to the value itself: the same keys in the same order, the same texts, and
integers that are still integers.
-/

namespace Sluice

open Json

/-! ## Integers -/

theorem Number.toSigned?_ofNat {n : Nat} (h : n < 9223372036854775808) :
    (Number.ofNat n).toSigned? = some (n : Int) := by
  have hmin : min (n : Int) 18446744073709551615 = n := by omega
  have hlt : (n : Int) < 9223372036854775808 := by omega
  rw [Number.ofNat, Number.toSigned?]
  simp only [hmin, hlt, if_true]

theorem Number.ofInt?_of_fits {i : Int} (fits : Fits i) : ofInt? i = some (.int i fits) :=
  dif_pos fits

theorem Number.ofNat_natAbs {i : Int} (hpos : 0 ≤ i) (fits : Fits i) :
    Number.ofNat i.natAbs = .int i fits := by
  have hle : i < 18446744073709551616 := fits.2
  rw [Number.ofNat, Number.int.injEq]
  omega

/-- Zero less a natural of 63 bits is computed as an integer. -/
theorem applyUnary_neg_ofNat {n : Nat} (h : n < 9223372036854775808)
    (fits : Number.Fits (-(n : Int))) :
    Expr.applyUnary .neg (.number (.ofNat n)) = .ok (.number (.int (-n) fits)) := by
  have hsigned : isSigned (-(n : Int)) = true := by
    unfold isSigned
    exact decide_eq_true (by omega)
  have hexact : exactInteger? .sub 0 (n : Int) = some (-(n : Int)) := by
    have hzero : (0 : Int) - (n : Int) = -(n : Int) := by omega
    have hresult : exactResult .sub 0 (n : Int) = some (-(n : Int)) := congrArg some hzero
    rw [exactInteger?, if_neg (by simp), hresult, Option.filter_some, if_pos hsigned]
  have hleft : (Number.ofNat 0).toSigned? = some ((0 : Nat) : Int) :=
    Number.toSigned?_ofNat (by decide)
  have hsub : Expr.applyUnary .neg (.number (.ofNat n)) =
      onNumbers .sub (.ofNat 0) (.ofNat n) := rfl
  rw [hsub, onNumbers, hleft, Number.toSigned?_ofNat h]
  simp only [Int.ofNat_zero, hexact, Option.bind_some, Number.ofInt?_of_fits fits]
  rfl

/-! ## The spelling has the value -/

theorem eval_spelling_int (view : View) (subject : Option Json) {i : Int} (fits : Number.Fits i)
    (h : i.natAbs < 9223372036854775808) :
    (spelling (.number (.int i fits))).eval view subject = .ok (.number (.int i fits)) := by
  rw [spelling]
  by_cases hneg : i < 0
  · have habs : i = -(i.natAbs : Int) := by omega
    have hfits : Number.Fits (-(i.natAbs : Int)) := habs ▸ fits
    rw [if_pos hneg, Expr.eval, Expr.eval]
    refine (applyUnary_neg_ofNat h hfits).trans ?_
    simp only [← habs]
  · rw [if_neg hneg, Expr.eval, Number.ofNat_natAbs (Int.not_lt.1 hneg) fits]

mutual

theorem eval_spelling (view : View) (subject : Option Json) : ∀ v : Json, v.WellFormed →
    v.Integral → v.spelling.eval view subject = .ok v
  | .null, _, _ => rfl
  | .bool b, _, _ => rfl
  | .number (.int i fits), _, h => eval_spelling_int view subject fits h
  | .string s, _, _ => rfl
  | .list items, hw, h => by
    rw [spelling, Expr.eval, eval_spellingOfItems view subject items hw h]
    rfl
  | .map fields, hw, h => by
    rw [spelling, Expr.eval, eval_spellingOfFields view subject fields hw.2 h]
    exact congrArg (fun m => Except.ok (Json.map m)) (Fields.ofList_of_nodup hw.1)

theorem eval_spellingOfItems (view : View) (subject : Option Json) : ∀ items : List Json,
    WellFormedItems items → IntegralItems items →
    Expr.evalItems view subject (spellingOfItems items) = .ok items
  | [], _, _ => rfl
  | v :: rest, hw, h => by
    rw [spellingOfItems, Expr.evalItems, eval_spelling view subject v hw.1 h.1,
      eval_spellingOfItems view subject rest hw.2 h.2]
    rfl

theorem eval_spellingOfFields (view : View) (subject : Option Json) :
    ∀ fields : List (String × Json), WellFormedFields fields → IntegralFields fields →
    Expr.evalEntries view subject (spellingOfFields fields) = .ok fields
  | [], _, _ => rfl
  | (key, v) :: rest, hw, h => by
    rw [spellingOfFields, Expr.evalEntries, eval_spelling view subject v hw.1 h.1,
      eval_spellingOfFields view subject rest hw.2 h.2]
    rfl

end

/-! ## Behind `=` -/

theorem parse_text {v : Json} (h : v.Integral) : Expr.parse v.text = .ok v.spelling :=
  Expr.parse_of_lexes (lexes_print v h) delimited_nil ((derives_spelling v).loosen (by decide))

/-- The compact text of a value evaluates to the value itself, if its maps have no key twice and its
numbers are integers of 63 bits and a sign. -/
theorem evaluate_compact_text (view : View) {v : Json} (hw : v.WellFormed) (h : v.Integral) :
    Expr.evaluate view ("=" ++ v.text) = .ok v := by
  have hlist : ("=" ++ v.text).toList = '=' :: v.text.toList := by
    rw [String.toList_append]
    rfl
  rw [Expr.evaluate, hlist]
  simp only [String.ofList_toList, parse_text h]
  exact eval_spelling view none v hw h

/-- The ends of the range, keys out of order, and texts that look like expressions. -/
theorem evaluate_compact_text_nested :
    let v : Json := .map [
      ("z", .list [.number (.int (-9223372036854775807) (by decide)),
        .number (.int 9223372036854775807 (by decide)), .list [], .map [], .null]),
      ("=\"\\", .string "$.V[0] \x60\x01\x1f\n\"\\"),
      ("in", .map [("", .bool true), ("z", .bool false)])]
    let view : View := ⟨.null, .null, .null⟩
    v.WellFormed ∧ v.Integral ∧ Expr.evaluate view ("=" ++ v.text) = .ok v := by
  intro v view
  have hw : v.WellFormed := by simp [v, WellFormed, WellFormedItems, WellFormedFields, Fields.keys]
  have h : v.Integral := by simp [v, Integral, IntegralItems, IntegralFields]
  exact ⟨hw, h, evaluate_compact_text view hw h⟩

end Sluice

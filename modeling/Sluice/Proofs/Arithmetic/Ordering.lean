import Sluice.Proofs.Arithmetic.Comparing

/-!
# The order of numbers

Finite floats have an order: any two of them compare, the other way round with the opposite
outcome, and `==` holds where the outcome is equality.  Numbers are ordered as integers or as such
floats, and equality makes the choice between both as the order does.
-/

namespace Sluice

open Float.Model

/-! ## Finite floats -/

section Floats

variable {u v : UnpackedFloat} {x y : Float}

theorem UnpackedFloat.compare_swap (u v : UnpackedFloat) :
    v.compare u = (u.compare v).map Ordering.swap := by
  cases u with
  | notANumber => cases v <;> rfl
  | infinity s => cases s <;> cases v with
    | infinity s' => cases s' <;> rfl
    | _ => rfl
  | zero s => cases v with
    | infinity s' | finite s' => cases s' <;> rfl
    | _ => rfl
  | finite s m e hm => cases v with
    | infinity s' => cases s <;> cases s' <;> rfl
    | notANumber | zero => cases s <;> rfl
    | finite s' m' e' hm' =>
      have hexponent : compare e' e = (compare e e').swap := Std.OrientedOrd.eq_swap
      have hmantissa : compare m' m = (compare m m').swap := Std.OrientedOrd.eq_swap
      cases s <;> cases s' <;>
        simp [UnpackedFloat.compare, hexponent, hmantissa, Ordering.swap_then]

theorem UnpackedFloat.exists_compare (hu : u.isFinite = true) (hv : v.isFinite = true) :
    ∃ o, u.compare v = some o := by
  cases u with
  | notANumber | infinity => cases hu
  | zero s => cases v with
    | notANumber | infinity => cases hv
    | zero s' => exact ⟨_, rfl⟩
    | finite s' => cases s' <;> exact ⟨_, rfl⟩
  | finite s => cases v with
    | notANumber | infinity => cases hv
    | zero s' => cases s <;> exact ⟨_, rfl⟩
    | finite s' => cases s <;> cases s' <;> exact ⟨_, rfl⟩

theorem compare_eq_floatOrdering (hx : x.isFinite = true) (hy : y.isFinite = true) :
    x.toModel.unpack.compare y.toModel.unpack = some (floatOrdering x y) := by
  obtain ⟨o, ho⟩ := UnpackedFloat.exists_compare hx hy
  have hlt : x < y ↔
      decide ((x.toModel.unpack.compare y.toModel.unpack == some .lt) = true) = true := Iff.rfl
  have hbeq : (x == y) = (x.toModel.unpack.compare y.toModel.unpack == some .eq) := rfl
  rw [floatOrdering, ho]
  simp only [hlt, hbeq, ho]
  cases o <;> rfl

theorem floatOrdering_swap (hx : x.isFinite = true) (hy : y.isFinite = true) :
    floatOrdering y x = (floatOrdering x y).swap := by
  have h := UnpackedFloat.compare_swap x.toModel.unpack y.toModel.unpack
  rw [compare_eq_floatOrdering hx hy, compare_eq_floatOrdering hy hx] at h
  exact Option.some.inj h

theorem beq_eq_floatOrdering (hx : x.isFinite = true) (hy : y.isFinite = true) :
    (x == y) = decide (floatOrdering x y = .eq) := by
  have hbeq : (x == y) = (x.toModel.unpack.compare y.toModel.unpack == some .eq) := rfl
  rw [hbeq, compare_eq_floatOrdering hx hy, Bool.eq_iff_iff]
  simp

theorem float_beq_comm (hx : x.isFinite = true) (hy : y.isFinite = true) :
    (x == y) = (y == x) := by
  rw [beq_eq_floatOrdering hx hy, beq_eq_floatOrdering hy hx, floatOrdering_swap hx hy]
  simp

theorem float_beq_self (hx : x.isFinite = true) : (x == x) = true := by
  have h := Ordering.eq_eq_of_eq_swap (floatOrdering_swap hx hx)
  rw [beq_eq_floatOrdering hx hx, h]
  rfl

end Floats

/-! ## Numbers -/

theorem Decimal.IsInteger.isFinite {u : UnpackedFloat} {i : Int} (h : IsInteger u i) :
    u.isFinite = true := by
  cases h with
  | zero s => rfl
  | positive h | negative h =>
    obtain ⟨m, k, hm, rfl, -⟩ := h
    rfl

namespace Number

/-- An integer of 64 bits is never too large for a float. -/
theorem isFinite_toFloat (n : Number) : n.toFloat.isFinite = true := by
  cases n with
  | float x finite => exact finite
  | int i fits => exact (Decimal.isInteger_ofInt (Expr.natAbs_lt_of_fits fits)).isFinite

theorem same_comm (l r : Number) : l.same r = r.same l := by
  cases l with
  | int i fits => cases r with
    | int j fits' => exact decide_eq_decide.2 eq_comm
    | float y finite => rfl
  | float x finite => cases r with
    | int j fits => rfl
    | float y finite' => exact float_beq_comm finite finite'

theorem same_self (n : Number) : n.same n = true := by
  cases n with
  | int i fits => exact decide_eq_true rfl
  | float x finite => exact float_beq_self finite

theorem ordering_swap (l r : Number) : r.ordering l = (l.ordering r).swap := by
  have hfloats := floatOrdering_swap l.isFinite_toFloat r.isFinite_toFloat
  rw [ordering, ordering]
  cases l.toSigned? with
  | none => cases r.toSigned? <;> exact hfloats
  | some i => cases r.toSigned? with
    | none => exact hfloats
    | some j => exact Std.OrientedOrd.eq_swap

/-- Numbers are equal where their order says so. -/
theorem equals_eq_ordering (l r : Number) :
    (Json.number l).equals (.number r) = decide (l.ordering r = .eq) := by
  have hfloats := beq_eq_floatOrdering l.isFinite_toFloat r.isFinite_toFloat
  rw [Json.equals, ordering]
  cases l.toSigned? with
  | none => cases r.toSigned? <;> exact hfloats
  | some i => cases r.toSigned? with
    | none => exact hfloats
    | some j => exact decide_eq_decide.2 compare_eq_iff_eq.symm

end Number

end Sluice

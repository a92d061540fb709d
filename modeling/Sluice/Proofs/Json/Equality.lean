import Mathlib.Data.List.Perm.Subperm
import Sluice.Expr.Operation
import Sluice.Proofs.Arithmetic.Ordering
import Sluice.Proofs.Mappings

/-!
# Equality of values

Equality by structure is reflexive and symmetric on values whose maps have no key twice.  Of two
maps only one is looked through, but as both have the same number of keys, these are the same keys.

* `Json.same_self`, `Json.same_comm` : equality by structure;
* `Json.equals_self`, `Json.equals_comm` : equality, which takes numbers by value.
-/

namespace Sluice.Json

theorem sameFields_iff {as bs : Fields Json} : sameFields as bs = true ↔
    ∀ entry ∈ as, ∃ b, Fields.get? entry.1 bs = some b ∧ entry.2.same b = true := by
  induction as with
  | nil => simp [sameFields]
  | cons entry as ih =>
    obtain ⟨key, a⟩ := entry
    rw [sameFields, Bool.and_eq_true, ih, List.forall_mem_cons]
    refine and_congr_left fun _ => ?_
    cases Fields.get? key bs <;> simp

/-! ## Reflexivity -/

mutual

theorem same_self : ∀ {v : Json}, v.WellFormed → v.same v = true
  | .null, _ => rfl
  | .bool b, _ | .string s, _ => by rw [same, decide_eq_true_eq]
  | .number n, _ => by rw [same, n.same_self]
  | .list items, h => by
    rw [same]
    exact sameItems_self h
  | .map fields, h => by
    obtain ⟨hkeys, hvalues⟩ := h
    rw [same, decide_eq_true rfl, Bool.true_and, sameFields_iff]
    exact fun entry hentry => ⟨entry.2, Fields.get?_of_mem hkeys hentry,
      same_self_of_mem hvalues entry hentry⟩

theorem sameItems_self : ∀ {items : List Json}, WellFormedItems items →
    sameItems items items = true
  | [], _ => rfl
  | v :: rest, h => by rw [sameItems, same_self h.1, sameItems_self h.2, Bool.true_and]

theorem same_self_of_mem : ∀ {fields : Fields Json}, WellFormedFields fields →
    ∀ entry ∈ fields, entry.2.same entry.2 = true
  | [], _, entry, hentry => absurd hentry List.not_mem_nil
  | (key, v) :: rest, h, entry, hentry => by
    rcases List.mem_cons.1 hentry with rfl | hentry
    · exact same_self h.1
    · exact same_self_of_mem h.2 entry hentry

end

/-! ## Symmetry -/

/-- Maps of one size where the keys of the first are keys of the second have the same keys. -/
theorem keys_subset_of_sameFields {as bs : Fields Json} (hkeys : (Fields.keys as).Nodup)
    (hlength : as.length = bs.length) (h : sameFields as bs = true) :
    Fields.keys bs ⊆ Fields.keys as := by
  have hsubset : Fields.keys as ⊆ Fields.keys bs := by
    intro key hkey
    obtain ⟨entry, hentry, rfl⟩ := List.mem_map.1 hkey
    obtain ⟨b, hb, -⟩ := sameFields_iff.1 h entry hentry
    rw [← Fields.get?_isSome_iff, hb]
    rfl
  have hperm := (List.subperm_of_subset hkeys hsubset).perm_of_length_le (by
    rw [Fields.keys, Fields.keys, List.length_map, List.length_map, hlength])
  exact hperm.symm.subset

mutual

theorem same_symm : ∀ {v w : Json}, v.WellFormed → w.WellFormed → v.same w = true →
    w.same v = true
  | .null, w, _, _, h => by cases w <;> simp_all [same]
  | .bool b, w, _, _, h => by cases w <;> simp_all [same]
  | .string s, w, _, _, h => by cases w <;> simp_all [same]
  | .number n, w, _, _, h => by
    cases w <;> simp_all [same, Number.same_comm]
  | .list items, w, hv, hw, h => by
    cases w with
    | list items' => exact sameItems_symm hv hw h
    | _ => simp [same] at h
  | .map as, w, hv, hw, h => by
    cases w with
    | map bs =>
      rw [same, Bool.and_eq_true, decide_eq_true_eq] at h ⊢
      obtain ⟨hlength, hfields⟩ := h
      refine ⟨hlength.symm, sameFields_iff.2 fun entry hentry => ?_⟩
      have hkey := keys_subset_of_sameFields hv.1 hlength hfields (List.mem_map_of_mem hentry)
      obtain ⟨own, hown, hkeys⟩ := List.mem_map.1 hkey
      obtain ⟨b, hb, hsame⟩ := sameFields_iff.1 hfields own hown
      rw [hkeys, Fields.get?_of_mem hw.1 hentry] at hb
      obtain rfl := Option.some.inj hb
      exact ⟨own.2, hkeys ▸ Fields.get?_of_mem hv.1 hown,
        same_symm_of_mem hv.2 own hown (wellFormedFields_iff.1 hw.2 entry hentry) hsame⟩
    | _ => simp [same] at h

theorem sameItems_symm : ∀ {as bs : List Json}, WellFormedItems as → WellFormedItems bs →
    sameItems as bs = true → sameItems bs as = true
  | [], bs, _, _, h => by cases bs <;> simp_all [sameItems]
  | a :: as, [], _, _, h => by simp [sameItems] at h
  | a :: as, b :: bs, ha, hb, h => by
    rw [sameItems, Bool.and_eq_true] at h ⊢
    exact ⟨same_symm ha.1 hb.1 h.1, sameItems_symm ha.2 hb.2 h.2⟩

theorem same_symm_of_mem : ∀ {fields : Fields Json}, WellFormedFields fields →
    ∀ entry ∈ fields, ∀ {w : Json}, w.WellFormed → entry.2.same w = true → w.same entry.2 = true
  | [], _, entry, hentry, _, _, _ => absurd hentry List.not_mem_nil
  | (key, v) :: rest, h, entry, hentry, w, hw, hsame => by
    rcases List.mem_cons.1 hentry with rfl | hentry
    · exact same_symm h.1 hw hsame
    · exact same_symm_of_mem h.2 entry hentry hw hsame

end

theorem same_comm {v w : Json} (hv : v.WellFormed) (hw : w.WellFormed) : v.same w = w.same v :=
  Bool.eq_iff_iff.2 ⟨same_symm hv hw, same_symm hw hv⟩

/-! ## Numbers by value -/

theorem equals_self {v : Json} (h : v.WellFormed) : v.equals v = true := by
  cases v with
  | number n =>
    rw [Number.equals_eq_ordering, Ordering.eq_eq_of_eq_swap (n.ordering_swap n)]
    rfl
  | _ => exact same_self h

theorem equals_comm {v w : Json} (hv : v.WellFormed) (hw : w.WellFormed) :
    v.equals w = w.equals v := by
  cases v with
  | number m => cases w with
    | number n =>
      rw [Number.equals_eq_ordering, Number.equals_eq_ordering, m.ordering_swap n]
      simp
    | _ => rfl
  | _ => cases w <;> exact same_comm hv hw

end Sluice.Json

import Sluice.Expr.Function
import Sluice.Proofs.Failing
import Sluice.Proofs.Fuzzy.Distance

/-!
# The shortest candidate

All candidates between which `fuzzy` decides hold the needle, so the closest one is the shortest
one, and the search for the least distance finds the first of these.

* `Fuzzy.FirstShortest` : a candidate that holds the needle, none before is as short, none behind
  is shorter;
* `Fuzzy.Leading` : what the search knows of the candidates that it has seen.
-/

namespace Sluice

namespace Fuzzy

/-- The first candidate of those that are shortest, among those that hold the needle. -/
def FirstShortest (needle : List Char) (candidates : List String) (c : String) : Prop :=
  ∃ before after, candidates = before ++ c :: after ∧ needle.Sublist (fold c) ∧
    (∀ d ∈ before, needle.Sublist (fold d) → (fold c).length < (fold d).length) ∧
    ∀ d ∈ after, needle.Sublist (fold d) → (fold c).length ≤ (fold d).length

/-- The best candidate so far is the first shortest one, with its distance; none if none holds the
needle. -/
def Leading (needle : List Char) (seen : List String) : Option (Nat × String) → Prop
  | none => ∀ d ∈ seen, ¬ needle.Sublist (fold d)
  | some (least, c) => least = distance needle (fold c) ∧ FirstShortest needle seen c

section Search

variable {needle : List Char} {seen : List String} {c d : String}

theorem FirstShortest.length_le (h : FirstShortest needle seen c) (hd : d ∈ seen)
    (hhold : needle.Sublist (fold d)) : (fold c).length ≤ (fold d).length := by
  obtain ⟨before, after, rfl, -, hbefore, hafter⟩ := h
  rcases List.mem_append.1 hd with hd | hd
  · exact Nat.le_of_lt (hbefore d hd hhold)
  · rcases List.mem_cons.1 hd with rfl | hd
    · exact Nat.le_refl _
    · exact hafter d hd hhold

/-- One that is not shorter does not take the lead. -/
theorem FirstShortest.concat (h : FirstShortest needle seen c)
    (hd : needle.Sublist (fold d) → (fold c).length ≤ (fold d).length) :
    FirstShortest needle (seen ++ [d]) c := by
  obtain ⟨before, after, rfl, hhold, hbefore, hafter⟩ := h
  refine ⟨before, after ++ [d], by simp, hhold, hbefore, fun x hx => ?_⟩
  rcases List.mem_append.1 hx with hx | hx
  · exact hafter x hx
  · rw [List.mem_singleton.1 hx]
    exact hd

/-- One that is shorter than all before takes it. -/
theorem firstShortest_concat_self (hd : needle.Sublist (fold d))
    (h : ∀ x ∈ seen, needle.Sublist (fold x) → (fold d).length < (fold x).length) :
    FirstShortest needle (seen ++ [d]) d :=
  ⟨seen, [], rfl, hd, h, fun _ hx => absurd hx List.not_mem_nil⟩

theorem FirstShortest.sublist (h : FirstShortest needle seen c) : needle.Sublist (fold c) := by
  obtain ⟨_, _, _, hhold, _⟩ := h
  exact hhold

/-- The search looks at one more candidate. -/
theorem Leading.better {best : Option (Nat × String)} (h : Leading needle seen best) (d : String) :
    Leading needle (seen ++ [d]) (better needle best d) := by
  rw [Fuzzy.better]
  split
  · next hhold =>
    replace hhold := isSubsequence_iff.1 hhold
    cases best with
    | none => exact ⟨rfl, firstShortest_concat_self hhold fun x hx hx' => absurd hx' (h x hx)⟩
    | some leader =>
      obtain ⟨least, c⟩ := leader
      obtain ⟨rfl, hc⟩ := h
      dsimp only
      split
      · next hlt =>
        -- both hold the needle, so their distances differ as their lengths do
        rw [distance_lt_iff hhold hc.sublist] at hlt
        exact ⟨rfl, firstShortest_concat_self hhold fun x hx hx' =>
          Nat.lt_of_lt_of_le hlt (hc.length_le hx hx')⟩
      · next hge =>
        -- a tie goes to the earlier one
        rw [distance_lt_iff hhold hc.sublist] at hge
        exact ⟨rfl, hc.concat fun _ => Nat.le_of_not_lt hge⟩
  · next hhold =>
    replace hhold := fun hd => hhold (isSubsequence_iff.2 hd)
    cases best with
    | none =>
      intro x hx
      rcases List.mem_append.1 hx with hx | hx
      · exact h x hx
      · rw [List.mem_singleton.1 hx]
        exact hhold
    | some leader => exact ⟨h.1, h.2.concat fun hd => absurd hd hhold⟩

theorem Leading.foldl {best : Option (Nat × String)} (h : Leading needle seen best)
    (candidates : List String) :
    Leading needle (seen ++ candidates) (candidates.foldl (Fuzzy.better needle) best) := by
  induction candidates generalizing seen best with
  | nil => rwa [List.append_nil]
  | cons d candidates ih =>
    rw [List.foldl_cons, List.append_cons]
    exact ih (h.better d)

theorem leading_nil (needle : List Char) : Leading needle [] none :=
  fun _ hx => absurd hx List.not_mem_nil

/-- The search ends with the first shortest candidate. -/
theorem leading_foldl (needle : List Char) (candidates : List String) :
    Leading needle candidates (candidates.foldl (Fuzzy.better needle) none) :=
  (leading_nil needle).foldl candidates

theorem closest_eq_empty {needle : String} {candidates : List String}
    (h : ∀ c ∈ candidates, ¬ (fold needle).Sublist (fold c)) : closest needle candidates = "" := by
  have hlead := leading_foldl (fold needle) candidates
  rw [closest]
  cases hbest : candidates.foldl (better (fold needle)) none with
  | none => rfl
  | some leader =>
    rw [hbest] at hlead
    obtain ⟨before, after, rfl, hhold, -⟩ := hlead.2
    exact absurd hhold (h leader.2 (by simp))

theorem firstShortest_closest {needle : String} {candidates : List String}
    (h : ∃ c ∈ candidates, (fold needle).Sublist (fold c)) :
    FirstShortest (fold needle) candidates (closest needle candidates) := by
  have hlead := leading_foldl (fold needle) candidates
  rw [closest]
  cases hbest : candidates.foldl (better (fold needle)) none with
  | none =>
    rw [hbest] at hlead
    obtain ⟨c, hc, hhold⟩ := h
    exact absurd hhold (hlead c hc)
  | some leader =>
    rw [hbest] at hlead
    exact hlead.2

end Search

end Fuzzy

namespace Expr.Function

open Fuzzy

theorem textsOf_map_string (texts : List String) : textsOf (texts.map .string) = .ok texts := by
  rw [textsOf, mapM_eq_ok_iff, List.forall₂_map_left_iff]
  exact List.forall₂_same.2 fun _ _ => rfl

theorem exists_textsOf_error_iff {items : List Json} :
    (∃ e, textsOf items = .error e) ↔ ∃ item ∈ items, ∀ s, item ≠ .string s := by
  rw [textsOf, exists_mapM_eq_error_iff]
  refine exists_congr fun item => and_congr_right fun _ => ?_
  cases item <;> simp

theorem call_fuzzy_list (needle : String) (items : List Json) :
    call "fuzzy" [.string needle, .list items] =
      (textsOf items).map fun texts => .string (closest needle texts) := by
  have hcall : call "fuzzy" [.string needle, .list items] =
      textsOf items >>= fun texts => .ok (.string (closest needle texts)) := rfl
  rw [hcall]
  cases textsOf items <;> rfl

/-- `fuzzy` fails if and only if its second argument is no list of texts.  Otherwise it gives the
first of the shortest candidates that hold the characters of the needle in order, both in folded
form, and the empty text if none does.  For between texts of which one holds the other, the edit
distance is the difference of their lengths. -/
theorem fuzzy_first_shortest (needle : String) :
    (∀ second, (∃ e, call "fuzzy" [.string needle, second] = .error e) ↔
      (∀ items, second ≠ .list items) ∨
        ∃ items, second = .list items ∧ ∃ item ∈ items, ∀ s, item ≠ .string s) ∧
    (∀ candidates : List String, ∃ result,
      call "fuzzy" [.string needle, .list (candidates.map .string)] = .ok (.string result) ∧
      ((∀ c ∈ candidates, ¬ (fold needle).Sublist (fold c)) → result = "") ∧
      ((∃ c ∈ candidates, (fold needle).Sublist (fold c)) →
        FirstShortest (fold needle) candidates result)) ∧
    (∀ a b : List Char, a.Sublist b → distance a b = b.length - a.length) := by
  refine ⟨fun second => ?_, fun candidates => ⟨closest needle candidates, ?_, closest_eq_empty,
    firstShortest_closest⟩, fun a b h => Nat.eq_sub_of_add_eq (distance_of_sublist h)⟩
  · cases second with
    | list items =>
      have hmap : (∃ e, (textsOf items).map (fun texts => Json.string (closest needle texts)) =
          .error e) ↔ ∃ e, textsOf items = .error e := by
        cases textsOf items <;> simp [Except.map]
      rw [call_fuzzy_list, hmap, exists_textsOf_error_iff]
      simp
    | _ => exact ⟨fun _ => .inl (by simp), fun _ => ⟨_, rfl⟩⟩
  · rw [call_fuzzy_list, textsOf_map_string]
    rfl

end Expr.Function

end Sluice

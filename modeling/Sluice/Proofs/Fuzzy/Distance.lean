import Mathlib.Data.List.Basic
import Sluice.Expr.Fuzzy

/-!
# The table of distances

Each row of the table holds the edit distances from a part of the first text to the parts of the
second one, so its last entry is the edit distance of both texts.  Where the second text holds the
first one, that is the difference of their lengths.

* `editDistance` : the edit distance by recursion;
* `distancesBehind`, `distances` : what a row holds.

The table reads texts from the left and grows their parts at the right.  Here these parts are
written backwards, for the recursion to remove what was added last.
-/

namespace Sluice.Fuzzy

/-- The edit distance by recursion: one character goes away, comes in or is replaced, which costs
one, or it stays. -/
def editDistance : List Char → List Char → Nat
  | [], bs => bs.length
  | _ :: as, [] => as.length + 1
  | a :: as, b :: bs =>
    min (min (editDistance as (b :: bs) + 1) (editDistance (a :: as) bs + 1))
      (editDistance as bs + if a = b then 0 else 1)
  termination_by as bs => as.length + bs.length

/-- The distances from `as` to `p` with one more character of the list at a time. -/
def distancesBehind (as p : List Char) : List Char → List Nat
  | [] => []
  | b :: bs => editDistance as (b :: p) :: distancesBehind as (b :: p) bs

/-- The distances from `as` to all beginnings of a list. -/
def distances (as bs : List Char) : List Nat := editDistance as [] :: distancesBehind as [] bs

/-! ## What the rows hold -/

section Rows

variable (as p bs : List Char)

@[simp]
theorem editDistance_nil : editDistance as [] = as.length := by
  cases as with
  | nil => rw [editDistance]
  | cons a as => rw [editDistance, List.length_cons]

theorem nextRow_distancesBehind (c : Char) :
    nextRow c (editDistance (c :: as) p) (editDistance as p) bs (distancesBehind as p bs) =
      distancesBehind (c :: as) p bs := by
  induction bs generalizing p with
  | nil => rfl
  | cons b bs ih =>
    have hentry : min (min (editDistance as (b :: p) + 1) (editDistance (c :: as) p + 1))
        (editDistance as p + if c = b then 0 else 1) = editDistance (c :: as) (b :: p) := by
      rw [editDistance]
    rw [distancesBehind, nextRow, hentry, ih, distancesBehind]

theorem step_distances (c : Char) : step bs (distances as bs) c = distances (c :: as) bs := by
  have hcorner : editDistance as [] + 1 = editDistance (c :: as) [] := by
    rw [editDistance_nil, editDistance_nil, List.length_cons]
  rw [distances, step, hcorner, nextRow_distancesBehind, distances]

/-- One row after the other, up to the last. -/
theorem foldl_step_distances (a : List Char) :
    a.foldl (step bs) (distances as bs) = distances (a.reverse ++ as) bs := by
  induction a generalizing as with
  | nil => rfl
  | cons c a ih =>
    rw [List.foldl_cons, step_distances, ih, List.reverse_cons, List.append_assoc]
    rfl

theorem distancesBehind_nil : distancesBehind [] p bs = List.range' (p.length + 1) bs.length := by
  induction bs generalizing p with
  | nil => rfl
  | cons b bs ih =>
    rw [distancesBehind, ih, editDistance, List.length_cons, List.length_cons, List.range'_succ]

theorem range_eq_distances : List.range (bs.length + 1) = distances [] bs := by
  rw [List.range_eq_range', List.range'_succ, distances, distancesBehind_nil, editDistance_nil]
  rfl

theorem getLastD_distancesBehind (least : Nat) :
    (editDistance as p :: distancesBehind as p bs).getLastD least =
      editDistance as (bs.reverse ++ p) := by
  induction bs generalizing p least with
  | nil => rfl
  | cons b bs ih =>
    rw [List.getLastD_cons, distancesBehind, ih, List.reverse_cons, List.append_assoc]
    rfl

end Rows

/-- The table computes the edit distance. -/
theorem distance_eq (a b : List Char) : distance a b = editDistance a.reverse b.reverse := by
  rw [distance, range_eq_distances, foldl_step_distances, distances, getLastD_distancesBehind,
    List.append_nil, List.append_nil]

example : distance "kitten".toList "sitting".toList = 3 := by decide

/-! ## Texts that hold others -/

section Sublists

variable {a b : List Char}

theorem editDistance_cons_right_le (a bs : List Char) (b : Char) :
    editDistance a (b :: bs) ≤ editDistance a bs + 1 := by
  cases a with
  | nil => simp [editDistance]
  | cons c as =>
    rw [editDistance]
    omega

theorem editDistance_cons_cons_le (c : Char) (as bs : List Char) :
    editDistance (c :: as) (c :: bs) ≤ editDistance as bs := by
  rw [editDistance, if_pos rfl]
  omega

/-- One edit makes a list longer by one character at most. -/
theorem length_le_editDistance (a b : List Char) : b.length ≤ a.length + editDistance a b := by
  fun_induction editDistance a b with
  | case1 bs => omega
  | case2 _ as => exact Nat.zero_le _
  | case3 a as b bs ih₁ ih₂ ih₃ =>
    simp only [List.length_cons] at ih₁ ih₂ ⊢
    omega

/-- What is missing can be inserted. -/
theorem editDistance_le_of_sublist (h : a.Sublist b) :
    editDistance a b + a.length ≤ b.length := by
  induction h with
  | slnil => simp
  | @cons as bs b _ ih =>
    have hle := editDistance_cons_right_le as bs b
    rw [List.length_cons]
    omega
  | @cons_cons as bs c _ ih =>
    have hle := editDistance_cons_cons_le c as bs
    rw [List.length_cons, List.length_cons]
    omega

/-- From a text to one that holds it, the distance is what has to be inserted. -/
theorem distance_of_sublist (h : a.Sublist b) : distance a b + a.length = b.length := by
  have hge := length_le_editDistance a.reverse b.reverse
  have hle := editDistance_le_of_sublist (List.reverse_sublist.2 h)
  rw [← distance_eq, List.length_reverse, List.length_reverse] at hge hle
  omega

/-- Among texts that hold a third one, the shorter one is closer. -/
theorem distance_lt_iff {c : List Char} (hb : a.Sublist b) (hc : a.Sublist c) :
    distance a b < distance a c ↔ b.length < c.length := by
  have hbdist := distance_of_sublist hb
  have hcdist := distance_of_sublist hc
  omega

theorem isSubsequence_iff : isSubsequence a b ↔ a.Sublist b := by
  fun_induction isSubsequence a b with
  | case1 => simp
  | case2 => simp
  | case3 a as bs ih => rw [ih, List.cons_sublist_cons]
  | case4 a as b bs hne ih =>
    rw [ih]
    refine ⟨List.Sublist.cons b, fun h => ?_⟩
    cases h with
    | cons _ h => exact h
    | cons_cons _ h => exact absurd rfl hne

end Sublists

end Sluice.Fuzzy

import Mathlib.Order.Bounds.Defs
import Sluice.Proofs.Fuzzy.Edits

/-!
# The table in one row

The table of distances needs the memory of one row: each entry overwrites the one above it, and the
old entry that has just gone is carried along for the next one.  Reading and writing get stuck
(`none`) at a place that the row does not have.

* `cell?`, `round?`, `table?`, `distance?` : one entry, one character of the first text, some of
  them, and the last entry of the last row;
* `row`, `rowAmid` : what the row holds between two rounds, and in the middle of one.
-/

namespace Sluice.Fuzzy

/-- Writes an entry of a row, if there is such a place. -/
def write? (row : List Nat) (place entry : Nat) : Option (List Nat) :=
  if place < row.length then some (row.set place entry) else none

/-- Overwrites the entry behind a place of the second text.  The state is the row and the old entry
at the place. -/
def cell? (c : Char) (state : List Nat × Nat) (next : Char × Nat) : Option (List Nat × Nat) := do
  let above ← state.1[next.2 + 1]?
  let left ← state.1[next.2]?
  let entry := min (min (above + 1) (left + 1)) (state.2 + if c = next.1 then 0 else 1)
  return (← write? state.1 (next.2 + 1) entry, above)

/-- Overwrites the row for one more character of the first text, which has the given place there. -/
def round? (b : List Char) (row : List Nat) (next : Char × Nat) : Option (List Nat) := do
  let diagonal ← row[0]?
  let state ← b.zipIdx.foldlM (cell? next.1) (← write? row 0 (next.2 + 1), diagonal)
  return state.1

def table? (b : List Char) (rounds : List (Char × Nat)) : Option (List Nat) :=
  rounds.foldlM (round? b) (List.range (b.length + 1))

def distance? (a b : List Char) : Option Nat := do
  let row ← table? b a.zipIdx
  row[b.length]?

/-- The distances from a text to all beginnings of another one. -/
def row (a b : List Char) : List Nat :=
  (List.range (b.length + 1)).map fun k => editDistance a (b.take k)

/-- The row in the middle of the round for `c`: up to a place its entries count `c` already. -/
def rowAmid (a : List Char) (c : Char) (b : List Char) (place : Nat) : List Nat :=
  (List.range (b.length + 1)).map fun k =>
    editDistance (if k ≤ place then a ++ [c] else a) (b.take k)

section

variable {a b : List Char} {c d : Char} {j k : Nat}

/-! ## One round -/

theorem getElem?_rowAmid (h : k ≤ b.length) : (rowAmid a c b j)[k]? =
    some (editDistance (if k ≤ j then a ++ [c] else a) (b.take k)) := by
  rw [rowAmid, List.getElem?_map, List.getElem?_range (Nat.lt_succ_of_le h)]
  rfl

theorem length_rowAmid : (rowAmid a c b j).length = b.length + 1 := by
  rw [rowAmid, List.length_map, List.length_range]

theorem set_map_range {n place entry : Nat} {f : Nat → Nat} :
    ((List.range n).map f).set place entry =
      (List.range n).map fun k => if k = place then entry else f k := by
  refine List.ext_getElem (by simp) fun k hk hk' => ?_
  rw [List.getElem_set, List.getElem_map, List.getElem_map, List.getElem_range]
  exact if_congr eq_comm rfl rfl

theorem set_rowAmid : (rowAmid a c b j).set (j + 1) (editDistance (a ++ [c]) (b.take (j + 1))) =
    rowAmid a c b (j + 1) := by
  rw [rowAmid, set_map_range, rowAmid]
  refine List.map_congr_left fun k _ => ?_
  rcases Nat.lt_trichotomy k (j + 1) with hlt | rfl | hgt
  · rw [if_neg (by omega), if_pos (by omega), if_pos (by omega)]
  · rw [if_pos rfl, if_pos (Nat.le_refl _)]
  · rw [if_neg (by omega), if_neg (by omega), if_neg (by omega)]

/-- One entry takes the row one place further, and the entry that goes is the next one carried. -/
theorem cell?_rowAmid (h : b[j]? = some d) :
    cell? c (rowAmid a c b j, editDistance a (b.take j)) (d, j) =
      some (rowAmid a c b (j + 1), editDistance a (b.take (j + 1))) := by
  obtain ⟨hlt, hd⟩ := List.getElem?_eq_some_iff.1 h
  have habove : (rowAmid a c b j)[j + 1]? = some (editDistance a (b.take (j + 1))) := by
    rw [getElem?_rowAmid hlt, if_neg (by omega)]
  have hleft : (rowAmid a c b j)[j]? = some (editDistance (a ++ [c]) (b.take j)) := by
    rw [getElem?_rowAmid (Nat.le_of_lt hlt), if_pos (Nat.le_refl _)]
  have hentry : min (min (editDistance a (b.take (j + 1)) + 1)
      (editDistance (a ++ [c]) (b.take j) + 1))
      (editDistance a (b.take j) + if c = d then 0 else 1) =
      editDistance (a ++ [c]) (b.take (j + 1)) := by
    rw [List.take_succ_eq_append_getElem hlt, hd, editDistance_concat]
  have hplace : j + 1 < (rowAmid a c b j).length := by
    rw [length_rowAmid]
    omega
  rw [cell?, habove, hleft]
  simp only [Option.bind_eq_bind, Option.bind_some]
  rw [hentry, write?, if_pos hplace, set_rowAmid]
  rfl

theorem foldlM_cell?_rowAmid (h : j ≤ b.length) :
    (b.zipIdx.take j).foldlM (cell? c) (rowAmid a c b 0, a.length) =
      some (rowAmid a c b j, editDistance a (b.take j)) := by
  induction j with
  | zero => simp
  | succ j ih =>
    have hget : b.zipIdx[j]? = some (b[j], j) := by simp
    rw [List.take_add_one, hget, List.foldlM_append, ih (Nat.le_of_lt h)]
    simpa using cell?_rowAmid (List.getElem?_eq_getElem h)

theorem getElem?_row (h : k ≤ b.length) : (row a b)[k]? = some (editDistance a (b.take k)) := by
  rw [row, List.getElem?_map, List.getElem?_range (Nat.lt_succ_of_le h)]
  rfl

theorem length_row : (row a b).length = b.length + 1 := by
  rw [row, List.length_map, List.length_range]

theorem set_row : (row a b).set 0 (a.length + 1) = rowAmid a c b 0 := by
  rw [row, set_map_range, rowAmid]
  refine List.map_congr_left fun k _ => ?_
  rcases Nat.eq_zero_or_pos k with rfl | hpos
  · simp
  · rw [if_neg (by omega), if_neg (by omega)]

theorem rowAmid_length : rowAmid a c b b.length = row (a ++ [c]) b := by
  refine List.map_congr_left fun k hk => ?_
  rw [if_pos (Nat.le_of_lt_succ (List.mem_range.1 hk))]

/-- One round takes the row to one more character of the first text. -/
theorem round?_row : round? b (row a b) (c, a.length) = some (row (a ++ [c]) b) := by
  have hdiagonal : (row a b)[0]? = some a.length := by
    rw [getElem?_row (Nat.zero_le _), List.take_zero, editDistance_nil]
  have hcorner : write? (row a b) 0 (a.length + 1) = some (rowAmid a c b 0) := by
    rw [write?, length_row, if_pos (Nat.succ_pos _), set_row]
  have hround := foldlM_cell?_rowAmid (a := a) (c := c) (Nat.le_refl b.length)
  rw [List.take_of_length_le (by simp), rowAmid_length] at hround
  rw [round?, hdiagonal]
  simp [hcorner, hround]

/-! ## All rounds -/

theorem row_nil : row [] b = List.range (b.length + 1) := by
  refine (List.map_congr_left fun k hk => ?_).trans (List.map_id _)
  rw [editDistance, List.length_take, Nat.min_eq_left (Nat.le_of_lt_succ (List.mem_range.1 hk))]
  rfl

/-- One round after the other. -/
theorem table?_take (a b : List Char) (i : Nat) :
    table? b (a.zipIdx.take i) = some (row (a.take i) b) := by
  induction i with
  | zero => simp [table?, row_nil]
  | succ i ih =>
    rcases Nat.lt_or_ge i a.length with hlt | hge
    · have hget : a.zipIdx[i]? = some (a[i], i) := by simp
      have hround := round?_row (a := a.take i) (b := b) (c := a[i])
      rw [List.length_take_of_le (Nat.le_of_lt hlt), ← List.take_succ_eq_append_getElem hlt]
        at hround
      rw [table?] at ih
      rw [table?, List.take_add_one, hget, List.foldlM_append, ih]
      simpa using hround
    · rw [List.take_of_length_le hge] at ih
      rw [List.take_of_length_le (Nat.le_succ_of_le hge), ← ih,
        List.take_of_length_le (by simpa using Nat.le_succ_of_le hge),
        List.take_of_length_le (by simpa using hge)]

theorem distance?_eq (a b : List Char) : distance? a b = some (editDistance a b) := by
  have hrow := table?_take a b a.length
  rw [List.take_of_length_le (by simp), List.take_length] at hrow
  rw [distance?, hrow]
  simp [getElem?_row]

theorem distancesBehind_eq_map (as p bs : List Char) : distancesBehind as p bs =
    (List.range bs.length).map fun k => editDistance as ((bs.take (k + 1)).reverse ++ p) := by
  induction bs generalizing p with
  | nil => rfl
  | cons b bs ih =>
    rw [distancesBehind, ih, List.length_cons, List.range_succ_eq_map]
    simp [Function.comp_def]

/-- What the rows hold that are built anew for each character. -/
theorem distances_reverse (a b : List Char) : distances a.reverse b = row a b := by
  rw [distances, distancesBehind_eq_map, row, List.range_succ_eq_map]
  have hreverse : ∀ k, editDistance a.reverse (b.take k).reverse = editDistance a (b.take k) :=
    fun k => editDistance_reverse a (b.take k)
  simp [hreverse]

/-- The distance of two texts is the least number of edits that make one of the other.  It follows
the recursion on the last characters of both texts, and after some characters of the first text the
row holds its distances to all beginnings of the second one.  With a single row that is overwritten
no place is missed, and the row and the distance are the same. -/
theorem distance_isLeast_edits (a b : List Char) :
    IsLeast {n | Edits n a b} (distance a b) ∧
    (distance a b = editDistance a b ∧ distance [] b = b.length ∧ distance a [] = a.length ∧
      ∀ c d, distance (a ++ [c]) (b ++ [d]) =
        min (min (distance a (b ++ [d]) + 1) (distance (a ++ [c]) b + 1))
          (distance a b + if c = d then 0 else 1)) ∧
    distance? a b = some (distance a b) ∧
    ∀ i, table? b (a.zipIdx.take i) = some (row (a.take i) b) ∧
      (a.take i).foldl (step b) (List.range (b.length + 1)) = row (a.take i) b := by
  have hdistance : ∀ a b, distance a b = editDistance a b := fun a b =>
    (distance_eq a b).trans (editDistance_reverse a b)
  simp only [hdistance]
  refine ⟨⟨edits_editDistance a b, fun n h => h.editDistance_le⟩,
    ⟨trivial, by rw [editDistance], editDistance_nil a, editDistance_concat a b⟩,
    distance?_eq a b, fun i => ⟨table?_take a b i, ?_⟩⟩
  rw [range_eq_distances, foldl_step_distances, List.append_nil, distances_reverse]

end

end Sluice.Fuzzy

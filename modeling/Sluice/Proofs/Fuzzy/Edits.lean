import Sluice.Proofs.Fuzzy.Distance

/-!
# Edits

The edit distance is the least number of edits that make one text of another.  Edits can be read
backwards, so the recursion may remove characters at either end of both texts.

* `Edit`, `Edits` : one edit, anywhere in a text, and a number of them one after the other;
* `edits_editDistance`, `Edits.editDistance_le` : so many edits do, and fewer do not;
* `editDistance_reverse`, `editDistance_concat` : the recursion from the other end.
-/

namespace Sluice.Fuzzy

/-- One edit: a character comes in, goes away or is replaced. -/
inductive Edit : List Char → List Char → Prop
  | insert (before after : List Char) (c : Char) : Edit (before ++ after) (before ++ c :: after)
  | delete (before after : List Char) (c : Char) : Edit (before ++ c :: after) (before ++ after)
  | replace (before after : List Char) (c d : Char) :
    Edit (before ++ c :: after) (before ++ d :: after)

/-- Some number of edits, one after the other. -/
inductive Edits : Nat → List Char → List Char → Prop
  | none (a : List Char) : Edits 0 a a
  | first {n : Nat} {a b c : List Char} (edit : Edit a b) (rest : Edits n b c) : Edits (n + 1) a c

section

variable {a b : List Char} {n : Nat}

/-! ## Enough edits -/

theorem Edit.behind (c : Char) (h : Edit a b) : Edit (c :: a) (c :: b) := by
  cases h with
  | insert before after d => exact .insert (c :: before) after d
  | delete before after d => exact .delete (c :: before) after d
  | replace before after d e => exact .replace (c :: before) after d e

theorem Edits.behind (c : Char) (h : Edits n a b) : Edits n (c :: a) (c :: b) := by
  induction h with
  | none a => exact .none (c :: a)
  | first edit _ ih => exact .first (edit.behind c) ih

theorem edits_insert_all (b : List Char) : Edits b.length [] b := by
  induction b with
  | nil => exact .none []
  | cons d b ih => exact .first (.insert [] [] d) (ih.behind d)

theorem edits_delete_all (a : List Char) : Edits a.length a [] := by
  induction a with
  | nil => exact .none []
  | cons c a ih => exact .first (.delete [] a c) ih

theorem Edits.min {m : Nat} (hm : Edits m a b) (hn : Edits n a b) : Edits (min m n) a b := by
  rcases Nat.le_total m n with h | h
  · rwa [Nat.min_eq_left h]
  · rwa [Nat.min_eq_right h]

/-- The edits that the recursion counts. -/
theorem edits_editDistance (a b : List Char) : Edits (editDistance a b) a b := by
  fun_induction editDistance a b with
  | case1 bs => exact edits_insert_all bs
  | case2 c as => exact edits_delete_all (c :: as)
  | case3 c as d bs ihdelete ihinsert ihboth =>
    have hdelete : Edits (editDistance as (d :: bs) + 1) (c :: as) (d :: bs) :=
      .first (.delete [] as c) ihdelete
    have hinsert : Edits (editDistance (c :: as) bs + 1) (c :: as) (d :: bs) :=
      .first (.insert [] (c :: as) d) (ihinsert.behind d)
    have hboth : Edits (editDistance as bs + if c = d then 0 else 1) (c :: as) (d :: bs) := by
      split
      · next heq => exact heq ▸ ihboth.behind c
      · exact .first (.replace [] as c d) (ihboth.behind d)
    exact (hdelete.min hinsert).min hboth

/-! ## No fewer edits -/

theorem editDistance_self (a : List Char) : editDistance a a = 0 := by
  induction a with
  | nil => rw [editDistance_nil, List.length_nil]
  | cons c a ih =>
    have hle := editDistance_cons_cons_le c a a
    omega

theorem editDistance_cons_left_le (c : Char) (a b : List Char) :
    editDistance (c :: a) b ≤ editDistance a b + 1 := by
  cases b with
  | nil => simp
  | cons d b =>
    rw [editDistance]
    omega

theorem editDistance_le_cons_left (c : Char) (a b : List Char) :
    editDistance a b ≤ editDistance (c :: a) b + 1 := by
  induction b with
  | nil =>
    rw [editDistance_nil, editDistance_nil, List.length_cons]
    omega
  | cons d b ih =>
    have hinsert := editDistance_cons_right_le a b d
    rw [editDistance]
    omega

theorem editDistance_replace_left_le (c d : Char) (a b : List Char) :
    editDistance (c :: a) b ≤ editDistance (d :: a) b + 1 := by
  induction b with
  | nil => simp
  | cons e b ih =>
    have hdelete := editDistance_cons_left_le c a (e :: b)
    rw [editDistance] at hdelete ⊢
    rw [editDistance]
    split at hdelete <;> split <;> omega

/-- Two texts that are close to each other still are behind one more character. -/
theorem editDistance_cons_le_of_le (c : Char) {a a' : List Char}
    (h : ∀ b, editDistance a b ≤ editDistance a' b + 1) (b : List Char) :
    editDistance (c :: a) b ≤ editDistance (c :: a') b + 1 := by
  induction b with
  | nil =>
    have hlength := h []
    rw [editDistance_nil, editDistance_nil] at hlength ⊢
    rw [List.length_cons, List.length_cons]
    omega
  | cons d b ih =>
    have hdelete := h (d :: b)
    have hboth := h b
    rw [editDistance, editDistance]
    omega

/-- One edit changes a distance by one at most. -/
theorem Edit.editDistance_le (h : Edit a b) (c : List Char) :
    editDistance a c ≤ editDistance b c + 1 := by
  cases h with
  | insert before after d =>
    induction before generalizing c with
    | nil => exact editDistance_le_cons_left d after c
    | cons e before ih => exact editDistance_cons_le_of_le e ih c
  | delete before after d =>
    induction before generalizing c with
    | nil => exact editDistance_cons_left_le d after c
    | cons e before ih => exact editDistance_cons_le_of_le e ih c
  | replace before after d d' =>
    induction before generalizing c with
    | nil => exact editDistance_replace_left_le d d' after c
    | cons e before ih => exact editDistance_cons_le_of_le e ih c

theorem Edits.editDistance_le (h : Edits n a b) : editDistance a b ≤ n := by
  induction h with
  | none a => exact Nat.le_of_eq (editDistance_self a)
  | first edit _ ih => exact Nat.le_trans (edit.editDistance_le _) (Nat.succ_le_succ ih)

/-! ## From the other end -/

theorem Edit.reverse (h : Edit a b) : Edit a.reverse b.reverse := by
  cases h with
  | insert before after c => simpa using Edit.insert after.reverse before.reverse c
  | delete before after c => simpa using Edit.delete after.reverse before.reverse c
  | replace before after c d => simpa using Edit.replace after.reverse before.reverse c d

theorem Edits.reverse (h : Edits n a b) : Edits n a.reverse b.reverse := by
  induction h with
  | none a => exact .none a.reverse
  | first edit _ ih => exact .first edit.reverse ih

theorem editDistance_reverse (a b : List Char) :
    editDistance a.reverse b.reverse = editDistance a b := by
  refine Nat.le_antisymm (edits_editDistance a b).reverse.editDistance_le ?_
  have hback := (edits_editDistance a.reverse b.reverse).reverse.editDistance_le
  rwa [List.reverse_reverse, List.reverse_reverse] at hback

/-- The recursion on the last characters. -/
theorem editDistance_concat (a b : List Char) (c d : Char) :
    editDistance (a ++ [c]) (b ++ [d]) =
      min (min (editDistance a (b ++ [d]) + 1) (editDistance (a ++ [c]) b + 1))
        (editDistance a b + if c = d then 0 else 1) := by
  rw [← editDistance_reverse, List.reverse_concat, List.reverse_concat, editDistance,
    ← List.reverse_concat, ← List.reverse_concat, editDistance_reverse, editDistance_reverse,
    editDistance_reverse]

end

end Sluice.Fuzzy

import Sluice.Proofs.Grammar.Reading

/-!
# How far the parser looks ahead

Where a function stops or refuses, it has looked at one token.  Two lists of tokens that agree up to
that token and on it are read alike, whatever follows.

The proof follows both lists at the same time.  What happens behind the place where they part is not
compared; there it only matters that no function gives tokens back.
-/

namespace Sluice.Expr

variable {α β : Type}

/-! ## Tokens are not given back -/

theorem left_andThen_le {r : Outcome α} {f : α → List Located → Outcome β} {n : Nat}
    (hr : r.left ≤ n) (hf : ∀ a Y, Y.length ≤ n → (f a Y).left ≤ n) : (r.andThen f).left ≤ n := by
  cases r with
  | error e => exact hr
  | ok p => exact hf p.1 p.2 hr

theorem left_expect_le (wanted : Token) (ts : List Located) :
    (outcome (expect wanted ts)).left ≤ ts.length := by
  cases ts with
  | nil => exact Nat.le_refl 0
  | cons t rest =>
    unfold expect
    dsimp only
    split
    · exact Nat.le_succ rest.length
    · exact Nat.le_refl _

theorem length_tail_le (ts : List Located) : ts.tail.length ≤ ts.length := by
  rw [List.length_tail]
  exact Nat.sub_le _ _

theorem left_memberName_le (ts : List Located) : (memberName ts).left ≤ ts.length := by
  unfold memberName
  split
  · exact length_tail_le ts
  · exact Nat.le_refl _

theorem left_fieldKey_le (ts : List Located) : (fieldKey ts).left ≤ ts.length := by
  unfold fieldKey
  split
  · exact length_tail_le ts
  · exact length_tail_le ts
  · exact Nat.le_refl _

theorem length_lt_of_fieldKey {ts Y : List Located} {name : String}
    (h : fieldKey ts = .ok (name, Y)) : Y.length < ts.length := by
  obtain ⟨key, o, rfl, -⟩ := fieldKey_eq_ok_iff.1 h
  exact Nat.lt_succ_self _

/-- No function leaves more tokens than it gets. -/
structure Bounded (ts : List Located) : Prop where
  expression : ∀ p, (outcome (expression p ts)).left ≤ ts.length
  climb : ∀ p a, (outcome (climb p a ts)).left ≤ ts.length
  items : ∀ close, (outcome (items close ts)).left ≤ ts.length
  entries : (outcome (entries ts)).left ≤ ts.length

section Bounded

variable {n : Nat} {ts : List Located} (h : ∀ ts : List Located, ts.length ≤ n → Bounded ts)
include h

theorem left_arguments_le (close : Token) (hclose : close ≠ .eof) (hts : ts.length ≤ n) :
    (outcome (arguments close ts)).left ≤ ts.length := by
  rw [outcome_arguments hclose]
  split
  · exact length_tail_le ts
  · exact (h ts hts).items close

theorem left_goOn_le (k : Continuation) (a : Expr) (hts : ts.length ≤ n) :
    (goOn k a ts).left ≤ ts.length := by
  have hts' := h ts hts
  cases k with
  | field => exact left_andThen_le (left_memberName_le ts) fun name Y hY => hY
  | index =>
    refine left_andThen_le (hts'.expression 0) fun key Y hY => ?_
    exact left_andThen_le (Nat.le_trans (left_expect_le _ Y) hY) fun _ X hX => hX
  | pipe => exact left_andThen_le (hts'.expression 1) fun right X hX => hX
  | ternary =>
    refine left_andThen_le (hts'.expression 0) fun yes Y hY => ?_
    refine left_andThen_le (Nat.le_trans (left_expect_le _ Y) hY) fun _ Z hZ => ?_
    have hno := (h Z (Nat.le_trans hZ hts)).expression 2
    exact left_andThen_le (Nat.le_trans hno hZ) fun no X hX => hX
  | binary op right => exact left_andThen_le (hts'.expression right) fun b X hX => hX

theorem left_startWith_le {t : Token} (ht : starts t = true) (hts : ts.length ≤ n) :
    (startWith t ts).left ≤ ts.length := by
  have hts' := h ts hts
  have htail := length_tail_le ts
  -- each part leaves no more than it is given, also where it is refused
  cases t with
  | ident name =>
    unfold startWith
    dsimp only
    split
    · exact Nat.le_refl _
    · split
      · have hargs := left_arguments_le h .rightParen (by decide)
          (Nat.le_trans htail hts)
        exact left_andThen_le (Nat.le_trans hargs htail) fun _ X hX => hX
      · exact Nat.le_refl _
  | not | minus => exact left_andThen_le (hts'.expression unaryPower) fun a X hX => hX
  | leftParen =>
    refine left_andThen_le (hts'.expression 0) fun a Y hY => ?_
    exact left_andThen_le (Nat.le_trans (left_expect_le _ Y) hY) fun _ X hX => hX
  | leftBracket =>
    have hargs := left_arguments_le h .rightBracket (by decide) hts
    exact left_andThen_le hargs fun _ X hX => hX
  | leftBrace =>
    unfold startWith
    dsimp only
    split
    · exact htail
    · exact left_andThen_le hts'.entries fun _ X hX => hX
  | number | str | query => exact Nat.le_refl _
  | _ => cases ht

end Bounded

theorem left_orMore_le {more : List Located → Outcome (List α)} {close : Token} {a : α}
    {ts : List Located}
    (hmore : ∀ Z : List Located, Z.length ≤ ts.length → (more Z).left ≤ Z.length) :
    (orMore more close a ts).left ≤ ts.length := by
  have htail := length_tail_le ts
  unfold orMore
  split
  · have := hmore ts.tail htail
    exact left_andThen_le (Nat.le_trans this htail) fun as X hX => hX
  · exact left_andThen_le (left_expect_le close ts) fun _ X hX => hX

theorem left_operand_le {ts : List Located}
    (h : ∀ ts' : List Located, ts'.length < ts.length → Bounded ts') :
    (outcome (operand ts)).left ≤ ts.length := by
  cases ts with
  | nil =>
    rw [outcome_operand_nil]
    exact Nat.le_refl 0
  | cons t rest =>
    rw [outcome_operand]
    cases ht : starts t.token with
    | false =>
      rw [startWith_of_not_starts ht]
      exact Nat.le_refl _
    | true =>
      refine Nat.le_succ_of_le (left_startWith_le (n := rest.length) ?_ ht (Nat.le_refl _))
      exact fun ts hts => h ts (Nat.lt_succ_of_le hts)

theorem left_expression_le {ts : List Located}
    (h : ∀ ts' : List Located, ts'.length < ts.length → Bounded ts') (p : Nat) :
    (outcome (expression p ts)).left ≤ ts.length := by
  rw [outcome_expression]
  have hle := left_operand_le h
  cases hfirst : outcome (operand ts) with
  | error e =>
    rw [hfirst] at hle
    exact hle
  | ok first =>
    have hlt : first.2.length < ts.length := (outcome_eq_ok_iff.1 hfirst).length_lt
    exact Nat.le_trans ((h first.2 hlt).climb p first.1) (Nat.le_of_lt hlt)

theorem left_climb_le {ts : List Located}
    (h : ∀ ts' : List Located, ts'.length < ts.length → Bounded ts') (p : Nat) (a : Expr) :
    (outcome (climb p a ts)).left ≤ ts.length := by
  rw [outcome_climb]
  split
  · exact Nat.le_refl _
  · next k strength hk =>
    split
    · exact Nat.le_refl _
    · cases ts with
      | nil => cases hk
      | cons t rest =>
        have hgo := left_goOn_le (n := rest.length) (fun ts hts => h ts (Nat.lt_succ_of_le hts))
          k a (Nat.le_refl _)
        refine Nat.le_succ_of_le (left_andThen_le hgo fun b Y hY => ?_)
        exact Nat.le_trans ((h Y (Nat.lt_succ_of_le hY)).climb p b) hY

theorem left_items_le {ts : List Located}
    (h : ∀ ts' : List Located, ts'.length < ts.length → Bounded ts') (close : Token) :
    (outcome (items close ts)).left ≤ ts.length := by
  rw [outcome_items]
  cases hfirst : outcome (expression 0 ts) with
  | error e =>
    have hle := left_expression_le h 0
    rwa [hfirst] at hle
  | ok first =>
    have hlt := length_lt_of_expression hfirst
    have hmore : (orMore (fun Z => outcome (items close Z)) close first.1 first.2).left ≤
        first.2.length :=
      left_orMore_le fun Z hZ => (h Z (Nat.lt_of_le_of_lt hZ hlt)).items close
    exact Nat.le_trans hmore (Nat.le_of_lt hlt)

theorem left_entry_le {ts : List Located}
    (h : ∀ ts' : List Located, ts'.length ≤ ts.length → Bounded ts') (key : String) :
    (outcome (entry key ts)).left ≤ ts.length := by
  rw [outcome_entry]
  refine left_andThen_le (left_expect_le _ _) fun _ Y hY => ?_
  refine left_andThen_le (Nat.le_trans ((h Y hY).expression 0) hY) fun e Z hZ => ?_
  refine Nat.le_trans (left_orMore_le fun W hW => ?_) hZ
  exact (h W (Nat.le_trans hW hZ)).entries

theorem left_entries_le {ts : List Located}
    (h : ∀ ts' : List Located, ts'.length < ts.length → Bounded ts') :
    (outcome (entries ts)).left ≤ ts.length := by
  rw [outcome_entries]
  cases hkey : fieldKey ts with
  | error e =>
    have hle := left_fieldKey_le ts
    rwa [hkey] at hle
  | ok key =>
    have hlt : key.2.length < ts.length := length_lt_of_fieldKey hkey
    refine Nat.le_trans (left_entry_le (fun ts' hts' => ?_) key.1) (Nat.le_of_lt hlt)
    exact h ts' (Nat.lt_of_le_of_lt hts' hlt)

theorem bounded (ts : List Located) : Bounded ts := by
  have h : ∀ ts' : List Located, ts'.length < ts.length → Bounded ts' := fun ts' _ => bounded ts'
  exact {
    expression := left_expression_le h
    climb := left_climb_le h
    items := left_items_le h
    entries := left_entries_le h }
termination_by ts.length

/-! ## Two lists at the same time -/

/-- What a function comes to on tokens that end in `X` and on the same tokens ending in `X'`: it
has read the same and has not come further than to the end; or it refuses both alike and there; or
it has come further on the first list. -/
inductive Alike (X X' : List Located) : Outcome α → Outcome α → Prop
  | ok (a : α) (us : List Located) : Alike X X' (.ok (a, us ++ X)) (.ok (a, us ++ X'))
  | error (flaw : SyntaxFlaw) (us : List Located) :
      Alike X X' (.error ⟨flaw, (us ++ X).length⟩) (.error ⟨flaw, (us ++ X').length⟩)
  | beyond {r r' : Outcome α} : r.left < X.length → Alike X X' r r'

theorem Alike.andThen {X X' : List Located} {r r' : Outcome α} {f : α → List Located → Outcome β}
    (h : Alike X X' r r') (hle : ∀ a Y, (f a Y).left ≤ Y.length)
    (hf : ∀ a us, r = .ok (a, us ++ X) → Alike X X' (f a (us ++ X)) (f a (us ++ X'))) :
    Alike X X' (r.andThen f) (r'.andThen f) := by
  cases h with
  | ok a us => exact hf a us rfl
  | error flaw us => exact .error flaw us
  | beyond h =>
    refine .beyond ?_
    cases r with
    | error e => exact h
    | ok p => exact Nat.lt_of_le_of_lt (hle p.1 p.2) h

theorem Alike.map {X X' : List Located} {r r' : Outcome α} (h : Alike X X' r r') (f : α → β) :
    Alike X X' (r.andThen fun a Y => .ok (f a, Y)) (r'.andThen fun a Y => .ok (f a, Y)) :=
  h.andThen (fun _ Y => Nat.le_refl Y.length) fun a us _ => .ok (f a) us

theorem length_le_of_left_le {X us vs : List Located} {r : Outcome α} {a : α}
    (hr : r.left ≤ (us ++ X).length) (h : r = .ok (a, vs ++ X)) : vs.length ≤ us.length := by
  rw [h] at hr
  simpa [Outcome.left] using hr

section Alike

variable {x x' : Located} {xs xs' us : List Located}

theorem next_append_eq (hx : x.token = x'.token) (xs xs' us : List Located) :
    next (us ++ x :: xs) = next (us ++ x' :: xs') := by
  cases us with
  | nil => exact hx
  | cons u us => rfl

theorem alike_tail {g : List Located → Outcome α} (hg : ∀ Y, (g Y).left ≤ Y.length)
    (h : ∀ vs : List Located, vs.length < us.length →
      Alike (x :: xs) (x' :: xs') (g (vs ++ x :: xs)) (g (vs ++ x' :: xs'))) :
    Alike (x :: xs) (x' :: xs') (g (us ++ x :: xs).tail) (g (us ++ x' :: xs').tail) := by
  cases us with
  | nil => exact .beyond (Nat.lt_succ_of_le (hg xs))
  | cons u us => exact h us (Nat.lt_succ_self _)

theorem alike_ok_tail (a : α) (us : List Located) :
    Alike (x :: xs) (x' :: xs') (.ok (a, (us ++ x :: xs).tail)) (.ok (a, (us ++ x' :: xs').tail)) :=
  alike_tail (g := fun Y => .ok (a, Y)) (fun Y => Nat.le_refl Y.length) fun vs _ => .ok a vs

variable (hx : x.token = x'.token)
include hx

theorem alike_expect {wanted : Token} (hw : wanted ≠ .eof) (us : List Located) :
    Alike (x :: xs) (x' :: xs') (outcome (expect wanted (us ++ x :: xs)))
      (outcome (expect wanted (us ++ x' :: xs'))) := by
  rw [outcome_expect hw, outcome_expect hw, next_append_eq hx xs xs']
  split
  · exact alike_ok_tail () us
  · exact .error _ us

theorem alike_memberName (us : List Located) :
    Alike (x :: xs) (x' :: xs') (memberName (us ++ x :: xs)) (memberName (us ++ x' :: xs')) := by
  unfold memberName
  rw [next_append_eq hx xs xs']
  split
  · exact alike_ok_tail _ us
  · exact .error _ us

theorem alike_fieldKey (us : List Located) :
    Alike (x :: xs) (x' :: xs') (fieldKey (us ++ x :: xs)) (fieldKey (us ++ x' :: xs')) := by
  unfold fieldKey
  rw [next_append_eq hx xs xs']
  split
  · exact alike_ok_tail _ us
  · exact alike_ok_tail _ us
  · exact .error _ us

theorem alike_orMore {more : List Located → Outcome (List α)} {close : Token}
    (hclose : close ≠ .eof) (a : α) (hle : ∀ Y, (more Y).left ≤ Y.length)
    (h : ∀ vs : List Located, vs.length < us.length →
      Alike (x :: xs) (x' :: xs') (more (vs ++ x :: xs)) (more (vs ++ x' :: xs'))) :
    Alike (x :: xs) (x' :: xs') (orMore more close a (us ++ x :: xs))
      (orMore more close a (us ++ x' :: xs')) := by
  unfold orMore
  rw [next_append_eq hx xs xs']
  split
  · exact (alike_tail hle h).map _
  · exact (alike_expect hx hclose us).map _

end Alike

/-- All functions read tokens alike that end in `X` and in `X'`. -/
structure ReadAlike (X X' us : List Located) : Prop where
  expression : ∀ p,
    Alike X X' (outcome (expression p (us ++ X))) (outcome (expression p (us ++ X')))
  climb : ∀ p a, Alike X X' (outcome (climb p a (us ++ X))) (outcome (climb p a (us ++ X')))
  items : ∀ close, close ≠ .eof →
    Alike X X' (outcome (items close (us ++ X))) (outcome (items close (us ++ X')))
  entries : Alike X X' (outcome (entries (us ++ X))) (outcome (entries (us ++ X')))

section ReadAlike

variable {x x' : Located} {xs xs' us : List Located} (hx : x.token = x'.token) {n : Nat}
  (h : ∀ vs : List Located, vs.length ≤ n → ReadAlike (x :: xs) (x' :: xs') vs)
include hx h

theorem alike_arguments {close : Token} (hclose : close ≠ .eof) (hus : us.length ≤ n) :
    Alike (x :: xs) (x' :: xs') (outcome (arguments close (us ++ x :: xs)))
      (outcome (arguments close (us ++ x' :: xs'))) := by
  rw [outcome_arguments hclose, outcome_arguments hclose,
    next_append_eq hx xs xs']
  split
  · exact alike_ok_tail [] us
  · exact (h us hus).items close hclose

theorem alike_goOn (k : Continuation) (a : Expr) (hus : us.length ≤ n) :
    Alike (x :: xs) (x' :: xs') (goOn k a (us ++ x :: xs)) (goOn k a (us ++ x' :: xs')) := by
  cases k with
  | field => exact (alike_memberName hx us).map _
  | index =>
    refine ((h us hus).expression 0).andThen (fun key Y => ?_) fun key vs _ => ?_
    · exact left_andThen_le (left_expect_le _ Y) fun _ X hX => hX
    · exact (alike_expect hx (by decide) vs).map _
  | pipe => exact ((h us hus).expression 1).map _
  | ternary =>
    refine ((h us hus).expression 0).andThen (fun yes Y => ?_) fun yes vs hvs => ?_
    · refine left_andThen_le (left_expect_le _ Y) fun _ Z hZ => ?_
      exact left_andThen_le (Nat.le_trans ((bounded Z).expression 2) hZ) fun no X hX => hX
    refine (alike_expect hx (by decide) vs).andThen (fun _ Z => ?_) fun _ ws hws => ?_
    · exact left_andThen_le ((bounded Z).expression 2) fun no X hX => hX
    have hvs' := length_le_of_left_le ((bounded _).expression 0) hvs
    have hws' := length_le_of_left_le (left_expect_le _ _) hws
    exact ((h ws (Nat.le_trans hws' (Nat.le_trans hvs' hus))).expression 2).map _
  | binary op right => exact ((h us hus).expression right).map _

theorem alike_startWith (t : Token) (hus : us.length ≤ n) :
    Alike (x :: xs) (x' :: xs') (startWith t (us ++ x :: xs)) (startWith t (us ++ x' :: xs')) := by
  have hnext := next_append_eq hx xs xs' us
  cases t with
  | ident name =>
    simp only [startWith, hnext]
    split
    · exact .ok _ us
    · split
      · refine (alike_tail (g := fun Y => outcome (arguments .rightParen Y)) ?_ ?_).map _
        · exact fun Y => left_arguments_le (fun ts _ => bounded ts) _ (by decide) (Nat.le_refl _)
        · intro vs hvs
          exact alike_arguments hx h (by decide) (Nat.le_trans (Nat.le_of_lt hvs) hus)
      · exact .ok _ us
  | not | minus => exact ((h us hus).expression unaryPower).map _
  | leftParen =>
    refine ((h us hus).expression 0).andThen (fun a Y => ?_) fun a vs _ => ?_
    · exact left_andThen_le (left_expect_le _ Y) fun _ X hX => hX
    · exact (alike_expect hx (by decide) vs).map _
  | leftBracket => exact (alike_arguments hx h (by decide) hus).map _
  | leftBrace =>
    simp only [startWith, hnext]
    split
    · exact alike_ok_tail _ us
    · exact (h us hus).entries.map _
  | number | str | query => exact .ok _ us
  | _ => exact .error _ (x :: us)

end ReadAlike

section ReadAlike

variable {x x' : Located} {xs xs' us : List Located} (hx : x.token = x'.token)
  (h : ∀ vs : List Located, vs.length < us.length → ReadAlike (x :: xs) (x' :: xs') vs)
include hx h

theorem alike_operand : Alike (x :: xs) (x' :: xs') (outcome (operand (us ++ x :: xs)))
    (outcome (operand (us ++ x' :: xs'))) := by
  cases us with
  | nil =>
    rw [List.nil_append, List.nil_append, outcome_operand, outcome_operand, ← hx]
    cases ht : starts x.token with
    | false =>
      rw [startWith_of_not_starts ht, startWith_of_not_starts ht]
      exact .error _ []
    | true =>
      have hle := left_startWith_le (fun ts _ => bounded ts) ht (Nat.le_refl xs.length)
      exact .beyond (Nat.lt_succ_of_le hle)
  | cons u us =>
    rw [List.cons_append, List.cons_append, outcome_operand, outcome_operand]
    exact alike_startWith hx (fun vs hvs => h vs (Nat.lt_succ_of_le hvs)) u.token (Nat.le_refl _)

theorem alike_expression (p : Nat) :
    Alike (x :: xs) (x' :: xs') (outcome (expression p (us ++ x :: xs)))
      (outcome (expression p (us ++ x' :: xs'))) := by
  rw [outcome_expression, outcome_expression]
  refine (alike_operand hx h).andThen (fun a Y => (bounded Y).climb p a) fun a vs hvs => ?_
  have hlt := (outcome_eq_ok_iff.1 hvs).length_lt
  rw [List.length_append, List.length_append, Nat.add_lt_add_iff_right] at hlt
  exact (h vs hlt).climb p a

theorem alike_climb (p : Nat) (a : Expr) :
    Alike (x :: xs) (x' :: xs') (outcome (climb p a (us ++ x :: xs)))
      (outcome (climb p a (us ++ x' :: xs'))) := by
  have hgo : ∀ k Y, (goOn k a Y).left ≤ Y.length := fun k Y =>
    left_goOn_le (fun ts _ => bounded ts) k a (Nat.le_refl _)
  rw [outcome_climb, outcome_climb, next_append_eq hx xs xs']
  split
  · exact .ok a us
  · next k strength hk =>
    split
    · exact .ok a us
    refine alike_tail (g := fun Y => (goOn k a Y).andThen fun b Z => outcome (climb p b Z))
      (fun Y => left_andThen_le (hgo k Y) fun b Z hZ => Nat.le_trans ((bounded Z).climb p b) hZ)
      fun vs hvs => ?_
    have hshort : ∀ ws : List Located, ws.length ≤ vs.length → ReadAlike (x :: xs) (x' :: xs') ws :=
      fun ws hws => h ws (Nat.lt_of_le_of_lt hws hvs)
    refine (alike_goOn hx hshort k a (Nat.le_refl _)).andThen (fun b Z => (bounded Z).climb p b)
      fun b ws hws => ?_
    exact (hshort ws (length_le_of_left_le (hgo k _) hws)).climb p b

theorem alike_items {close : Token} (hclose : close ≠ .eof) :
    Alike (x :: xs) (x' :: xs') (outcome (items close (us ++ x :: xs)))
      (outcome (items close (us ++ x' :: xs'))) := by
  have hle : ∀ Y, (outcome (items close Y)).left ≤ Y.length := fun Y => (bounded Y).items close
  rw [outcome_items, outcome_items]
  refine (alike_expression hx h 0).andThen (fun e Y => left_orMore_le fun Z _ => hle Z)
    fun e vs hvs => ?_
  have hvs' := length_le_of_left_le ((bounded _).expression 0) hvs
  refine alike_orMore hx hclose e hle fun ws hws => ?_
  exact (h ws (Nat.lt_of_lt_of_le hws hvs')).items close hclose

theorem alike_entries :
    Alike (x :: xs) (x' :: xs') (outcome (entries (us ++ x :: xs)))
      (outcome (entries (us ++ x' :: xs'))) := by
  have hle : ∀ Y, (outcome (entries Y)).left ≤ Y.length := fun Y => (bounded Y).entries
  have hmore : ∀ (field : String × Expr) Z,
      (orMore (fun W => outcome (entries W)) .rightBrace field Z).left ≤ Z.length :=
    fun field Z => left_orMore_le fun W _ => hle W
  rw [outcome_entries, outcome_entries]
  refine (alike_fieldKey hx us).andThen
    (fun key Y => left_entry_le (fun ts _ => bounded ts) key) fun key vs hvs => ?_
  have hlt := length_lt_of_fieldKey hvs
  rw [List.length_append, List.length_append, Nat.add_lt_add_iff_right] at hlt
  rw [outcome_entry, outcome_entry]
  refine (alike_expect hx (by decide) vs).andThen (fun _ Y => ?_) fun _ ws hws => ?_
  · exact left_andThen_le ((bounded Y).expression 0) fun e Z hZ => Nat.le_trans (hmore _ Z) hZ
  have hws' := Nat.lt_of_le_of_lt (length_le_of_left_le (left_expect_le _ _) hws) hlt
  refine ((h ws hws').expression 0).andThen (fun e Z => hmore _ Z) fun e ys hys => ?_
  have hys' := length_le_of_left_le ((bounded _).expression 0) hys
  refine alike_orMore hx (by decide) _ hle fun zs hzs => ?_
  exact (h zs (Nat.lt_trans (Nat.lt_of_lt_of_le hzs hys') hws')).entries

end ReadAlike

/-- What the parser does up to a token depends on nothing behind it. -/
theorem readAlike {x x' : Located} (hx : x.token = x'.token) (xs xs' us : List Located) :
    ReadAlike (x :: xs) (x' :: xs') us := by
  have h : ∀ vs : List Located, vs.length < us.length → ReadAlike (x :: xs) (x' :: xs') vs :=
    fun vs _ => readAlike hx xs xs' vs
  exact {
    expression := alike_expression hx h
    climb := alike_climb hx h
    items := fun _ hclose => alike_items hx h hclose
    entries := alike_entries hx h }
termination_by us.length

end Sluice.Expr

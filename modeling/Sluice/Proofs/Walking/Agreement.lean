import Sluice.Proofs.Grammar.Basic
import Sluice.Proofs.Walking.Basic

/-!
# A walk gives what the parser gives

A walk over tokens with the only `eof` at their end gives what the parser gives on the tokens from
its position on, gets further with each call, and is cut off only where its limits are not ample for
the tokens that are left.  Each function follows the parser if the functions that it calls do so with
one level less to go, so by induction on the depth they all do.

* `Follows` : one walk, and what the parser comes to;
* `Ample`, `Calls.Follow` : all functions, and the limits that each of them needs;
* `follows_enclosed`, `follows_loop_climbTurn` : the loops, by induction on the turns they may take;
* `Calls.Follow.deeper`, `calls_follow` : one level, and all levels.
-/

namespace Sluice.Expr.Walk

/-- The walk has read the same and now stands before what is left, not before `low`; or it refuses
the same.  Only under limits that are not ample it may be cut off instead. -/
inductive Follows {α : Type} (ts : List Located) (ample : Prop) (low : Nat) :
    Except Stop (α × Nat) → Outcome α → Prop
  | read (a : α) {pos : Nat} (hlow : low ≤ pos) (hpos : pos < ts.length) :
      Follows ts ample low (.ok (a, pos)) (.ok (a, ts.drop pos))
  | refused (r : Refusal) :
      Follows ts ample low (.error (.refused ⟨r.offset ts, r.flaw⟩)) (.error r)
  | cutOff {stop : Stop} (hample : ¬ ample) (hstop : stop.IsCutOff) (r : Outcome α) :
      Follows ts ample low (.error stop) r

section Walks

variable {ts : List Located} {ample ample' : Prop} {low low' pos : Nat} {α β : Type}
variable {x : Walk α} {r : Outcome α}

theorem Follows.mono {w : Except Stop (α × Nat)} (h : Follows ts ample low w r) (hlow : low' ≤ low)
    (hample : ample' → ample) : Follows ts ample' low' w r := by
  cases h with
  | read a hle hpos => exact .read a (Nat.le_trans hlow hle) hpos
  | refused e => exact .refused e
  | cutOff h hstop => exact .cutOff (fun h' => h (hample h')) hstop _

/-- One walk and then another one. -/
theorem Follows.bind (h : Follows ts ample low (x.run pos) r) (hample : ample' → ample)
    {f : α → Walk β} {g : α → List Located → Outcome β}
    (hf : ∀ a q, low ≤ q → q < ts.length →
      Follows ts ample' low' ((f a).run q) (g a (ts.drop q))) :
    Follows ts ample' low' ((x >>= f).run pos) (r.andThen g) := by
  rw [StateT.run_bind]
  generalize x.run pos = w at h
  cases h with
  | read a hle hpos => exact hf a _ hle hpos
  | refused e => exact .refused e
  | cutOff h hstop => exact .cutOff (fun h' => h (hample h')) hstop _

/-- Something is made of what one walk has read. -/
theorem Follows.map (h : Follows ts ample low (x.run pos) r) (hample : ample' → ample)
    (hlow : low' ≤ low) (f : α → β) :
    Follows ts ample' low' ((do return f (← x) : Walk β).run pos)
      (r.andThen fun a X => .ok (f a, X)) :=
  h.bind hample fun a _ hle hpos => .read (f a) (Nat.le_trans hlow hle) hpos

/-! ## Refusals -/

theorem offset_of_left {flaw : SyntaxFlaw} (hflaw : flaw ≠ .unexpectedEnd)
    (hpos : pos < ts.length) :
    Refusal.offset ⟨flaw, (ts.drop pos).length⟩ ts = offset ts pos := by
  unfold Refusal.offset offset
  dsimp only
  rw [List.length_drop, Nat.sub_sub_self (Nat.le_of_lt hpos),
    Nat.min_eq_left (Nat.le_sub_one_of_lt hpos)]
  split
  · exact absurd rfl hflaw
  · rfl

theorem offset_of_left_unexpectedEnd :
    Refusal.offset ⟨.unexpectedEnd, (ts.drop pos).length⟩ ts = offset ts (pos - 1) := by
  unfold Refusal.offset offset
  dsimp only
  have hplace : ts.length - (ts.drop pos).length - 1 = min (pos - 1) (ts.length - 1) := by
    rw [List.length_drop]
    omega
  rw [hplace]

theorem misfit_ne_unexpectedEnd {t : Token} (ht : t ≠ .eof) : misfit t ≠ .unexpectedEnd := by
  unfold misfit
  split
  · exact absurd rfl ht
  · simp

theorem follows_refuse {flaw : SyntaxFlaw} (hflaw : flaw ≠ .unexpectedEnd)
    (hpos : pos < ts.length) :
    Follows ts ample low ((refuse ts flaw : Walk α).run pos)
      (.error ⟨flaw, (ts.drop pos).length⟩) := by
  show Follows ts ample low (.error (.refused ⟨offset ts pos, flaw⟩)) _
  rw [← offset_of_left hflaw hpos]
  exact .refused ⟨flaw, (ts.drop pos).length⟩

/-- A token that does not fit has been taken, and goes back. -/
theorem follows_putBack {t : Token} (ht : t ≠ .eof) (hpos : pos < ts.length) :
    Follows ts ample low ((putBack ts t : Walk α).run (pos + 1))
      (.error ⟨misfit t, (ts.drop pos).length⟩) :=
  follows_refuse (misfit_ne_unexpectedEnd ht) hpos

/-- The end has not been taken, but goes back all the same. -/
theorem follows_putBack_eof :
    Follows ts ample low ((putBack ts .eof : Walk α).run pos)
      (.error ⟨misfit .eof, (ts.drop pos).length⟩) := by
  show Follows ts ample low (.error (.refused ⟨offset ts (pos - 1), .unexpectedEnd⟩)) _
  rw [← offset_of_left_unexpectedEnd]
  exact .refused ⟨.unexpectedEnd, (ts.drop pos).length⟩

/-! ## Tokens -/

section Tokens

variable (hts : Ended ts)

include hts

/-- What follows on a token depends on whether it is the end, which is not taken. -/
theorem follows_advance {f : Token → Walk α}
    (heof : peek ts pos = .eof → Follows ts ample low ((f .eof).run pos) r)
    (hne : peek ts pos ≠ .eof → pos + 1 < ts.length →
      Follows ts ample low ((f (peek ts pos)).run (pos + 1)) r) :
    Follows ts ample low ((advance ts >>= f).run pos) r := by
  rw [StateT.run_bind, run_advance]
  by_cases h : peek ts pos = .eof
  · have hlast := hts.peek_eq_eof_iff.1 h
    rw [if_neg (by omega), h]
    exact heof h
  · have hlt := hts.succ_lt h
    rw [if_pos (by omega)]
    exact hne h hlt

/-- A token is passed over. -/
theorem follows_skip (hne : peek ts pos ≠ .eof) {f : Unit → Walk α}
    (h : pos + 1 < ts.length → Follows ts ample low ((f ()).run (pos + 1)) r) :
    Follows ts ample low ((skip ts >>= f).run pos) r := by
  rw [StateT.run_bind, hts.run_skip hne]
  exact h (hts.succ_lt hne)

theorem follows_expect {wanted : Token} (hwanted : wanted ≠ .eof) (hpos : pos < ts.length) :
    Follows ts ample (pos + 1) ((expect ts wanted).run pos)
      (outcome (Expr.expect wanted (ts.drop pos))) := by
  rw [outcome_expect hwanted, hts.next_drop, List.tail_drop, expect, run_get_bind]
  by_cases h : peek ts pos = wanted
  · have hne : peek ts pos ≠ .eof := h ▸ hwanted
    rw [if_pos h, if_pos h, hts.run_skip hne]
    exact .read () (Nat.le_refl _) (hts.succ_lt hne)
  · rw [if_neg h, if_neg h]
    exact follows_refuse (by simp) hpos

theorem follows_name : Follows ts ample (pos + 1) ((name ts).run pos) (memberName (ts.drop pos)) := by
  rw [memberName, hts.next_drop, List.tail_drop]
  refine follows_advance hts (fun heof => ?_) fun hne hlt => ?_
  · rw [heof]
    exact follows_putBack_eof
  · cases h : peek ts pos with
    | ident name => exact .read name (Nat.le_refl _) hlt
    | eof => exact absurd h hne
    | _ => exact follows_putBack (by simp) (Nat.lt_of_succ_lt hlt)

theorem follows_key : Follows ts ample (pos + 1) ((key ts).run pos) (fieldKey (ts.drop pos)) := by
  rw [fieldKey, hts.next_drop, List.tail_drop]
  refine follows_advance hts (fun heof => ?_) fun hne hlt => ?_
  · rw [heof]
    exact follows_putBack_eof
  · cases h : peek ts pos with
    | str key => exact .read key (Nat.le_refl _) hlt
    | ident key => exact .read key (Nat.le_refl _) hlt
    | eof => exact absurd h hne
    | _ => exact follows_putBack (by simp) (Nat.lt_of_succ_lt hlt)

end Tokens

end Walks

/-! ## The parser -/

def field (ts : List Located) : Outcome (String × Expr) :=
  (fieldKey ts).andThen fun key Y => (outcome (Expr.expect .colon Y)).andThen fun _ Z =>
    (outcome (Expr.expression 0 Z)).andThen fun e W => .ok ((key, e), W)

/-- The fields behind an opening brace, up to the closing one; maybe none. -/
def fields (ts : List Located) : Outcome (List (String × Expr)) :=
  if next ts = .rightBrace then .ok ([], ts.tail) else outcome (entries ts)

theorem outcome_entries_eq (X : List Located) : outcome (entries X) =
    (field X).andThen fun f Y => orMore (fun Z => outcome (entries Z)) .rightBrace f Y := by
  rw [outcome_entries, field]
  simp only [outcome_entry, andThen_assoc, ok_andThen]

theorem outcome_operand_of_eof {X : List Located} (h : next X = .eof) :
    outcome (Expr.operand X) = .error ⟨misfit .eof, X.length⟩ := by
  cases X with
  | nil => exact outcome_operand_nil
  | cons t rest =>
    have ht : t.token = .eof := h
    rw [outcome_operand, ht]
    exact startWith_of_not_starts rfl rest

theorem ne_eof_of_continuation? {t : Token} {found : Continuation × Nat}
    (h : continuation? t = some found) : t ≠ .eof := by
  rintro rfl
  cases h

/-! ## Limits -/

/-- A turn for each of the tokens, and a depth of three for each token that is left at a position.
The last token always is. -/
def Ample (ts : List Located) (turns pos depth : Nat) : Prop :=
  ts.length ≤ turns ∧ 3 * (ts.length - min pos (ts.length - 1)) ≤ depth

/-- The functions follow the parser, as far as they may go.  A list needs three levels for the first
token: it calls for an expression and this one for an operand, before the token is taken.  The
others need less for it. -/
structure Calls.Follow (ts : List Located) (turns depth : Nat) (calls : Calls) : Prop where
  expression : ∀ power pos,
    Follows ts (Ample ts turns pos (depth + 1)) (pos + 1) ((calls.expression power).run pos)
      (outcome (Expr.expression power (ts.drop pos)))
  operand : ∀ pos,
    Follows ts (Ample ts turns pos (depth + 2)) (pos + 1) (calls.operand.run pos)
      (outcome (Expr.operand (ts.drop pos)))
  access : ∀ left k strength pos,
    continuation? (peek ts pos) = some (k, strength) → k = .field ∨ k = .index →
    Follows ts (Ample ts turns pos (depth + 3)) (pos + 1) ((calls.access left).run pos)
      (Expr.goOn k left (ts.drop (pos + 1)))
  list : ∀ close, close ≠ .eof → ∀ pos,
    Follows ts (Ample ts turns pos depth) (pos + 1) ((calls.list close).run pos)
      (outcome (arguments close (ts.drop pos)))
  map : ∀ pos,
    Follows ts (Ample ts turns pos (depth + 2)) (pos + 1) (calls.map.run pos)
      ((fields (ts.drop pos)).andThen fun fs X => .ok (.map fs, X))

variable {ts : List Located} {turns depth pos q : Nat} {α σ : Type}

theorem Ample.mono {depth' : Nat} (h : Ample ts turns pos depth)
    (hle : 3 * (ts.length - min q (ts.length - 1)) + depth ≤
      3 * (ts.length - min pos (ts.length - 1)) + depth') :
    Ample ts turns q depth' :=
  ⟨h.1, by have := h.2; omega⟩

/-! ## Loops -/

/-- What becomes of a turn: the loop goes on, or ends. -/
def settle (go : σ → List Located → Outcome α) : σ ⊕ α → List Located → Outcome α
  | .inl state, X => go state X
  | .inr a, X => .ok (a, X)

/-- One turn, and the loop from there. -/
theorem Follows.loop {ample ample' : Prop} {low low' k : Nat} {turn : σ → Walk (σ ⊕ α)} {state : σ}
    {r : Outcome (σ ⊕ α)} (h : Follows ts ample low ((turn state).run pos) r)
    (hample : ample' → ample) (hlow : low' ≤ low) {go : σ → List Located → Outcome α}
    (hgo : ∀ state q, low ≤ q → q < ts.length →
      Follows ts ample' low' ((loop turn k state).run q) (go state (ts.drop q))) :
    Follows ts ample' low' ((Walk.loop turn (k + 1) state).run pos) (r.andThen (settle go)) := by
  refine h.bind hample fun s q hle hq => ?_
  cases s with
  | inl state => exact hgo state q hle hq
  | inr a => exact .read a (Nat.le_trans hlow hle) hq

/-! ## Items between commas -/

section Items

/-- One more item, and whether there are more. -/
def itemOnce (one : List Located → Outcome α) (close : Token) (items : List α)
    (ts : List Located) : Outcome (List α ⊕ List α) :=
  (one ts).andThen fun a Y =>
    if next Y = .comma then .ok (.inl (items ++ [a]), Y.tail)
    else (outcome (Expr.expect close Y)).andThen fun _ X => .ok (.inr (items ++ [a]), X)

variable {item : Walk α} {close : Token} {one : List Located → Outcome α}
variable {more : List Located → Outcome (List α)}

theorem follows_itemTurn (hts : Ended ts) (hclose : close ≠ .eof) {ample : Prop}
    (hitem : Follows ts ample (pos + 1) (item.run pos) (one (ts.drop pos))) (items : List α) :
    Follows ts ample (pos + 1) ((itemTurn ts item close items).run pos)
      (itemOnce one close items (ts.drop pos)) := by
  refine hitem.bind id fun a q hle hq => ?_
  rw [run_get_bind, hts.next_drop, List.tail_drop]
  by_cases hcomma : peek ts q = .comma
  · rw [if_pos hcomma, if_pos hcomma]
    exact follows_skip hts (by simp [hcomma]) fun hlt => .read _ (Nat.le_succ_of_le hle) hlt
  · rw [if_neg hcomma, if_neg hcomma]
    exact (follows_expect hts hclose hq).map id (Nat.le_succ_of_le hle) _

/-- The items of a list, from some of them on. -/
theorem itemOnce_andThen (hmore : ∀ X, more X = (one X).andThen fun a Y => orMore more close a Y)
    (items : List α) (X : List Located) :
    ((itemOnce one close items X).andThen
      (settle fun items Y => (more Y).andThen fun as Z => .ok (items ++ as, Z))) =
      (more X).andThen fun as Z => .ok (items ++ as, Z) := by
  rw [hmore X, itemOnce, andThen_assoc, andThen_assoc]
  congr
  funext a Y
  rw [orMore]
  split
  · rw [andThen_assoc]
    simp [settle]
  · rw [andThen_assoc, andThen_assoc]
    simp [settle]

variable {need : Nat} (hts : Ended ts) (hclose : close ≠ .eof)
  (hmore : ∀ X, more X = (one X).andThen fun a Y => orMore more close a Y)
  (hitem : ∀ q, Follows ts (Ample ts turns q need) (q + 1) (item.run q) (one (ts.drop q)))

include hts hclose hmore hitem

theorem follows_loop_itemTurn (k : Nat) (items : List α) (pos : Nat) :
    Follows ts (ts.length ≤ min pos (ts.length - 1) + k ∧ Ample ts turns pos need) (pos + 1)
      ((loop (itemTurn ts item close) k items).run pos)
      ((more (ts.drop pos)).andThen fun as X => .ok (items ++ as, X)) := by
  induction k generalizing items pos with
  | zero =>
    have hlen := hts.length_pos
    exact .cutOff (by omega) (.inr rfl) _
  | succ k ih =>
    rw [← itemOnce_andThen hmore]
    refine (follows_itemTurn hts hclose (hitem pos) items).loop And.right (Nat.le_refl _)
      fun items q hle hq => ?_
    exact (ih items q).mono (Nat.le_succ_of_le hle) fun ⟨hk, hroom⟩ =>
      ⟨by omega, hroom.mono (by omega)⟩

/-- A loop has turns enough for all items if it may take one for each token. -/
theorem follows_enclosed (pos : Nat) :
    Follows ts (Ample ts turns pos need) (pos + 1) ((enclosed ts turns item close).run pos)
      (if next (ts.drop pos) = close then .ok ([], (ts.drop pos).tail)
        else more (ts.drop pos)) := by
  rw [enclosed, run_get_bind, hts.next_drop, List.tail_drop]
  by_cases h : peek ts pos = close
  · rw [if_pos h, if_pos h]
    exact follows_skip hts (h ▸ hclose) fun hlt => .read _ (Nat.le_refl _) hlt
  · rw [if_neg h, if_neg h]
    have hloop := follows_loop_itemTurn hts hclose hmore hitem turns [] pos
    have hnil : ((more (ts.drop pos)).andThen fun as X => .ok ([] ++ as, X)) =
        more (ts.drop pos) := by
      cases more (ts.drop pos) <;> rfl
    rw [hnil] at hloop
    exact hloop.mono (Nat.le_refl _) fun hroom =>
      ⟨Nat.le_trans hroom.1 (Nat.le_add_left _ _), hroom⟩

end Items

/-! ## One level -/

section Level

variable {inner : Calls} (h : inner.Follow ts turns depth) (hts : Ended ts)

include h hts

/-- The token that goes on has been seen, and is left to an access. -/
theorem follows_goOn {k : Continuation} {strength : Nat}
    (hk : continuation? (peek ts pos) = some (k, strength)) (left : Expr) :
    Follows ts (Ample ts turns pos (depth + 3)) (pos + 1) ((goOn ts inner k left).run pos)
      (Expr.goOn k left (ts.drop (pos + 1))) := by
  have hne := ne_eof_of_continuation? hk
  cases k with
  | field => exact h.access left _ _ _ hk (.inl rfl)
  | index => exact h.access left _ _ _ hk (.inr rfl)
  | pipe =>
    refine follows_skip hts hne fun hlt => ?_
    have hright := h.expression 1 (pos + 1)
    exact hright.map (·.mono (by omega)) (Nat.le_succ _) _
  | ternary =>
    refine follows_skip hts hne fun hlt => ?_
    have hyes := h.expression 0 (pos + 1)
    refine hyes.bind (·.mono (by omega)) fun yes q hle hq => ?_
    refine (follows_expect hts (by simp) hq).bind id fun _ q' hle' hq' => ?_
    have hno := h.expression 2 q'
    exact hno.map (·.mono (by omega)) (by omega) _
  | binary op right =>
    refine follows_skip hts hne fun hlt => ?_
    have hright := h.expression right (pos + 1)
    exact hright.map (·.mono (by omega)) (Nat.le_succ _) _

omit h hts in
theorem run_climbTurn_of_stops {power : Nat} {left : Expr}
    (h : ∀ k strength, continuation? (peek ts pos) = some (k, strength) → strength < power) :
    (climbTurn ts inner power left).run pos = .ok (.inr left, pos) := by
  rw [climbTurn, run_get_bind]
  split
  · rfl
  · next k strength hk =>
    rw [if_pos (h k strength hk)]
    rfl

theorem follows_climbTurn {k : Continuation} {strength power : Nat}
    (hk : continuation? (peek ts pos) = some (k, strength)) (hpower : ¬ strength < power)
    (left : Expr) :
    Follows ts (Ample ts turns pos (depth + 3)) (pos + 1)
      ((climbTurn ts inner power left).run pos)
      ((Expr.goOn k left (ts.drop (pos + 1))).andThen fun e X => .ok (.inl e, X)) := by
  rw [climbTurn, run_get_bind, hk]
  simp only [if_neg hpower]
  exact (follows_goOn h hts hk left).map id (Nat.le_refl _) _

/-- The loop has turns enough behind an operand if it may take one for each token that is left.  The
last one finds that nothing goes on and takes no token. -/
theorem follows_loop_climbTurn (power k : Nat) (left : Expr) (hpos : pos < ts.length) :
    Follows ts (ts.length ≤ pos + k ∧ Ample ts turns pos (depth + 3)) pos
      ((loop (climbTurn ts inner power) k left).run pos)
      (outcome (climb power left (ts.drop pos))) := by
  -- each turn takes a token, so as many turns are enough as there are tokens left
  induction k generalizing left pos with
  | zero => exact .cutOff (by omega) (.inr rfl) _
  | succ k ih =>
    rw [outcome_climb, hts.next_drop, List.tail_drop]
    have hstop (hstops : ∀ k strength, continuation? (peek ts pos) = some (k, strength) →
        strength < power) :
        (loop (climbTurn ts inner power) (k + 1) left).run pos = .ok (left, pos) := by
      rw [loop, StateT.run_bind, run_climbTurn_of_stops hstops]
      rfl
    cases hk : continuation? (peek ts pos) with
    | none =>
      rw [hstop (by simp [hk])]
      exact .read left (Nat.le_refl _) hpos
    | some found =>
      obtain ⟨op, strength⟩ := found
      dsimp only
      by_cases hpower : strength < power
      · rw [if_pos hpower, hstop (by simp [hk, hpower])]
        exact .read left (Nat.le_refl _) hpos
      · rw [if_neg hpower]
        have hturn := follows_climbTurn h hts hk hpower left
        have hgo : ((Expr.goOn op left (ts.drop (pos + 1))).andThen fun e X =>
            .ok (.inl e, X)).andThen (settle fun e X => outcome (climb power e X)) =
            (Expr.goOn op left (ts.drop (pos + 1))).andThen fun e X => outcome (climb power e X) :=
          andThen_assoc ..
        rw [← hgo]
        refine hturn.loop And.right (Nat.le_succ pos) fun e q hle hq => ?_
        exact (ih e hq).mono (Nat.le_of_succ_le hle) fun ⟨hk, hroom⟩ =>
          ⟨by omega, hroom.mono (by omega)⟩

theorem follows_expression (power pos : Nat) :
    Follows ts (Ample ts turns pos (depth + 2)) (pos + 1)
      ((expression ts turns inner power).run pos)
      (outcome (Expr.expression power (ts.drop pos))) := by
  rw [outcome_expression]
  refine (h.operand pos).bind id fun left q hle hq => ?_
  have hloop := follows_loop_climbTurn h hts power turns left hq
  refine hloop.mono hle fun hroom => ?_
  exact ⟨Nat.le_trans hroom.1 (Nat.le_add_left _ _), hroom.mono (by omega)⟩

/-- A token has been taken, and an operand starts with it or not. -/
theorem follows_operandFrom (hne : peek ts pos ≠ .eof) (hlt : pos + 1 < ts.length) :
    Follows ts (Ample ts turns pos (depth + 3)) (pos + 1)
      ((operandFrom ts inner (peek ts pos)).run (pos + 1))
      (startWith (peek ts pos) (ts.drop (pos + 1))) := by
  -- the token that has been taken makes up for three levels, which is enough for any call inside
  cases htoken : peek ts pos with
  | number n => exact .read _ (Nat.le_refl _) hlt
  | str s => exact .read _ (Nat.le_refl _) hlt
  | query path => exact .read _ (Nat.le_refl _) hlt
  | ident name =>
    rw [operandFrom, startWith, hts.next_drop, List.tail_drop]
    by_cases hc : isConstant name = true
    · rw [if_pos hc, if_pos hc]
      exact .read _ (Nat.le_refl _) hlt
    · rw [if_neg hc, if_neg hc, run_get_bind]
      by_cases hcall : peek ts (pos + 1) = .leftParen
      · rw [if_pos hcall, if_pos hcall]
        refine follows_skip hts (by simp [hcall]) fun hlt' => ?_
        have hargs := h.list .rightParen (by simp) (pos + 1 + 1)
        exact hargs.map (·.mono (by omega)) (by omega) _
      · rw [if_neg hcall, if_neg hcall]
        exact .read _ (Nat.le_refl _) hlt
  | not =>
    have hoperand := h.expression unaryPower (pos + 1)
    exact hoperand.map (·.mono (by omega)) (Nat.le_succ _) _
  | minus =>
    have hoperand := h.expression unaryPower (pos + 1)
    exact hoperand.map (·.mono (by omega)) (Nat.le_succ _) _
  | leftParen =>
    have hparens := h.expression 0 (pos + 1)
    refine hparens.bind (·.mono (by omega)) fun e q hle hq => ?_
    exact (follows_expect hts (by simp) hq).map id (by omega) _
  | leftBracket =>
    have hitems := h.list .rightBracket (by simp) (pos + 1)
    exact hitems.map (·.mono (by omega)) (Nat.le_succ _) _
  | leftBrace =>
    have hfields : startWith .leftBrace (ts.drop (pos + 1)) =
        (fields (ts.drop (pos + 1))).andThen fun fs X => .ok (.map fs, X) := by
      rw [startWith, fields]
      split <;> rfl
    have hmap := h.map (pos + 1)
    rw [hfields]
    exact hmap.mono (Nat.le_succ _) (·.mono (by omega))
  | eof => exact absurd htoken hne
  | _ =>
    have hleft : (ts.drop (pos + 1)).length + 1 = (ts.drop pos).length := by
      rw [List.length_drop, List.length_drop]
      omega
    rw [startWith_of_not_starts rfl, hleft]
    exact follows_putBack (by simp) (Nat.lt_of_succ_lt hlt)

theorem follows_operand (pos : Nat) :
    Follows ts (Ample ts turns pos (depth + 3)) (pos + 1) ((operand ts inner).run pos)
      (outcome (Expr.operand (ts.drop pos))) := by
  refine follows_advance hts (fun heof => ?_) fun hne hlt => ?_
  · rw [outcome_operand_of_eof (hts.next_drop.trans heof)]
    exact follows_putBack_eof
  · obtain ⟨o, hdrop⟩ := drop_eq_peek_cons (Nat.lt_of_succ_lt hlt)
    rw [hdrop, outcome_operand]
    exact follows_operandFrom h hts hne hlt

theorem follows_access {k : Continuation} {strength : Nat}
    (hk : continuation? (peek ts pos) = some (k, strength)) (haccess : k = .field ∨ k = .index)
    (left : Expr) :
    Follows ts (Ample ts turns pos (depth + 4)) (pos + 1) ((access ts inner left).run pos)
      (Expr.goOn k left (ts.drop (pos + 1))) := by
  have hspells := spells_of_continuation? hk
  refine follows_advance hts (absurd · (ne_eof_of_continuation? hk)) fun _ hlt => ?_
  rcases haccess with rfl | rfl
  · have htoken : peek ts pos = .dot := hspells.1
    rw [htoken]
    exact (follows_name hts).map id (Nat.le_succ _) _
  · have htoken : peek ts pos = .leftBracket := hspells.1
    rw [htoken]
    have hkey := h.expression 0 (pos + 1)
    refine hkey.bind (·.mono (by omega)) fun key q hle hq => ?_
    exact (follows_expect hts (by simp) hq).map id (by omega) _

theorem follows_list {close : Token} (hclose : close ≠ .eof) (pos : Nat) :
    Follows ts (Ample ts turns pos (depth + 1)) (pos + 1)
      ((enclosed ts turns (inner.expression 0) close).run pos)
      (outcome (arguments close (ts.drop pos))) := by
  rw [outcome_arguments hclose]
  exact follows_enclosed hts hclose (outcome_items close) (h.expression 0) pos

theorem follows_entry (pos : Nat) :
    Follows ts (Ample ts turns pos (depth + 3)) (pos + 1) ((entry ts inner).run pos)
      (field (ts.drop pos)) := by
  refine (follows_key hts).bind id fun key q hle hq => ?_
  refine (follows_expect hts (by simp) hq).bind id fun _ q' hle' hq' => ?_
  have hvalue := h.expression 0 q'
  exact hvalue.map (·.mono (by omega)) (by omega) _

theorem follows_map (pos : Nat) :
    Follows ts (Ample ts turns pos (depth + 3)) (pos + 1)
      ((Expr.map <$> enclosed ts turns (entry ts inner) .rightBrace).run pos)
      ((fields (ts.drop pos)).andThen fun fs X => .ok (.map fs, X)) := by
  have hfields := follows_enclosed hts (by simp) outcome_entries_eq (follows_entry h hts) pos
  exact hfields.map id (Nat.le_refl _) _

theorem Calls.Follow.deeper : (deeper ts turns inner).Follow ts turns (depth + 1) where
  expression := follows_expression h hts
  operand := follows_operand h hts
  access left _ _ _ hk haccess := follows_access h hts hk haccess left
  list _ hclose := follows_list h hts hclose
  map := follows_map h hts

end Level

/-! ## All levels -/

theorem follows_tooDeep {need low : Nat} {r : Outcome α}
    (hneed : need < 3 * (ts.length - min pos (ts.length - 1))) :
    Follows ts (Ample ts turns pos need) low ((throw .tooDeep : Walk α).run pos) r :=
  .cutOff (fun h => Nat.not_le_of_lt hneed h.2) (.inl rfl) r

theorem calls_follow (hts : Ended ts) (turns depth : Nat) :
    (calls ts turns depth).Follow ts turns depth := by
  have hlen := hts.length_pos
  induction depth with
  | zero =>
    constructor
    · exact fun _ _ => follows_tooDeep (by omega)
    · exact fun _ => follows_tooDeep (by omega)
    · intro left k strength pos hk _
      have hlt := hts.succ_lt (ne_eof_of_continuation? hk)
      exact follows_tooDeep (by omega)
    · exact fun _ _ _ => follows_tooDeep (by omega)
    · exact fun _ => follows_tooDeep (by omega)
  | succ depth ih => exact ih.deeper hts

end Sluice.Expr.Walk

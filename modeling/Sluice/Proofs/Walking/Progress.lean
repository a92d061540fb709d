import Sluice.Proofs.Walking.Agreement
import Sluice.Proofs.Grammar.Offending

/-!
# A walk makes progress

Every call that succeeds takes the walk further, and not behind the end of the tokens.  So the walk
ends: with a turn of each loop for each token, and with calls that go three levels deeper for each
token, it comes to what the parser gives.  An access is called only where one starts, so no walk
goes astray, whatever its limits.
-/

namespace Sluice.Expr.Walk

/-- A call of one of the functions. -/
inductive Call where
  | expression (power : Nat)
  | operand
  | access (left : Expr)
  | list (close : Token)
  | map

/-- Makes a call, whatever it reads. -/
def Calls.walk (calls : Calls) : Call → Walk Unit
  | .expression power => do let _ ← calls.expression power
  | .operand => do let _ ← calls.operand
  | .access left => do let _ ← calls.access left
  | .list close => do let _ ← calls.list close
  | .map => do let _ ← calls.map

/-- Whether an access starts at a position. -/
def StartsAccess (ts : List Located) (pos : Nat) : Prop :=
  peek ts pos = .dot ∨ peek ts pos = .leftBracket

instance (ts : List Located) (pos : Nat) : Decidable (StartsAccess ts pos) :=
  inferInstanceAs (Decidable (_ ∨ _))

/-- What the parser has read or refused, as a walk tells it. -/
def placed {α : Type} (ts : List Located) : Outcome α → Except Stop (α × Nat)
  | .ok (a, X) => .ok (a, ts.length - X.length)
  | .error r => .error (.refused ⟨r.offset ts, r.flaw⟩)

/-! ## What following the parser comes to -/

section

variable {ts : List Located} {ample : Prop} {low pos : Nat} {α : Type}
variable {w : Except Stop (α × Nat)} {r : Outcome α}

theorem Follows.eq_placed (h : Follows ts ample low w r) (hample : ample) : w = placed ts r := by
  cases h with
  | read a hle hpos => rw [placed, List.length_drop, Nat.sub_sub_self (Nat.le_of_lt hpos)]
  | refused e => rfl
  | cutOff h => exact absurd hample h

theorem Follows.le_of_ok (h : Follows ts ample low w r) {a : α} (hw : w = .ok (a, pos)) :
    low ≤ pos ∧ pos < ts.length := by
  cases h with
  | read a hle hpos =>
    cases hw
    exact ⟨hle, hpos⟩
  | refused e => cases hw
  | cutOff => cases hw

theorem Follows.ne_astray (h : Follows ts ample low w r) (e : SyntaxError) :
    w ≠ .error (.astray e) := by
  rintro rfl
  generalize hstop : Stop.astray e = stop at h
  cases h with
  | refused => cases hstop
  | cutOff _ hcut => rcases hcut with rfl | rfl <;> cases hstop

theorem Follows.not_isCutOff (h : Follows ts ample low w r) (hample : ample) {stop : Stop}
    (hw : w = .error stop) : ¬ stop.IsCutOff := by
  rw [h.eq_placed hample] at hw
  cases r with
  | ok => cases hw
  | error e =>
    cases hw
    rintro (h | h) <;> cases h

end

variable {ts : List Located} {pos turns depth : Nat}

/-! ## Single calls -/

/-- Where no access starts, the call of one goes astray at once. -/
theorem exists_run_access_eq (h : ¬ StartsAccess ts pos) (inner : Calls) (left : Expr) :
    ∃ e, (access ts inner left).run pos = .error (.astray e) := by
  rw [access, StateT.run_bind, run_advance]
  cases htoken : peek ts pos with
  | dot => exact absurd (.inl htoken) h
  | leftBracket => exact absurd (.inr htoken) h
  | _ => exact ⟨_, rfl⟩

theorem run_walk_access_cases (h : ¬ StartsAccess ts pos) (turns depth : Nat) (left : Expr) :
    (depth = 0 ∧ ((calls ts turns depth).walk (.access left)).run pos = .error .tooDeep) ∨
      (0 < depth ∧
        ∃ e, ((calls ts turns depth).walk (.access left)).run pos = .error (.astray e)) := by
  cases depth with
  | zero => exact .inl ⟨rfl, rfl⟩
  | succ depth =>
    obtain ⟨e, he⟩ := exists_run_access_eq h (calls ts turns depth) left
    refine .inr ⟨Nat.succ_pos depth, e, ?_⟩
    rw [calls, deeper, Calls.walk, StateT.run_bind, he]
    rfl

theorem exists_follows_access (hts : Ended ts) (h : StartsAccess ts pos) (turns depth : Nat)
    (left : Expr) :
    ∃ r, Follows ts (Ample ts turns pos (depth + 3)) (pos + 1)
      (((calls ts turns depth).access left).run pos) r := by
  have hcalls := calls_follow hts turns depth
  rcases h with htoken | htoken
  · have hk : continuation? (peek ts pos) = some (.field, 10) := by rw [htoken]; rfl
    exact ⟨_, hcalls.access left _ _ pos hk (.inl rfl)⟩
  · have hk : continuation? (peek ts pos) = some (.index, 10) := by rw [htoken]; rfl
    exact ⟨_, hcalls.access left _ _ pos hk (.inr rfl)⟩

/-- A call follows the parser, if it is not that of an access where none starts. -/
theorem follows_or_access (hts : Ended ts) {call : Call} (hclose : call ≠ .list .eof)
    (pos turns depth : Nat) :
    (∃ r, Follows ts (Ample ts turns pos depth) (pos + 1)
      (((calls ts turns depth).walk call).run pos) r) ∨
      ∃ left, call = .access left ∧ ¬ StartsAccess ts pos := by
  have h := calls_follow hts turns depth
  cases call with
  | expression power =>
    exact .inl ⟨_, (h.expression power pos).map (·.mono (by omega)) (Nat.le_refl _) _⟩
  | operand => exact .inl ⟨_, (h.operand pos).map (·.mono (by omega)) (Nat.le_refl _) _⟩
  | access left =>
    by_cases hstarts : StartsAccess ts pos
    · obtain ⟨r, hr⟩ := exists_follows_access hts hstarts turns depth left
      exact .inl ⟨_, hr.map (·.mono (by omega)) (Nat.le_refl _) _⟩
    · exact .inr ⟨left, rfl, hstarts⟩
  | list close =>
    have hclose' : close ≠ .eof := fun heq => hclose (by rw [heq])
    exact .inl ⟨_, (h.list close hclose' pos).map id (Nat.le_refl _) _⟩
  | map => exact .inl ⟨_, (h.map pos).map (·.mono (by omega)) (Nat.le_refl _) _⟩

/-- A call that succeeds takes the walk further, and not behind the end. -/
theorem lt_of_run_walk (hts : Ended ts) {call : Call} {stop : Nat} (hclose : call ≠ .list .eof)
    (h : ((calls ts turns depth).walk call).run pos = .ok ((), stop)) :
    pos < stop ∧ stop < ts.length := by
  rcases follows_or_access hts hclose pos turns depth with ⟨r, hr⟩ | ⟨left, rfl, hstarts⟩
  · exact hr.le_of_ok h
  · rcases run_walk_access_cases hstarts turns depth left with ⟨-, hrun⟩ | ⟨-, e, hrun⟩
    all_goals
      rw [hrun] at h
      cases h

/-- The only call that goes astray is that of an access where none starts. -/
theorem exists_astray_iff (hts : Ended ts) {call : Call} (hclose : call ≠ .list .eof) :
    (∃ e, ((calls ts turns depth).walk call).run pos = .error (.astray e)) ↔
      0 < depth ∧ (∃ left, call = .access left) ∧ ¬ StartsAccess ts pos := by
  constructor
  · rintro ⟨e, he⟩
    rcases follows_or_access hts hclose pos turns depth with ⟨r, hr⟩ | ⟨left, rfl, hstarts⟩
    · exact absurd he (hr.ne_astray e)
    · rcases run_walk_access_cases hstarts turns depth left with ⟨-, hrun⟩ | ⟨hdepth, -⟩
      · rw [hrun] at he
        cases he
      · exact ⟨hdepth, ⟨left, rfl⟩, hstarts⟩
  · rintro ⟨hdepth, ⟨left, rfl⟩, hstarts⟩
    rcases run_walk_access_cases hstarts turns depth left with ⟨hzero, -⟩ | ⟨-, hastray⟩
    · exact absurd hzero (Nat.ne_of_gt hdepth)
    · exact hastray

/-- Under ample limits no call is cut off. -/
theorem not_isCutOff_of_run_walk (hts : Ended ts) {call : Call} {stop : Stop}
    (hclose : call ≠ .list .eof) (hample : Ample ts turns pos depth)
    (h : ((calls ts turns depth).walk call).run pos = .error stop) : ¬ stop.IsCutOff := by
  rcases follows_or_access hts hclose pos turns depth with ⟨r, hr⟩ | ⟨left, rfl, hstarts⟩
  · exact hr.not_isCutOff hample h
  · rcases run_walk_access_cases hstarts turns depth left with ⟨hzero, -⟩ | ⟨-, e, hrun⟩
    · have hlen := hts.length_pos
      have hdepth := hample.2
      omega
    · rw [hrun] at h
      cases h
      rintro (h | h) <;> cases h

/-! ## All tokens -/

theorem follows_whole (hts : Ended ts) (turns depth : Nat) :
    Follows ts (Ample ts turns 0 (depth + 1)) 1 ((whole ts (calls ts turns depth)).run 0)
      (Expr.whole ts) := by
  refine ((calls_follow hts turns depth).expression 0 0).bind id fun tree q hle hq => ?_
  rw [hts.next_drop, run_get_bind]
  by_cases h : peek ts q = .eof
  · rw [if_pos h, if_pos h]
    exact .read tree hle hq
  · rw [if_neg h, if_neg h]
    exact follows_refuse (misfit_ne_unexpectedEnd h) hq

theorem parse_ne_astray (hts : Ended ts) (e : SyntaxError) :
    parse ts turns depth ≠ .error (.astray e) := by
  rw [parse]
  cases h : (whole ts (calls ts turns depth)).run 0 with
  | ok p => rintro ⟨⟩
  | error stop =>
    rintro ⟨⟩
    exact (follows_whole hts turns depth).ne_astray e h

theorem parse_eq_ofTokens (hts : Ended ts) (hample : Ample ts turns 0 (depth + 1)) :
    parse ts turns depth = (ofTokens ts).mapError .refused := by
  rw [parse, (follows_whole hts turns depth).eq_placed hample, ofTokens_eq_whole]
  cases Expr.whole ts <;> rfl

/-- Over the tokens of a text the walk ends, and comes to its tree or its error. -/
theorem parse_eq_of_tokenize {source : String} (h : Token.tokenize source = .ok ts) :
    parse ts ts.length (3 * ts.length) = (Expr.parse source).mapError .refused := by
  rw [parse_eq_ofTokens (Token.tokenize_ends h) ⟨Nat.le_refl _, by omega⟩, Expr.parse, h]
  rfl

/-- Over tokens with the only `eof` at their end, each call that succeeds takes the walk further, and
not behind the end, whatever the limits are; a list is closed by another token.  No walk goes astray
that does not start with an access where there is none.  With turns for all tokens and a depth of
three for each of them no call is cut off, and the walk comes to what the parser gives. -/
theorem calls_progress {ts : List Located} (hts : Ended ts) (turns depth : Nat) :
    (∀ call pos stop, call ≠ .list .eof →
      ((calls ts turns depth).walk call).run pos = .ok ((), stop) →
        pos < stop ∧ stop < ts.length) ∧
    (∀ call pos, call ≠ .list .eof →
      ((∃ e, ((calls ts turns depth).walk call).run pos = .error (.astray e)) ↔
        0 < depth ∧ (∃ left, call = .access left) ∧ ¬ StartsAccess ts pos)) ∧
    (∀ e, parse ts turns depth ≠ .error (.astray e)) ∧
    (ts.length ≤ turns → 3 * ts.length ≤ depth →
      (∀ call pos stop, call ≠ .list .eof →
        ((calls ts turns depth).walk call).run pos = .error stop → ¬ stop.IsCutOff) ∧
      (∀ power pos, ((calls ts turns depth).expression power).run pos =
        placed ts (outcome (Expr.expression power (ts.drop pos)))) ∧
      parse ts turns depth = (ofTokens ts).mapError .refused) := by
  refine ⟨fun call pos stop hclose hok => lt_of_run_walk hts hclose hok,
    fun call pos hclose => exists_astray_iff hts hclose, parse_ne_astray hts,
    fun hturns hdepth => ⟨fun call pos stop hclose hstop => ?_, fun power pos => ?_, ?_⟩⟩
  · exact not_isCutOff_of_run_walk hts hclose ⟨hturns, by omega⟩ hstop
  · exact ((calls_follow hts turns depth).expression power pos).eq_placed ⟨hturns, by omega⟩
  · exact parse_eq_ofTokens hts ⟨hturns, by omega⟩

/-- In `f(-a)[0].b` the walk comes to the end.  Read as the fields of a map, it is refused at the
parenthesis, and an access called at the name goes astray. -/
theorem calls_progress_through_accesses :
    let ts : List Located := [⟨.ident "f", 0⟩, ⟨.leftParen, 1⟩, ⟨.minus, 2⟩, ⟨.ident "a", 3⟩,
      ⟨.rightParen, 4⟩, ⟨.leftBracket, 5⟩, ⟨.number (.int 0 (by decide)), 6⟩, ⟨.rightBracket, 7⟩,
      ⟨.dot, 8⟩, ⟨.ident "b", 9⟩, ⟨.eof, 10⟩]
    Ended ts ∧
    ((calls ts 11 33).walk (.expression 0)).run 0 = .ok ((), 10) ∧ (0 < 10 ∧ 10 < ts.length) ∧
    ((calls ts 11 33).walk .map).run 0 = .error (.refused ⟨1, .expected .colon .leftParen⟩) ∧
    ¬ Stop.IsCutOff (.refused ⟨1, .expected .colon .leftParen⟩) ∧
    (∃ e, ((calls ts 11 33).walk (.access (.ident "f"))).run 0 = .error (.astray e)) ∧
    ((calls ts 11 33).expression 0).run 0 = placed ts (outcome (Expr.expression 0 ts)) ∧
    parse ts 11 33 = .ok (.field (.index (.call "f" [.unary .neg (.ident "a")])
      (.literal (.number (.int 0 (by decide))))) "b") := by
  intro ts
  have hts : Ended ts := ⟨ts.dropLast, 10, rfl, by decide⟩
  have hrun : ((calls ts 11 33).walk (.expression 0)).run 0 = .ok ((), 10) := by cbv
  have hmap : ((calls ts 11 33).walk .map).run 0 =
      .error (.refused ⟨1, .expected .colon .leftParen⟩) := by cbv
  have hparse : ofTokens ts = .ok (.field (.index (.call "f" [.unary .neg (.ident "a")])
      (.literal (.number (.int 0 (by decide))))) "b") := by cbv
  obtain ⟨hok, hastray, -, hample⟩ := calls_progress hts 11 33
  obtain ⟨hcut, hexpression, heq⟩ := hample (by decide) (by decide)
  refine ⟨hts, hrun, hok (.expression 0) 0 10 (by simp) hrun, hmap,
    hcut .map 0 _ (by simp) hmap, ?_, hexpression 0 0, ?_⟩
  · exact (hastray (.access (.ident "f")) 0 (by simp)).2 ⟨by decide, ⟨_, rfl⟩, by decide⟩
  · rw [heq, hparse]
    rfl

end Sluice.Expr.Walk

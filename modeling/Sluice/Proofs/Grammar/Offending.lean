import Mathlib
import Sluice.Proofs.Grammar.Acceptance
import Sluice.Proofs.Grammar.Lookahead
import Sluice.Proofs.Grammar.Viability

/-!
# Where syntax errors point

The offending token of a text is the first one with which no expression can go on.  The parser
refuses it and no other, and its error points at it, except where the text ends too early: this
error points at the last token before the end.

That it does not refuse too late is what `Refuses` says of all functions.  That it does not refuse
too early follows from completeness: a text that goes on with the refused token would be read, but
the parser cannot tell it from the text before it has seen that token.
-/

namespace Sluice.Expr

/-! ## The offending token -/

/-- Some expression starts with the tokens `us`, but none goes on with `t`; if `t` is the end, then
`us` is no whole expression. -/
structure Offending (all us : List Located) (t : Located) (rest : List Located) : Prop where
  split : all = us ++ t :: rest
  viable : Viable .pipe (us.map (·.token))
  stuck : t.token ≠ .eof → ¬ Viable .pipe ((us ++ [t]).map (·.token))
  incomplete : t.token = .eof → ∀ e, ¬ Derives .pipe (us.map (·.token)) e

theorem Viable.eof_not_mem {l : Layer} {us : List Token} (h : Viable l us) : Token.eof ∉ us := by
  obtain ⟨ws, e, hd⟩ := h
  exact fun hmem => hd.eof_not_mem (List.mem_append_left ws hmem)

theorem Viable.left {l : Layer} {us vs : List Token} (h : Viable l (us ++ vs)) : Viable l us := by
  obtain ⟨ws, e, hd⟩ := h
  exact ⟨vs ++ ws, e, by rwa [← List.append_assoc]⟩

theorem Offending.length_le {all us us' rest rest' : List Located} {t t' : Located}
    (h : Offending all us t rest) (h' : Offending all us' t' rest') : us'.length ≤ us.length := by
  refine Nat.le_of_not_lt fun hlt => ?_
  -- the offending token would belong to tokens with which an expression can go on
  have htaken : us ++ [t] <+: all := ⟨rest, by rw [h.split, List.append_assoc]; rfl⟩
  have htaken' : us' <+: all := ⟨t' :: rest', h'.split.symm⟩
  obtain ⟨vs, rfl⟩ := List.prefix_of_prefix_length_le htaken htaken' (by
    rw [List.length_append]
    exact hlt)
  have hv := h'.viable
  rw [List.map_append] at hv
  by_cases ht : t.token = .eof
  · exact hv.eof_not_mem (by simp [ht])
  · exact h.stuck ht hv.left

/-- There is at most one. -/
theorem Offending.unique {all us us' rest rest' : List Located} {t t' : Located}
    (h : Offending all us t rest) (h' : Offending all us' t' rest') :
    us = us' ∧ t = t' ∧ rest = rest' := by
  have hlen := Nat.le_antisymm (h'.length_le h) (h.length_le h')
  obtain ⟨hus, hrest⟩ := List.append_inj (h.split.symm.trans h'.split) hlen
  obtain ⟨ht, hr⟩ := List.cons.inj hrest
  exact ⟨hus, ht, hr⟩

/-! ## Whole lists of tokens -/

/-- What the parser makes of all tokens. -/
def whole (ts : List Located) : Outcome Expr :=
  (outcome (expression 0 ts)).andThen fun a X =>
    if next X = .eof then .ok (a, X) else .error ⟨misfit (next X), X.length⟩

theorem ofTokens_eq_whole (ts : List Located) :
    ofTokens ts = ((whole ts).map (·.1)).mapError fun r => ⟨r.offset ts, r.flaw⟩ := by
  unfold ofTokens whole
  cases expression 0 ts with
  | error e => rfl
  | ok tree =>
    by_cases hn : next tree.rest = .eof
    · simp [bind, Except.bind, outcome, Except.map, Outcome.andThen, hn]
    · simp [bind, Except.bind, outcome, Except.map, Outcome.andThen, hn, unexpected_eq]

theorem refuses_whole (ts : List Located) : Refuses (Viable .pipe) ts (whole ts) := by
  refine Refuses.andThen (refuses_pipe (refusesInTime ts)) fun a X ha => ?_
  obtain ⟨us, rfl, hd⟩ := exists_derives_of_expression ha
  refine Refuses.behind ?_
  split
  · exact refuses_ok _
  · exact refuses_misfit (hd.viable (Nat.le_refl _) [] (by simp))

theorem alike_whole {x x' : Located} (hx : x.token = x'.token) (xs xs' us : List Located) :
    Alike (x :: xs) (x' :: xs') (whole (us ++ x :: xs)) (whole (us ++ x' :: xs')) := by
  refine ((readAlike hx xs xs' us).expression 0).andThen (fun a Y => ?_) fun a vs _ => ?_
  · split <;> exact Nat.le_refl _
  · rw [next_append_eq hx xs xs' vs]
    split
    · exact .ok a vs
    · exact .error _ vs

theorem exists_whole_of_ofTokens {ts : List Located} {err : SyntaxError}
    (h : ofTokens ts = .error err) :
    ∃ e, whole ts = .error e ∧ err = ⟨e.offset ts, e.flaw⟩ := by
  rw [ofTokens_eq_whole] at h
  cases hw : whole ts with
  | ok p =>
    rw [hw] at h
    cases h
  | error e =>
    rw [hw] at h
    cases h
    exact ⟨e, rfl, rfl⟩

theorem not_ofTokens_eq_ok {ts : List Located} {e : Refusal} (h : whole ts = .error e) (a : Expr) :
    ofTokens ts ≠ .ok a := by
  rw [ofTokens_eq_whole, h]
  rintro ⟨⟩

/-- No expression goes on with the token that is refused. -/
theorem not_viable_of_whole {us rest : List Located} {t : Located} {e : Refusal}
    (h : whole (us ++ t :: rest) = .error e) (hat : e.left = (t :: rest).length) :
    ¬ Viable .pipe ((us ++ [t]).map (·.token)) := by
  rintro ⟨ws, a, hd⟩
  obtain ⟨vs, rfl⟩ : ∃ vs : List Located, vs.map (·.token) = ws := by
    refine ⟨ws.map fun w => ⟨w, 0⟩, ?_⟩
    rw [List.map_map]
    exact List.map_id ws
  have hd' : Derives .pipe ((us ++ t :: vs).map (·.token)) a := by simpa using hd
  have hne : ∀ u ∈ us ++ t :: vs, u.token ≠ .eof := fun u hu heq =>
    hd'.eof_not_mem (List.mem_map.2 ⟨u, hu, heq⟩)
  -- the tokens that go on like this are read up to the end, and alike up to `t`
  have haccept := (ofTokens_eq_ok_iff (o := 0) hne).2 hd'
  rw [List.append_assoc, List.cons_append] at haccept
  have halike := alike_whole (rfl : t.token = t.token) rest (vs ++ [⟨.eof, 0⟩]) us
  rw [h] at halike
  cases hother : whole (us ++ t :: (vs ++ [⟨.eof, 0⟩])) with
  | error e' => exact not_ofTokens_eq_ok hother a haccept
  | ok p =>
    rw [hother] at halike
    cases halike with
    | beyond hlt => exact Nat.lt_irrefl _ (hat ▸ hlt)

/-- The end is behind all other tokens. -/
theorem eq_of_append_eof {ts us rest : List Located} {t : Located} {o : Nat}
    (hts : ∀ t ∈ ts, t.token ≠ .eof) (h : ts ++ [⟨.eof, o⟩] = us ++ t :: rest)
    (ht : t.token = .eof) : us = ts := by
  rcases List.append_eq_append_iff.1 h with ⟨vs, rfl, hvs⟩ | ⟨vs, rfl, hvs⟩
  · cases vs with
    | nil => exact List.append_nil ts
    | cons v vs => cases vs <;> cases hvs
  · cases vs with
    | nil => exact (List.append_nil us).symm
    | cons v vs =>
      cases hvs
      exact absurd ht (hts t (List.mem_append_right us List.mem_cons_self))

theorem exists_offending {ts : List Located} {o : Nat} (hts : ∀ t ∈ ts, t.token ≠ .eof)
    {e : Refusal} (h : whole (ts ++ [⟨.eof, o⟩]) = .error e) :
    ∃ us t rest, Offending (ts ++ [⟨.eof, o⟩]) us t rest ∧ e.At (t :: rest) := by
  obtain ⟨us, X, hsplit, hat, hv⟩ := refuses_whole _ e h
  cases X with
  | nil =>
    rw [List.append_nil] at hsplit
    refine absurd ?_ hv.eof_not_mem
    rw [← hsplit]
    simp
  | cons t rest =>
    refine ⟨us, t, rest, ⟨hsplit, hv, fun _ => ?_, fun ht a hd => ?_⟩, hat⟩
    · rw [hsplit] at h
      exact not_viable_of_whole h hat.1
    · rw [eq_of_append_eof hts hsplit ht] at hd
      exact not_ofTokens_eq_ok h a ((ofTokens_eq_ok_iff hts).2 hd)

/-! ## What is reported -/

/-- What is reported of the offending token `t`, which comes behind `us`: the token and its offset,
but if the text ends too early the offset of the last token before the end. -/
inductive Reported (us : List Located) (t : Located) : SyntaxError → Prop
  | unexpected : t.token ≠ .eof → Reported us t ⟨t.offset, .unexpected t.token⟩
  | expected (wanted : Token) : Reported us t ⟨t.offset, .expected wanted t.token⟩
  | unexpectedEnd : t.token = .eof →
      Reported us t ⟨(us.getLast?.map (·.offset)).getD t.offset, .unexpectedEnd⟩

theorem offset_of_ne_unexpectedEnd {flaw : SyntaxFlaw} (h : flaw ≠ .unexpectedEnd)
    (us rest : List Located) (t : Located) :
    Refusal.offset ⟨flaw, (t :: rest).length⟩ (us ++ t :: rest) = t.offset := by
  have ht : (us ++ t :: rest)[us.length]? = some t := by simp
  unfold Refusal.offset
  dsimp only
  rw [List.length_append, Nat.add_sub_cancel]
  split
  · exact absurd rfl h
  · rw [ht]
    rfl

theorem offset_unexpectedEnd (us rest : List Located) (t : Located) :
    Refusal.offset ⟨.unexpectedEnd, (t :: rest).length⟩ (us ++ t :: rest) =
      (us.getLast?.map (·.offset)).getD t.offset := by
  unfold Refusal.offset
  dsimp only
  rw [List.length_append, Nat.add_sub_cancel]
  rcases List.eq_nil_or_concat us with rfl | ⟨us, u, rfl⟩
  · rfl
  · simp

theorem reported_of_at {us rest : List Located} {t : Located} {e : Refusal}
    (h : e.At (t :: rest)) : Reported us t ⟨e.offset (us ++ t :: rest), e.flaw⟩ := by
  obtain ⟨flaw, left⟩ := e
  obtain ⟨rfl, rfl | ⟨wanted, rfl⟩⟩ := h
  · dsimp only [next]
    by_cases ht : t.token = .eof
    · have hmisfit : misfit t.token = .unexpectedEnd := by rw [ht, misfit]
      rw [hmisfit, offset_unexpectedEnd]
      exact .unexpectedEnd ht
    · have hmisfit : misfit t.token = .unexpected t.token := by
        unfold misfit
        split
        · next h => exact absurd h ht
        · rfl
      rw [hmisfit, offset_of_ne_unexpectedEnd (by simp)]
      exact .unexpected ht
  · dsimp only [next]
    rw [offset_of_ne_unexpectedEnd (by simp)]
    exact .expected wanted

/-- The text that the parser refuses has one offending token, and this is what the error tells:
where the token stands and which one it is, if the text does not end too early. -/
theorem parse_points_at_offending {source : String} {all : List Located} {err : SyntaxError}
    (hall : Token.tokenize source = .ok all) (herr : parse source = .error err) :
    ∃ us t rest, Offending all us t rest ∧ Reported us t err ∧
      ∀ us' t' rest', Offending all us' t' rest' → us = us' ∧ t = t' ∧ rest = rest' := by
  obtain ⟨ts, o, rfl, hts⟩ := Token.tokenize_ends hall
  have hparse : parse source = ofTokens (ts ++ [⟨.eof, o⟩]) := by
    unfold parse
    rw [hall]
    rfl
  obtain ⟨e, he, rfl⟩ := exists_whole_of_ofTokens (hparse ▸ herr)
  obtain ⟨us, t, rest, hoff, hat⟩ := exists_offending hts he
  refine ⟨us, t, rest, hoff, ?_, fun _ _ _ h => hoff.unique h⟩
  rw [hoff.split]
  exact reported_of_at hat

/-- In `f(a, [1 2)`, the second number stands where the list could be closed. -/
theorem parse_points_at_second_number :
    let one : Number := .int 1 (by decide)
    let two : Number := .int 2 (by decide)
    let all : List Located := [⟨.ident "f", 0⟩, ⟨.leftParen, 1⟩, ⟨.ident "a", 2⟩, ⟨.comma, 3⟩,
      ⟨.leftBracket, 5⟩, ⟨.number one, 6⟩, ⟨.number two, 8⟩, ⟨.rightParen, 9⟩, ⟨.eof, 10⟩]
    Token.tokenize "f(a, [1 2)" = .ok all ∧
    parse "f(a, [1 2)" = .error ⟨8, .expected .rightBracket (.number two)⟩ ∧
    ∃ us rest, Offending all us ⟨.number two, 8⟩ rest := by
  intro one two all
  have hall : Token.tokenize "f(a, [1 2)" = .ok all := by cbv
  have herr : parse "f(a, [1 2)" = .error ⟨8, .expected .rightBracket (.number two)⟩ := by cbv
  obtain ⟨us, ⟨token, offset⟩, rest, hoff, hreport, -⟩ := parse_points_at_offending hall herr
  generalize hr : (⟨8, .expected .rightBracket (.number two)⟩ : SyntaxError) = r at hreport
  cases hreport with
  | expected wanted =>
    cases hr
    exact ⟨hall, herr, us, rest, hoff⟩
  | unexpected => cases hr
  | unexpectedEnd =>
    injection hr with _ hflaw
    cases hflaw

/-- Of `1 +`, the end is the offending token, at offset 3.  The error points at the operator. -/
theorem parse_points_before_end :
    ¬ ∀ (source : String) (all us rest : List Located) (t : Located) (err : SyntaxError),
      Token.tokenize source = .ok all → parse source = .error err → Offending all us t rest →
        err.offset = t.offset := by
  intro h
  let one : Located := ⟨.number (.int 1 (by decide)), 0⟩
  let plus : Located := ⟨.plus, 2⟩
  let all : List Located := [one, plus] ++ [⟨.eof, 3⟩]
  have hall : Token.tokenize "1 +" = .ok all := by cbv
  have herr : parse "1 +" = .error ⟨2, .unexpectedEnd⟩ := by cbv
  have hone : Derives .primary [one.token] (.literal (.number (.int 1 (by decide)))) := .number _
  have hsum : Derives .sum ([one.token] ++ .plus :: [.str ""]) (.binary .add _ _) :=
    .binary (by decide) (hone.loosen (by decide)) (derives_empty _)
  have hnone : ∀ e, ¬ Derives .pipe [one.token, .plus] e := by
    intro e hd
    have hne : ∀ t ∈ [one, plus], t.token ≠ .eof := by simp [one, plus]
    have haccept := (ofTokens_eq_ok_iff (o := 3) hne).2 hd
    have hrefused : ofTokens all = .error ⟨2, .unexpectedEnd⟩ := by cbv
    rw [hrefused] at haccept
    cases haccept
  have hoff : Offending all [one, plus] ⟨.eof, 3⟩ [] := {
    split := rfl
    viable := hsum.viable (by decide) [.str ""] rfl
    stuck := fun h => absurd rfl h
    incomplete := fun _ => hnone }
  exact absurd (h "1 +" all _ _ _ _ hall herr hoff) (by decide)

end Sluice.Expr

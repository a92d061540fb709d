import Sluice.Proofs.Json.Lexemes
import Sluice.Proofs.Lexing.Bytes

/-!
# A token's own text

What the lexer splits off and what it leaves make up the text, and what it splits off reads the same
when it stands alone: a token does not depend on what comes behind it once it has ended.
-/

namespace Sluice.Token

variable {c : Char} {cs body rest : List Char} {t : Token}

theorem head?_of_append {text : List Char} (h : cs = text ++ rest) :
    text.head? = none ∨ text.head? = cs.head? := by
  cases text with
  | nil => exact .inl rfl
  | cons c text => exact .inr (h ▸ rfl)

/-! ## Numerals -/

def isSign (c : Char) : Bool := c = '+' ∨ c = '-'

theorem numeral_digit (isFloat : Bool) (hc : c.isDigit = true) :
    numeral isFloat (c :: cs) = onto c (numeral isFloat cs) := by
  rw [numeral.eq_def]
  exact if_pos hc

theorem numeral_point (h : cs.head?.any Char.isDigit = true) :
    numeral false ('.' :: cs) = onto '.' (numeral true cs) := by
  rw [numeral.eq_def]
  dsimp only
  rw [if_neg (by decide), if_pos ⟨rfl, Bool.false_ne_true, h⟩]

theorem not_isDigit_of_exponent (hc : c = 'e' ∨ c = 'E') : ¬ c.isDigit = true ∧ c ≠ '.' := by
  rcases hc with rfl | rfl <;> decide

theorem numeral_sign (isFloat : Bool) {s : Char} (hc : c = 'e' ∨ c = 'E') (hs : isSign s = true) :
    numeral isFloat (c :: s :: cs) = onto c (onto s (numeral true cs)) := by
  obtain ⟨hdigit, hpoint⟩ := not_isDigit_of_exponent hc
  rw [numeral.eq_def]
  dsimp only
  rw [if_neg hdigit, if_neg fun h => hpoint h.1, if_pos hc, if_pos (of_decide_eq_true hs)]

theorem numeral_exponent (isFloat : Bool) (hc : c = 'e' ∨ c = 'E')
    (hcs : cs.head?.any isSign = false) :
    numeral isFloat (c :: cs) = onto c (numeral true cs) := by
  obtain ⟨hdigit, hpoint⟩ := not_isDigit_of_exponent hc
  rw [numeral.eq_def]
  dsimp only
  rw [if_neg hdigit, if_neg fun h => hpoint h.1, if_pos hc]
  cases cs with
  | nil => rfl
  | cons s cs => exact if_neg (of_decide_eq_false hcs)

theorem numeral_stop (isFloat : Bool) (hdigit : ¬ c.isDigit = true)
    (hpoint : ¬ (c = '.' ∧ ¬ isFloat = true ∧ cs.head?.any Char.isDigit = true))
    (hexp : ¬ (c = 'e' ∨ c = 'E')) : numeral isFloat (c :: cs) = ([], isFloat, c :: cs) := by
  rw [numeral.eq_def]
  dsimp only
  rw [if_neg hdigit, if_neg hpoint, if_neg hexp]

/-- How a numeral goes on, whatever the text is. -/
theorem numeral_induction {motive : Bool → List Char → Prop}
    (nil : ∀ isFloat, motive isFloat [])
    (digit : ∀ isFloat c cs, c.isDigit = true → motive isFloat cs → motive isFloat (c :: cs))
    (point : ∀ cs, cs.head?.any Char.isDigit = true → motive true cs → motive false ('.' :: cs))
    (sign : ∀ isFloat c s cs, (c = 'e' ∨ c = 'E') → isSign s = true → motive true cs →
      motive isFloat (c :: s :: cs))
    (exponent : ∀ isFloat c cs, (c = 'e' ∨ c = 'E') → cs.head?.any isSign = false →
      motive true cs → motive isFloat (c :: cs))
    (stop : ∀ isFloat c cs, ¬ c.isDigit = true →
      ¬ (c = '.' ∧ ¬ isFloat = true ∧ cs.head?.any Char.isDigit = true) →
      ¬ (c = 'e' ∨ c = 'E') → motive isFloat (c :: cs)) (isFloat : Bool) (cs : List Char) :
    motive isFloat cs := by
  fun_induction numeral isFloat cs with
  | case1 isFloat => exact nil isFloat
  | case2 isFloat c cs hc ih => exact digit isFloat c cs hc ih
  | case3 isFloat c cs _ hpoint ih =>
    obtain ⟨rfl, hfloat, hcs⟩ := hpoint
    rw [Bool.not_eq_true] at hfloat
    subst hfloat
    exact point cs hcs ih
  | case4 isFloat c _ hc => exact exponent isFloat c [] hc rfl (nil true)
  | case5 isFloat c _ hc s cs hs _ ih => exact sign isFloat c s cs hc (decide_eq_true hs) ih
  | case6 isFloat c _ hc s cs hs _ ih =>
    exact exponent isFloat c (s :: cs) hc (decide_eq_false hs) ih
  | case7 isFloat c cs hdigit hpoint hexp => exact stop isFloat c cs hdigit hpoint hexp

theorem numeral_append (isFloat : Bool) (cs : List Char) :
    (numeral isFloat cs).1 ++ (numeral isFloat cs).2.2 = cs := by
  induction isFloat, cs using numeral_induction with
  | nil => rfl
  | digit isFloat c cs hc ih => rw [numeral_digit isFloat hc]; exact congrArg (c :: ·) ih
  | point cs hcs ih => rw [numeral_point hcs]; exact congrArg ('.' :: ·) ih
  | sign isFloat c s cs hc hs ih =>
    rw [numeral_sign isFloat hc hs]
    exact congrArg (c :: s :: ·) ih
  | exponent isFloat c cs hc hcs ih =>
    rw [numeral_exponent isFloat hc hcs]
    exact congrArg (c :: ·) ih
  | stop isFloat c cs hdigit hpoint hexp => rw [numeral_stop isFloat hdigit hpoint hexp]; rfl

/-- A numeral starts with a digit if the text does. -/
theorem numeral_head? (isFloat : Bool) (h : cs.head?.any Char.isDigit = true) :
    (numeral isFloat cs).1.head? = cs.head? := by
  cases cs with
  | nil => cases h
  | cons c cs => rw [numeral_digit isFloat h]; rfl

theorem numeral_alone (isFloat : Bool) (cs : List Char) :
    numeral isFloat (numeral isFloat cs).1 =
      ((numeral isFloat cs).1, (numeral isFloat cs).2.1, []) := by
  induction isFloat, cs using numeral_induction with
  | nil => rfl
  | digit isFloat c cs hc ih =>
    rw [numeral_digit isFloat hc]
    exact (numeral_digit isFloat hc).trans (congrArg (onto c) ih)
  | point cs hcs ih =>
    rw [numeral_point hcs]
    -- the digit that lets the point in is split off as well
    exact (numeral_point (numeral_head? true hcs ▸ hcs)).trans (congrArg (onto '.') ih)
  | sign isFloat c s cs hc hs ih =>
    rw [numeral_sign isFloat hc hs]
    exact (numeral_sign isFloat hc hs).trans (congrArg (onto c ∘ onto s) ih)
  | exponent isFloat c cs hc hcs ih =>
    rw [numeral_exponent isFloat hc hcs]
    have hnone : (numeral true cs).1.head?.any isSign = false := by
      rcases head?_of_append (numeral_append true cs).symm with h | h
      · rw [h]; rfl
      · rw [h, hcs]
    exact (numeral_exponent isFloat hc hnone).trans (congrArg (onto c) ih)
  | stop isFloat c cs hdigit hpoint hexp => rw [numeral_stop isFloat hdigit hpoint hexp]; rfl

/-! ## Quoted texts and queries -/

theorem quotedPart_split {escaped : Bool} (h : quotedPart escaped cs = some (body, rest)) :
    cs = body ++ rest ∧ quotedPart escaped body = some (body, []) := by
  induction cs generalizing escaped body with
  | nil => cases h
  | cons c cs ih =>
    rw [quotedPart] at h
    split at h
    · next hback =>
      obtain ⟨⟨body', rest'⟩, hcs, hp⟩ := Option.map_eq_some_iff.1 h
      cases hp
      obtain ⟨rfl, halone⟩ := ih hcs
      exact ⟨rfl, by rw [quotedPart, if_pos hback, halone]; rfl⟩
    · next hback =>
      split at h
      · next hquote =>
        cases h
        exact ⟨rfl, by rw [quotedPart, if_neg hback, if_pos hquote]⟩
      · next hquote =>
        obtain ⟨⟨body', rest'⟩, hcs, hp⟩ := Option.map_eq_some_iff.1 h
        cases hp
        obtain ⟨rfl, halone⟩ := ih hcs
        exact ⟨rfl, by rw [quotedPart, if_neg hback, if_neg hquote, halone]; rfl⟩

theorem queryPart_nil {state : QueryState} (h : state.step? c = none) :
    queryPart state [] = some ([], []) := by
  cases state with
  | bracket depth quote escaped =>
    -- brackets go on whatever comes
    cases quote <;> rw [QueryState.step?] at h <;> (repeat' split at h) <;> cases h
  | _ => rfl

theorem queryPart_split {state : QueryState} (h : queryPart state cs = some (body, rest)) :
    cs = body ++ rest ∧ queryPart state body = some (body, []) := by
  induction cs generalizing state body with
  | nil =>
    have hbody : body = [] ∧ rest = [] := by
      cases state <;> cases h <;> exact ⟨rfl, rfl⟩
    obtain ⟨rfl, rfl⟩ := hbody
    exact ⟨rfl, h⟩
  | cons c cs ih =>
    rw [queryPart] at h
    split at h
    · next state' hstep =>
      obtain ⟨⟨body', rest'⟩, hcs, hp⟩ := Option.map_eq_some_iff.1 h
      cases hp
      obtain ⟨rfl, halone⟩ := ih hcs
      refine ⟨rfl, ?_⟩
      rw [queryPart, hstep]
      exact congrArg (Option.map (onto c)) halone
    · next hstep =>
      cases h
      exact ⟨rfl, queryPart_nil hstep⟩

/-! ## Tokens -/

theorem numberLexeme_eq (cs : List Char) :
    numberLexeme cs = match numberOf? (numeral false cs).2.1 (numeral false cs).1 with
      | some n => .ok (.number n, (numeral false cs).2.2)
      | none => .error (.badNumber (String.ofList (numeral false cs).1)) := rfl

theorem numberLexeme_split (h : numberLexeme cs = .ok (t, rest)) :
    rest = (numeral false cs).2.2 ∧ numberLexeme (numeral false cs).1 = .ok (t, []) := by
  rw [numberLexeme_eq] at h
  split at h
  · next hnumber =>
    cases h
    refine ⟨rfl, ?_⟩
    rw [numberLexeme_eq, numeral_alone]
    simp only [hnumber]
  · cases h

theorem quoted_split (h : longLexeme '"' cs = .ok (t, rest)) :
    ∃ text, cs = text ++ rest ∧ longLexeme '"' text = .ok (t, []) := by
  rw [longLexeme, if_pos rfl] at h
  split at h
  · cases h
  · next body rest' hbody =>
    obtain ⟨rfl, halone⟩ := quotedPart_split hbody
    split at h
    · next hread =>
      cases h
      refine ⟨body, rfl, ?_⟩
      rw [longLexeme, if_pos rfl, halone]
      simp only [hread]
    · cases h

theorem dropWhile_eq_cons {p : Char → Bool} (h : cs.dropWhile p = c :: rest) :
    p c = false ∧ cs = cs.takeWhile p ++ c :: rest := by
  have hhead := List.head?_dropWhile_not p cs
  rw [h] at hhead
  refine ⟨hhead, ?_⟩
  rw [← h, List.takeWhile_append_dropWhile]

theorem raw_split (h : longLexeme '\x60' cs = .ok (t, rest)) :
    ∃ text, cs = text ++ rest ∧ longLexeme '\x60' text = .ok (t, []) := by
  rw [longLexeme, if_neg (by decide), if_pos rfl] at h
  split at h
  · cases h
  · next tick rest' hdrop =>
    cases h
    obtain ⟨htick, hcs⟩ := dropWhile_eq_cons hdrop
    have htick : tick = '\x60' := by simpa using htick
    subst htick
    have hbody : ∀ c ∈ cs.takeWhile (· ≠ '\x60'), decide (c ≠ '\x60') = true := by
      intro c hc
      exact List.all_eq_true.1 (List.all_takeWhile) c hc
    have hclose : ∀ c ∈ ['\x60'].head?, decide (c ≠ '\x60') = false := by
      rintro c hc
      cases hc
      rfl
    obtain ⟨htake, hdrop'⟩ := takeWhile_dropWhile_append hbody hclose
    refine ⟨cs.takeWhile (· ≠ '\x60') ++ ['\x60'], ?_, ?_⟩
    · rw [List.append_assoc]
      exact hcs
    · rw [longLexeme, if_neg (by decide), if_pos rfl, htake, hdrop']

theorem query_split (h : longLexeme '$' cs = .ok (t, rest)) :
    ∃ text, cs = text ++ rest ∧ longLexeme '$' text = .ok (t, []) := by
  rw [longLexeme, if_neg (by decide), if_neg (by decide), if_pos rfl] at h
  split at h
  · next body rest' hbody =>
    cases h
    obtain ⟨rfl, halone⟩ := queryPart_split hbody
    refine ⟨body, rfl, ?_⟩
    rw [longLexeme, if_neg (by decide), if_neg (by decide), if_pos rfl, halone]
  · cases h

theorem longLexeme_split (h : longLexeme c cs = .ok (t, rest)) :
    ∃ text, cs = text ++ rest ∧ longLexeme c text = .ok (t, []) := by
  by_cases hquote : c = '"'
  · subst hquote
    exact quoted_split h
  by_cases htick : c = '\x60'
  · subst htick
    exact raw_split h
  by_cases hdollar : c = '$'
  · subst hdollar
    exact query_split h
  have hlong : ∀ cs, longLexeme c cs = if c.isDigit then numberLexeme (c :: cs)
      else if startsIdent c then
        .ok (.ident (String.ofList (c :: cs.takeWhile inIdent)), cs.dropWhile inIdent)
      else .error (.unexpectedChar c) := by
    intro cs
    rw [longLexeme, if_neg hquote, if_neg htick, if_neg hdollar]
  rw [hlong] at h
  split at h
  · next hc =>
    obtain ⟨hrest, halone⟩ := numberLexeme_split h
    rw [numeral_digit false hc] at hrest halone
    refine ⟨(numeral false cs).1, ?_, ?_⟩
    · rw [hrest]
      exact (numeral_append false cs).symm
    · rw [hlong, if_pos hc]
      exact halone
  · next hdigit =>
    split at h
    · next hc =>
      cases h
      have hname : ∀ c ∈ cs.takeWhile inIdent, inIdent c = true :=
        List.all_eq_true.1 List.all_takeWhile
      have hend : ∀ c ∈ ([] : List Char).head?, inIdent c = false := by simp
      obtain ⟨htake, hdrop⟩ := takeWhile_dropWhile_append hname hend
      rw [List.append_nil] at htake hdrop
      refine ⟨cs.takeWhile inIdent, List.takeWhile_append_dropWhile.symm, ?_⟩
      rw [hlong, if_neg hdigit, if_pos hc, htake, hdrop]
    · cases h

/-- A token's own text reads as the token. -/
theorem lexeme_split (h : lexeme c cs = .ok (t, rest)) :
    ∃ text, cs = text ++ rest ∧ lexeme c text = .ok (t, []) := by
  rw [lexeme] at h
  split at h
  · next hdouble =>
    cases h
    cases cs with
    | nil => cases hdouble
    | cons d cs =>
      refine ⟨[d], rfl, ?_⟩
      rw [lexeme]
      rw [List.head?_cons] at hdouble ⊢
      rw [hdouble]
      rfl
  · next hdouble =>
    -- what does not go on as an operator of two characters does not when it stops early
    have hdouble' : ∀ text, cs = text ++ rest → text.head?.bind (double? c) = none := by
      intro text htext
      rcases head?_of_append htext with h | h
      · rw [h]; rfl
      · rw [h, hdouble]
    split at h
    · next hpoint =>
      obtain ⟨rfl, hnext⟩ := hpoint
      obtain ⟨hrest, halone⟩ := numberLexeme_split h
      rw [numeral_point hnext] at hrest halone
      have hcs : cs = (numeral true cs).1 ++ rest := by
        rw [hrest]
        exact (numeral_append true cs).symm
      refine ⟨(numeral true cs).1, hcs, ?_⟩
      rw [lexeme, hdouble' _ hcs]
      exact (if_pos ⟨rfl, numeral_head? true hnext ▸ hnext⟩).trans halone
    · next hpoint =>
      have hpoint' : ∀ text, cs = text ++ rest →
          ¬ (c = '.' ∧ text.head?.any Char.isDigit = true) := by
        intro text htext hc
        rcases head?_of_append htext with h | h
        · rw [h] at hc
          exact Bool.false_ne_true hc.2
        · exact hpoint ⟨hc.1, h ▸ hc.2⟩
      split at h
      · next hsingle =>
        cases h
        refine ⟨[], rfl, ?_⟩
        rw [lexeme, hdouble' [] rfl]
        simp only [hsingle]
        exact if_neg (hpoint' [] rfl)
      · next hsingle =>
        obtain ⟨text, htext, halone⟩ := longLexeme_split h
        refine ⟨text, htext, ?_⟩
        rw [lexeme, hdouble' text htext]
        simp only [hsingle]
        exact (if_neg (hpoint' text htext)).trans halone

/-- The rest of a text starts right behind its first token. -/
theorem tokensFrom_append {text : List Char} (hblank : ¬ isBlank c)
    (h : lexeme c (text ++ rest) = .ok (t, rest)) (offset : Nat) :
    tokensFrom offset (c :: text ++ rest) =
      (tokensFrom (offset + Text.byteLength (c :: text)) rest).map (⟨t, offset⟩ :: ·) := by
  rw [List.cons_append, tokensFrom_of_lexeme hblank h, ← List.cons_append,
    Text.byteLength_append_sub]

end Sluice.Token

import Sluice.Proofs.Lexing.Scan

/-!
# Scanning names and numerals

Names, numerals and blanks are ASCII, so their scan takes byte by byte what the lexer takes
character by character, and any other byte ends it.
-/

namespace Sluice.Token.Scan

open Text

variable {source cs : List Char} {pos : Nat} {c d : Char}

/-! ## Above ASCII -/

theorem ne_of_wide (hc : 128 ≤ c.toNat) (hd : d.toNat < 128) : c ≠ d := by
  rintro rfl
  exact absurd hc (Nat.not_le.2 hd)

theorem ascii_of_inIdent (h : inIdent c = true) : c.toNat < 128 := by
  rcases of_decide_eq_true h with halnum | rfl
  · rcases (Bool.or_eq_true _ _).mp halnum with halpha | hdigit
    · rcases (Bool.or_eq_true _ _).mp halpha with hupper | hlower
      · obtain ⟨-, hle⟩ := of_decide_eq_true hupper
        have hle : c.toNat ≤ 90 := UInt32.le_iff_toNat_le.1 hle
        omega
      · obtain ⟨-, hle⟩ := (Bool.and_eq_true _ _).mp hlower
        have hle : c.toNat ≤ 122 := UInt32.le_iff_toNat_le.1 (of_decide_eq_true hle)
        omega
    · obtain ⟨-, hle⟩ := Char.isDigit_iff_toNat.1 hdigit
      have hle : c.toNat ≤ 57 := hle
      omega
  · decide

theorem inIdent_of_wide (hc : 128 ≤ c.toNat) : inIdent c = false :=
  Bool.eq_false_iff.2 fun h => absurd (ascii_of_inIdent h) (Nat.not_lt.2 hc)

theorem isDigit_of_wide (hc : 128 ≤ c.toNat) : c.isDigit = false :=
  Bool.eq_false_iff.2 fun h =>
    Bool.false_ne_true ((inIdent_of_wide hc).symm.trans (inIdent_of_isDigit h))

theorem startsIdent_of_wide (hc : 128 ≤ c.toNat) : startsIdent c = false :=
  Bool.eq_false_iff.2 fun h =>
    Bool.false_ne_true ((inIdent_of_wide hc).symm.trans (inIdent_of_startsIdent h))

theorem isBlank_of_wide (hc : 128 ≤ c.toNat) : isBlank c = false := by
  have hne : ∀ d : Char, d.toNat < 128 → c ≠ d := fun d => ne_of_wide hc
  simp [isBlank, hne ' ' (by decide), hne '\t' (by decide), hne '\n' (by decide),
    hne '\x0c' (by decide), hne '\r' (by decide)]

theorem isSign_of_wide (hc : 128 ≤ c.toNat) : isSign c = false := by
  simp [isSign, ne_of_wide hc (d := '+') (by decide), ne_of_wide hc (d := '-') (by decide)]

theorem single?_of_wide (hc : 128 ≤ c.toNat) : single? c = none := by
  unfold single?
  split <;> first | rfl | exact absurd hc (by decide)

theorem double?_of_wide_left (d : Char) (hc : 128 ≤ c.toNat) : double? c d = none := by
  unfold double?
  split <;> first | rfl | exact absurd hc (by decide)

theorem double?_of_wide_right (c : Char) (hd : 128 ≤ d.toNat) : double? c d = none := by
  unfold double?
  split <;> first | rfl | exact absurd hd (by decide)

/-! ## Runs of characters -/

theorem ascii_of {p : Char → Bool} (hp : ∀ c, 128 ≤ c.toNat → p c = false) (hc : p c = true) :
    c.toNat < 128 :=
  Nat.lt_of_not_le fun hwide => Bool.false_ne_true ((hp c hwide).symm.trans hc)

theorem any_peek {p : Char → Bool} (hp : ∀ c, 128 ≤ c.toNat → p c = false) (h : At source pos cs) :
    (peek source pos).any p = cs.head?.any p :=
  h.peek_head? hp

theorem skipWhile_step (p : Char → Bool) (pos : Nat) :
    skipWhile source p pos =
      if (peek source pos).any p = true then skipWhile source p (pos + 1) else pos := by
  rw [skipWhile.eq_def]
  cases peek source pos <;> rfl

/-- The scan of a class of ASCII characters takes the characters of the class. -/
theorem at_skipWhile {p : Char → Bool} (hp : ∀ c, 128 ≤ c.toNat → p c = false)
    (h : At source pos cs) : At source (skipWhile source p pos) (cs.dropWhile p) := by
  induction cs generalizing pos with
  | nil =>
    rw [skipWhile_step, any_peek hp h]
    exact h
  | cons c cs ih =>
    rw [skipWhile_step, any_peek hp h]
    by_cases hc : p c = true
    · rw [List.dropWhile_cons_of_pos hc]
      exact (if_pos hc).symm ▸ ih (h.tail_ascii (ascii_of hp hc))
    · rw [List.dropWhile_cons_of_neg hc]
      exact (if_neg hc).symm ▸ h

theorem at_nameEnd (h : At source pos cs) :
    At source (nameEnd source pos) (cs.dropWhile inIdent) :=
  at_skipWhile (fun _ => inIdent_of_wide) h

theorem name_eq (h : At source pos cs) : name source pos = some (cs.takeWhile inIdent) := by
  have hsplit : At source pos (cs.takeWhile inIdent ++ cs.dropWhile inIdent) := by
    rwa [List.takeWhile_append_dropWhile]
  exact hsplit.slice? (at_nameEnd h)

/-! ## Numerals -/

theorem numberEnd_step (isFloat : Bool) (hc : c.toNat < 128) (h : At source pos (c :: cs)) :
    numberEnd source isFloat pos =
      if c.isDigit then numberEnd source isFloat (pos + 1)
      else if c = '.' ∧ ¬ isFloat ∧ cs.head?.any Char.isDigit then numberEnd source true (pos + 1)
      else if c = 'e' ∨ c = 'E' then
        if cs.head?.any isSign then numberEnd source true (pos + 2)
        else numberEnd source true (pos + 1)
      else (pos, isFloat) := by
  have htail := h.tail_ascii hc
  rw [numberEnd.eq_def, h.peek_ascii hc]
  simp only [any_peek (fun _ => isDigit_of_wide) htail, any_peek (fun _ => isSign_of_wide) htail]

theorem numberEnd_eq (isFloat : Bool) (h : At source pos cs) :
    (numberEnd source isFloat pos).2 = (numeral isFloat cs).2.1 ∧
      At source (numberEnd source isFloat pos).1 (numeral isFloat cs).2.2 := by
  induction isFloat, cs using numeral_induction generalizing pos with
  | nil =>
    rw [numberEnd.eq_def, h.peek_end (Nat.le_refl pos)]
    exact ⟨rfl, h⟩
  | digit isFloat c cs hc ih =>
    have hascii := ascii_of (fun _ => isDigit_of_wide) hc
    rw [numberEnd_step isFloat hascii h, if_pos hc, numeral_digit isFloat hc]
    exact ih (h.tail_ascii hascii)
  | point cs hcs ih =>
    rw [numberEnd_step false (by decide) h, if_neg (by decide),
      if_pos ⟨rfl, Bool.false_ne_true, hcs⟩, numeral_point hcs]
    exact ih (h.tail_ascii (by decide))
  | sign isFloat c s cs hc hs ih =>
    have hascii : c.toNat < 128 := by rcases hc with rfl | rfl <;> decide
    obtain ⟨hdigit, hpoint⟩ := not_isDigit_of_exponent hc
    have hs' : (s :: cs).head?.any isSign = true := hs
    rw [numberEnd_step isFloat hascii h, if_neg hdigit, if_neg fun h => hpoint h.1, if_pos hc,
      if_pos hs', numeral_sign isFloat hc hs]
    exact ih ((h.tail_ascii hascii).tail_ascii (ascii_of (fun _ => isSign_of_wide) hs))
  | exponent isFloat c cs hc hcs ih =>
    have hascii : c.toNat < 128 := by rcases hc with rfl | rfl <;> decide
    obtain ⟨hdigit, hpoint⟩ := not_isDigit_of_exponent hc
    rw [numberEnd_step isFloat hascii h, if_neg hdigit, if_neg fun h => hpoint h.1, if_pos hc,
      hcs, if_neg Bool.false_ne_true, numeral_exponent isFloat hc hcs]
    exact ih (h.tail_ascii hascii)
  -- a character outside ASCII ends the numeral with its first byte
  | stop isFloat c cs hdigit hpoint hexp =>
    rw [numeral_stop isFloat hdigit hpoint hexp]
    have hend : numberEnd source isFloat pos = (pos, isFloat) := by
      rcases Nat.lt_or_ge c.toNat 128 with hascii | hwide
      · rw [numberEnd_step isFloat hascii h, if_neg hdigit, if_neg hpoint, if_neg hexp]
      · obtain ⟨d, hpeek, hd⟩ := h.peek_wide_head hwide
        rw [numberEnd.eq_def, hpeek]
        simp [isDigit_of_wide hd, ne_of_wide hd (d := '.') (by decide),
          ne_of_wide hd (d := 'e') (by decide), ne_of_wide hd (d := 'E') (by decide)]
    rw [hend]
    exact ⟨rfl, h⟩

end Sluice.Token.Scan

import Sluice.Json.Printer
import Sluice.Json.Reader

/-!
# Quoted texts read back

The reader of quoted texts undoes the escapes of the printer, character by character.
-/

namespace Sluice.Json

/-! ## What escapes look like -/

/-- The letters that stand behind a backslash, with the characters that they mean. -/
def letters : List (Char × Char) :=
  [('"', '"'), ('\\', '\\'), ('n', '\n'), ('r', '\r'), ('t', '\t'), ('b', '\x08'), ('f', '\x0c')]

/-- A character is written by a letter, by its number, or as itself. -/
theorem escape_cases (c : Char) :
    (∃ d, (d, c) ∈ letters ∧ escape c = ['\\', d]) ∨
    (c.toNat < 32 ∧
      escape c = ['\\', 'u', '0', '0', hexDigit (c.toNat / 16), hexDigit c.toNat]) ∨
    (c ≠ '"' ∧ c ≠ '\\' ∧ c ≠ '\n' ∧ ¬ c.toNat < 32 ∧ escape c = [c]) := by
  by_cases hletter : ∃ d, (d, c) ∈ letters
  · obtain ⟨d, hd⟩ := hletter
    refine .inl ⟨d, hd, ?_⟩
    simp only [letters, List.mem_cons, List.not_mem_nil, or_false, Prod.mk.injEq] at hd
    rcases hd with ⟨rfl, rfl⟩ | ⟨rfl, rfl⟩ | ⟨rfl, rfl⟩ | ⟨rfl, rfl⟩ | ⟨rfl, rfl⟩ | ⟨rfl, rfl⟩ |
      ⟨rfl, rfl⟩ <;> rfl
  · have hne : ∀ p ∈ letters, c ≠ p.2 := by
      rintro ⟨d, _⟩ hp rfl
      exact hletter ⟨d, hp⟩
    simp only [letters, List.forall_mem_cons] at hne
    obtain ⟨hquote, hback, hnewline, hreturn, htab, hbackspace, hfeed, -⟩ := hne
    rw [escape, if_neg hquote, if_neg hback, if_neg hnewline, if_neg hreturn, if_neg htab,
      if_neg hbackspace, if_neg hfeed]
    by_cases hcontrol : c.toNat < 32
    · exact .inr (.inl ⟨hcontrol, if_pos hcontrol⟩)
    · exact .inr (.inr ⟨hquote, hback, hnewline, hcontrol, if_neg hcontrol⟩)

theorem length_le_escaped (cs : List Char) : cs.length ≤ (escaped cs).length := by
  induction cs with
  | nil => exact Nat.le_refl _
  | cons c cs ih =>
    have hc : 1 ≤ (escape c).length := by
      rcases escape_cases c with ⟨d, -, h⟩ | ⟨-, h⟩ | ⟨-, -, -, -, h⟩ <;> simp [h]
    rw [escaped, List.length_append, List.length_cons]
    omega

/-! ## Reading them -/

theorem hexValue?_hexDigit {n : Nat} (h : n < 32) :
    hexValue? (hexDigit (n / 16)) = some (n / 16) ∧ hexValue? (hexDigit n) = some (n % 16) := by
  revert n
  decide

theorem readEscape_control {c : Char} (h : c.toNat < 32) (rest : List Char) (line column : Nat) :
    ∃ column', readEscape
        ⟨'u' :: '0' :: '0' :: hexDigit (c.toNat / 16) :: hexDigit c.toNat :: rest, line, column⟩ =
      .ok (c, ⟨rest, line, column'⟩) := by
  obtain ⟨hhigh, hlow⟩ := hexValue?_hexDigit h
  have hzero : hexValue? '0' = some 0 := rfl
  have hsum : ((0 * 16 + 0) * 16 + c.toNat / 16) * 16 + c.toNat % 16 = c.toNat := by omega
  refine ⟨column + 1 + 4, ?_⟩
  have hhex : hexEscape ⟨'0' :: '0' :: hexDigit (c.toNat / 16) :: hexDigit c.toNat :: rest, line,
      column + 1⟩ = .ok (c.toNat, ⟨rest, line, column + 1 + 4⟩) := by
    simp only [hexEscape, hzero, hhigh, hlow, hsum]
  have hread : readEscape
      ⟨'u' :: '0' :: '0' :: hexDigit (c.toNat / 16) :: hexDigit c.toNat :: rest, line, column⟩ =
      (hexEscape ⟨'0' :: '0' :: hexDigit (c.toNat / 16) :: hexDigit c.toNat :: rest, line,
        column + 1⟩).bind fun r =>
          if 0xDC00 ≤ r.1 ∧ r.1 ≤ 0xDFFF then r.2.refuse .loneSurrogate
          else if r.1 < 0xD800 ∨ 0xDBFF < r.1 then .ok (Char.ofNat r.1, r.2)
          else secondHalf r.1 r.2 := rfl
  rw [hread, hhex]
  have h1 : ¬ (0xDC00 ≤ c.toNat ∧ c.toNat ≤ 0xDFFF) := by omega
  have h2 : c.toNat < 0xD800 ∨ 0xDBFF < c.toNat := by omega
  simp only [Except.bind, if_neg h1, if_pos h2, Char.ofNat_toNat]

/-- One character goes in and comes out. -/
theorem readString_escape (c : Char) (fuel : Nat) (read rest : List Char) (line column : Nat) :
    ∃ line' column', readString (fuel + 1) read ⟨escape c ++ rest, line, column⟩ =
      readString fuel (c :: read) ⟨rest, line', column'⟩ := by
  -- a character stands as a letter behind a backslash, as four hexadecimal digits, or as itself
  rcases escape_cases c with ⟨d, hd, h⟩ | ⟨hcontrol, h⟩ | ⟨hquote, hback, hnewline, hcontrol, h⟩
  · refine ⟨line, column + 2, ?_⟩
    rw [h]
    simp only [letters, List.mem_cons, List.not_mem_nil, or_false, Prod.mk.injEq] at hd
    rcases hd with ⟨rfl, rfl⟩ | ⟨rfl, rfl⟩ | ⟨rfl, rfl⟩ | ⟨rfl, rfl⟩ | ⟨rfl, rfl⟩ | ⟨rfl, rfl⟩ |
      ⟨rfl, rfl⟩ <;> rfl
  · obtain ⟨column', hread⟩ := readEscape_control hcontrol rest line (column + 1)
    refine ⟨line, column', ?_⟩
    have hstep : readString (fuel + 1) read
        ⟨['\\', 'u', '0', '0', hexDigit (c.toNat / 16), hexDigit c.toNat] ++ rest, line, column⟩ =
        (readEscape ⟨'u' :: '0' :: '0' :: hexDigit (c.toNat / 16) :: hexDigit c.toNat :: rest,
          line, column + 1⟩).bind fun r => readString fuel (r.1 :: read) r.2 := rfl
    rw [h, hstep, hread]
    rfl
  · refine ⟨line, column + c.utf8Size, ?_⟩
    -- a line end would have been escaped, so the column only moves on
    have hskip : Cursor.skip ⟨c :: rest, line, column⟩ = ⟨rest, line, column + c.utf8Size⟩ := by
      unfold Cursor.skip
      dsimp only
      split
      · next heq => cases heq
      · next heq => exact absurd (List.cons.inj heq).1 hnewline
      · next heq =>
        obtain ⟨rfl, rfl⟩ := List.cons.inj heq
        rfl
    rw [h, List.singleton_append, readString]
    dsimp only
    split
    · next heq => cases heq
    · next heq => exact absurd (List.cons.inj heq).1 hquote
    · next heq => exact absurd (List.cons.inj heq).1 hback
    · next heq =>
      obtain ⟨rfl, rfl⟩ := List.cons.inj heq
      rw [if_neg hcontrol, hskip]

theorem readString_escaped (cs rest : List Char) {fuel : Nat} (h : cs.length < fuel)
    (read : List Char) (line column : Nat) :
    ∃ line' column', readString fuel read ⟨escaped cs ++ '"' :: rest, line, column⟩ =
      .ok (String.ofList (read.reverse ++ cs), ⟨rest, line', column'⟩) := by
  induction cs generalizing fuel read line column with
  | nil =>
    obtain ⟨fuel, rfl⟩ := Nat.exists_eq_succ_of_ne_zero (Nat.ne_of_gt h)
    exact ⟨line, column + 1, by rw [List.append_nil]; rfl⟩
  | cons c cs ih =>
    have hpos : fuel ≠ 0 := by
      rintro rfl
      exact Nat.not_lt_zero _ h
    obtain ⟨fuel, rfl⟩ := Nat.exists_eq_succ_of_ne_zero hpos
    obtain ⟨line₁, column₁, hstep⟩ :=
      readString_escape c fuel read (escaped cs ++ '"' :: rest) line column
    obtain ⟨line₂, column₂, hrest⟩ := ih (Nat.lt_of_succ_lt_succ h) (c :: read) line₁ column₁
    refine ⟨line₂, column₂, ?_⟩
    rw [escaped, List.append_assoc, hstep, hrest, List.reverse_cons, List.append_assoc]
    rfl

/-- A text that has been quoted reads back, character for character. -/
theorem readQuoted_quoted (cs : List Char) : readQuoted (quoted cs) = .ok (String.ofList cs) := by
  have hfuel : cs.length < (escaped cs ++ ['"']).length + 1 := by
    have := length_le_escaped cs
    rw [List.length_append]
    omega
  obtain ⟨line, column, h⟩ := readString_escaped cs [] hfuel [] 1 1
  have hread : readQuoted (quoted cs) = atEnd (readString ((escaped cs ++ ['"']).length + 1) []
      ⟨escaped cs ++ ['"'], 1, 1⟩) := rfl
  rw [hread, h]
  rfl

end Sluice.Json

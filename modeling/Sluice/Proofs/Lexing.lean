import Sluice.Expr.Lexer

/-!
# What the lexer gives

The tokens of a text end with the only `eof` among them.
-/

namespace Sluice.Token

theorem double?_ne_eof {c d : Char} {t : Token} (h : double? c d = some t) : t ≠ .eof := by
  unfold double? at h
  split at h <;> cases h <;> decide

theorem single?_ne_eof {c : Char} {t : Token} (h : single? c = some t) : t ≠ .eof := by
  unfold single? at h
  split at h <;> cases h <;> decide

theorem numberLexeme_ne_eof {cs rest : List Char} {t : Token}
    (h : numberLexeme cs = .ok (t, rest)) : t ≠ .eof := by
  unfold numberLexeme at h
  dsimp only at h
  split at h
  · cases h
    simp
  · cases h

theorem longLexeme_ne_eof {c : Char} {cs rest : List Char} {t : Token}
    (h : longLexeme c cs = .ok (t, rest)) : t ≠ .eof := by
  unfold longLexeme at h
  repeat' split at h
  all_goals first | exact numberLexeme_ne_eof h | (cases h <;> simp)

/-- No part of a text reads as the end. -/
theorem lexeme_ne_eof {c : Char} {cs rest : List Char} {t : Token}
    (h : lexeme c cs = .ok (t, rest)) : t ≠ .eof := by
  unfold lexeme at h
  split at h
  · next t' ht =>
    cases h
    obtain ⟨d, -, hd⟩ := Option.bind_eq_some_iff.1 ht
    exact double?_ne_eof hd
  · split at h
    · exact numberLexeme_ne_eof h
    · split at h
      · next ht =>
        cases h
        exact single?_ne_eof ht
      · exact longLexeme_ne_eof h

/-- One token, and the rest of the text. -/
theorem tokensFrom_of_lexeme {c : Char} {cs rest : List Char} {t : Token} (hblank : ¬ isBlank c)
    (h : lexeme c cs = .ok (t, rest)) (offset : Nat) :
    tokensFrom offset (c :: cs) =
      (tokensFrom (offset + (Text.byteLength (c :: cs) - Text.byteLength rest)) rest).map
        (⟨t, offset⟩ :: ·) := by
  rw [tokensFrom, if_neg hblank]
  split
  · next heq => rw [h] at heq; cases heq
  · next t' rest' heq =>
    rw [h] at heq
    cases heq
    cases tokensFrom (offset + (Text.byteLength (c :: cs) - Text.byteLength rest)) rest <;> rfl

theorem tokensFrom_ends {offset : Nat} {cs : List Char} {ts : List Located}
    (h : tokensFrom offset cs = .ok ts) :
    ∃ us o, ts = us ++ [⟨.eof, o⟩] ∧ ∀ t ∈ us, t.token ≠ .eof := by
  fun_induction tokensFrom offset cs generalizing ts with
  | case1 offset =>
    cases h
    exact ⟨[], offset, rfl, by simp⟩
  | case2 offset c cs hblank ih => exact ih h
  | case3 => cases h
  | case4 => cases h
  | case5 offset c cs hblank t rest hlex hlen ts' hts ih =>
    cases h
    obtain ⟨us, o, rfl, hus⟩ := ih hts
    refine ⟨⟨t, offset⟩ :: us, o, rfl, List.forall_mem_cons.2 ⟨lexeme_ne_eof hlex, hus⟩⟩

theorem tokenize_ends {source : String} {ts : List Located} (h : tokenize source = .ok ts) :
    ∃ us o, ts = us ++ [⟨.eof, o⟩] ∧ ∀ t ∈ us, t.token ≠ .eof :=
  tokensFrom_ends h

end Sluice.Token

import Sluice.Decimal.Exact
import Sluice.Decimal.Reading

/-!
# Runs of characters and decimal digits

A run of characters of one kind is taken off the text in front of what is of another kind.  The
digits of a natural are such a run: they read back, and only those of zero start with a zero.
-/

namespace Sluice

/-- A run of characters, up to the first one of another kind. -/
theorem takeWhile_dropWhile_append {p : Char → Bool} {word rest : List Char}
    (hword : ∀ c ∈ word, p c = true) (hrest : ∀ c ∈ rest.head?, p c = false) :
    (word ++ rest).takeWhile p = word ∧ (word ++ rest).dropWhile p = rest := by
  rw [List.takeWhile_append_of_pos hword, List.dropWhile_append_of_pos hword]
  cases rest with
  | nil => exact ⟨List.append_nil word, rfl⟩
  | cons c rest => simp [hrest c rfl]

namespace Decimal

theorem digits_zero : digits 0 = ['0'] := rfl

theorem isDigit_of_mem_digits {n : Nat} {c : Char} (hc : c ∈ digits n) : c.isDigit = true :=
  Nat.isDigit_of_mem_toDigits (by decide) (by decide) hc

theorem exists_digits (n : Nat) :
    ∃ d ds, digits n = d :: ds ∧ ∀ c ∈ d :: ds, c.isDigit = true := by
  cases hn : digits n with
  | nil => exact absurd hn Nat.toDigits_ne_nil
  | cons d ds => exact ⟨d, ds, rfl, fun c hc => isDigit_of_mem_digits (hn ▸ hc)⟩

/-- The digits of a natural read back. -/
theorem value_digits (n : Nat) : value (digits n) = n :=
  Nat.ofDigitChars_toDigits (by decide) (by decide)

/-- The digits of a positive number do not start with a zero. -/
theorem head?_digits_ne_zero {n : Nat} (h : 0 < n) : (digits n).head? ≠ some '0' := by
  unfold digits
  induction n using Nat.strongRecOn with
  | ind n ih =>
    by_cases hlt : n < 10
    · have hne : n.digitChar ≠ '0' := by
        rw [Ne, Nat.digitChar_eq_zero]
        omega
      rw [Nat.toDigits_of_lt_base hlt, List.head?_cons]
      exact fun heq => hne (Option.some.inj heq)
    · have hle : 10 ≤ n := by omega
      have hhead := ih (n / 10) (by omega) (by omega)
      obtain ⟨d, ds, hdigits⟩ : ∃ d ds, Nat.toDigits 10 (n / 10) = d :: ds :=
        List.exists_cons_of_ne_nil Nat.toDigits_ne_nil
      rw [hdigits] at hhead
      rw [Nat.toDigits_of_base_le (by decide) hle, hdigits]
      exact hhead

end Decimal

end Sluice

import Sluice.Proofs.Lexing.Enclosed

/-!
# The scan by positions reads the same tokens

Between characters the scanner reads the token that the lexer reads from the rest of the text and
stops between characters again, so on a whole text it never gets stuck (`tokenize_eq`).
-/

namespace Sluice.Token.Scan

open Text

variable {source cs : List Char} {pos : Nat} {c : Char}

/-! ## Single tokens -/

/-- The outcome of the scan of a token and that of the lexer are the same, and what the lexer leaves
is what stands behind the scan. -/
inductive Agrees (source : List Char) (pos : Nat) :
    Option (Except SyntaxError (Token × Nat)) → Except SyntaxFlaw (Token × List Char) → Prop where
  | token {t : Token} {stop : Nat} {rest : List Char} (h : At source stop rest) :
    Agrees source pos (some (.ok (t, stop))) (.ok (t, rest))
  | flaw (flaw : SyntaxFlaw) : Agrees source pos (some (.error ⟨pos, flaw⟩)) (.error flaw)

theorem Agrees.of_ok {found : Option (Except SyntaxError (Token × Nat))} {t : Token}
    {rest : List Char} (h : Agrees source pos found (.ok (t, rest))) :
    ∃ stop, found = some (.ok (t, stop)) ∧ At source stop rest := by
  cases h with
  | token h => exact ⟨_, rfl, h⟩

theorem Agrees.of_error {found : Option (Except SyntaxError (Token × Nat))} {flaw : SyntaxFlaw}
    (h : Agrees source pos found (.error flaw)) : found = some (.error ⟨pos, flaw⟩) := by
  cases h with
  | flaw => rfl

theorem number_agrees (h : At source pos cs) :
    Agrees source pos (number source pos) (numberLexeme cs) := by
  obtain ⟨hfloat, hstop⟩ := numberEnd_eq false h
  have hslice : slice? source pos (numberEnd source false pos).1 = some (numeral false cs).1 :=
    At.slice? ((numeral_append false cs).symm ▸ h) hstop
  rw [number, numberLexeme_eq]
  simp only [Option.bind_eq_bind, Option.bind_some, hslice, hfloat]
  cases numberOf? (numeral false cs).2.1 (numeral false cs).1 with
  | none => exact .flaw _
  | some n => exact .token hstop

theorem quoted_agrees (h : At source pos ('"' :: cs)) :
    Agrees source pos (quoted source pos) (longLexeme '"' cs) := by
  have hend := quotedEnd_endsAt false (h.tail_ascii (by decide))
  rw [quoted, longLexeme, if_pos rfl]
  cases hpart : quotedPart false cs with
  | none =>
    rw [hpart] at hend
    rw [Option.some.inj hend.of_none]
    exact .flaw _
  | some part =>
    obtain ⟨body, rest⟩ := part
    rw [hpart] at hend
    obtain ⟨stop, hscan, hstop⟩ := hend.of_some
    obtain ⟨rfl, -⟩ := quotedPart_split hpart
    have hat : At source pos (('"' :: body) ++ rest) := h
    have hslice := hat.slice? hstop
    rw [Option.some.inj hscan]
    simp only [Option.bind_eq_bind, Option.bind_some, hslice]
    cases Json.readQuoted ('"' :: body) with
    | ok s => exact .token hstop
    | error reason => exact .flaw _

theorem raw_agrees (h : At source pos ('\x60' :: cs)) :
    Agrees source pos (raw source pos) (longLexeme '\x60' cs) := by
  have htail : At source (pos + 1) cs := h.tail_ascii (by decide)
  rw [raw, htail.tail?, longLexeme, if_neg (by decide), if_pos rfl]
  simp only [Option.bind_eq_bind, Option.bind_some]
  cases hdrop : cs.dropWhile (· ≠ '\x60') with
  | nil =>
    have htake : cs.takeWhile (· ≠ '\x60') = cs := by
      rw [← List.append_nil (cs.takeWhile _), ← hdrop, List.takeWhile_append_dropWhile]
    have hmem : '\x60' ∉ cs := by
      intro hmem
      rw [← htake] at hmem
      simpa using List.all_eq_true.1 List.all_takeWhile _ hmem
    rw [if_neg hmem]
    exact .flaw _
  | cons tick rest =>
    obtain ⟨htick, hcs⟩ := dropWhile_eq_cons hdrop
    have htick : tick = '\x60' := by simpa using htick
    subst htick
    have hmem : '\x60' ∈ cs := hcs ▸ List.mem_append_right _ List.mem_cons_self
    have hbody : At source (pos + 1) (cs.takeWhile (· ≠ '\x60') ++ '\x60' :: rest) :=
      hcs ▸ htail
    rw [if_pos hmem, hbody.slice? hbody.append]
    exact .token (hbody.append.tail_ascii (by decide))

theorem query_agrees (h : At source pos ('$' :: cs)) :
    Agrees source pos (query source pos) (longLexeme '$' cs) := by
  have hend := queryEnd_endsAt (h.tail_ascii (by decide))
  rw [queryRest] at hend
  rw [query, longLexeme, if_neg (by decide), if_neg (by decide), if_pos rfl]
  cases hpart : queryPart .segment cs with
  | none =>
    rw [hpart] at hend
    rw [hend.of_none]
    exact .flaw _
  | some part =>
    obtain ⟨body, rest⟩ := part
    rw [hpart] at hend
    obtain ⟨stop, hscan, hstop⟩ := hend.of_some
    obtain ⟨rfl, -⟩ := queryPart_split hpart
    have hat : At source pos (('$' :: body) ++ rest) := h
    have hslice := hat.slice? hstop
    rw [hscan]
    simp only [Option.bind_eq_bind, Option.bind_some, hslice]
    exact .token hstop

theorem long_agrees (hc : c.toNat < 128) (h : At source pos (c :: cs)) :
    Agrees source pos (long source c pos) (longLexeme c cs) := by
  by_cases hquote : c = '"'
  · subst hquote
    exact quoted_agrees h
  by_cases htick : c = '\x60'
  · subst htick
    exact raw_agrees h
  by_cases hdollar : c = '$'
  · subst hdollar
    exact query_agrees h
  rw [long, longLexeme, if_neg hquote, if_neg hquote, if_neg htick, if_neg htick, if_neg hdollar,
    if_neg hdollar]
  by_cases hdigit : c.isDigit = true
  · rw [if_pos hdigit, if_pos hdigit]
    exact number_agrees h
  rw [if_neg hdigit, if_neg hdigit]
  by_cases hstart : startsIdent c = true
  · have hin := inIdent_of_startsIdent hstart
    have hname := name_eq h
    have hstop := at_nameEnd h
    rw [List.takeWhile_cons_of_pos hin] at hname
    rw [List.dropWhile_cons_of_pos hin] at hstop
    rw [if_pos hstart, if_pos hstart, hname]
    exact .token hstop
  · rw [if_neg hstart, if_neg hstart, h.tail?]
    exact .flaw _

theorem bind_double?_of_wide (hc : 128 ≤ c.toNat) (next : Option Char) :
    next.bind (double? c) = none := by
  cases next with
  | none => rfl
  | some d => exact double?_of_wide_left d hc

/-- No token starts above ASCII. -/
theorem next_of_wide (hc : 128 ≤ c.toNat) (h : At source pos (c :: cs)) :
    next source pos = some (.error ⟨pos, .unexpectedChar c⟩) := by
  obtain ⟨d, hpeek, hd⟩ := h.peek_wide_head hc
  have hne : ∀ {e : Char}, e.toNat < 128 → d ≠ e := ne_of_wide hd
  have hlong : long source d pos = some (.error ⟨pos, .unexpectedChar c⟩) := by
    rw [long, if_neg (hne (by decide)), if_neg (hne (by decide)), if_neg (hne (by decide)),
      isDigit_of_wide hd, startsIdent_of_wide hd, if_neg Bool.false_ne_true,
      if_neg Bool.false_ne_true, h.tail?]
    rfl
  rw [next, hpeek]
  simp only [bind_double?_of_wide hd, single?_of_wide hd, hlong]
  exact if_neg fun h => hne (by decide) h.1

theorem lexeme_of_wide (hc : 128 ≤ c.toNat) : lexeme c cs = .error (.unexpectedChar c) := by
  have hne : ∀ {e : Char}, e.toNat < 128 → c ≠ e := ne_of_wide hc
  rw [lexeme, bind_double?_of_wide hc]
  simp only [single?_of_wide hc]
  rw [if_neg fun h => hne (by decide) h.1, longLexeme, if_neg (hne (by decide)),
    if_neg (hne (by decide)), if_neg (hne (by decide)), isDigit_of_wide hc,
    startsIdent_of_wide hc, if_neg Bool.false_ne_true, if_neg Bool.false_ne_true]

/-- Between characters the scanner reads the lexer's token, or fails where and as it does. -/
theorem next_agrees (h : At source pos (c :: cs)) :
    Agrees source pos (next source pos) (lexeme c cs) := by
  -- no token starts outside ASCII, so the byte tells as much as the character
  rcases Nat.lt_or_ge c.toNat 128 with hc | hc
  · have htail := h.tail_ascii hc
    have hdouble : (peek source (pos + 1)).bind (double? c) = cs.head?.bind (double? c) :=
      At.peek_head? (f := (·.bind (double? c))) (fun _ => double?_of_wide_right c) htail
    rw [next, h.peek_ascii hc, lexeme]
    simp only [hdouble, any_peek (fun _ => isDigit_of_wide) htail]
    cases hop : cs.head?.bind (double? c) with
    | some t =>
      obtain ⟨d, hd, hcd⟩ := Option.bind_eq_some_iff.1 hop
      obtain ⟨rest, rfl⟩ := List.head?_eq_some_iff.1 hd
      -- the second character of an operator is one byte as well
      have hascii : d.toNat < 128 := by
        refine Nat.lt_of_not_le fun hwide => ?_
        rw [double?_of_wide_right c hwide] at hcd
        cases hcd
      exact .token (htail.tail_ascii hascii)
    | none =>
      dsimp only
      by_cases hpoint : c = '.' ∧ cs.head?.any Char.isDigit = true
      · rw [if_pos hpoint, if_pos hpoint]
        exact number_agrees h
      · rw [if_neg hpoint, if_neg hpoint]
        cases single? c with
        | some t => exact .token htail
        | none => exact long_agrees hc h
  · rw [next_of_wide hc h, lexeme_of_wide hc]
    exact .flaw _

/-! ## Texts -/

theorem skipBlanks_of_blank (hc : isBlank c = true) (h : At source pos (c :: cs)) :
    skipWhile source isBlank pos = skipWhile source isBlank (pos + c.utf8Size) := by
  rw [skipWhile_step, any_peek (fun _ => isBlank_of_wide) h,
    utf8Size_of_ascii (ascii_of (fun _ => isBlank_of_wide) hc)]
  exact if_pos hc

theorem skipBlanks_of_not_blank (h : At source pos cs) (hcs : cs.head?.any isBlank = false) :
    skipWhile source isBlank pos = pos := by
  rw [skipWhile_step, any_peek (fun _ => isBlank_of_wide) h, hcs]
  exact if_neg Bool.false_ne_true

/-- One token of the scan, which moves on. -/
theorem tokensFrom_token {t : Token} {rest : List Char} (hblank : ¬ isBlank c = true)
    (h : At source pos (c :: cs)) (hlex : lexeme c cs = .ok (t, rest)) :
    At source (pos + (byteLength (c :: cs) - byteLength rest)) rest ∧
      tokensFrom source pos =
        (tokensFrom source (pos + (byteLength (c :: cs) - byteLength rest))).map
          (Except.map (⟨t, pos⟩ :: ·)) := by
  obtain ⟨stop, hnext, hstop⟩ := (hlex ▸ next_agrees h).of_ok
  have hmoved := h.lt_of_length_lt hstop (Nat.lt_succ_of_le (lexeme_length hlex))
  obtain ⟨text, rfl, -⟩ := lexeme_split hlex
  rw [← List.cons_append] at h ⊢
  rw [byteLength_append_sub, ← h.stop_eq hstop]
  refine ⟨hstop, ?_⟩
  rw [tokensFrom, skipBlanks_of_not_blank h (Bool.eq_false_iff.2 hblank), hnext]
  dsimp only
  rw [if_neg (lexeme_ne_eof hlex), if_pos ⟨hmoved, hstop.le_byteLength⟩]
  cases tokensFrom source stop <;> rfl

theorem tokensFrom_eq (h : At source pos cs) :
    tokensFrom source pos = some (Token.tokensFrom pos cs) := by
  fun_induction Token.tokensFrom pos cs with
  | case1 pos =>
    rw [tokensFrom, skipBlanks_of_not_blank h rfl, next, h.peek_end (Nat.le_refl pos)]
    rfl
  | case2 pos c cs hblank ih =>
    rw [tokensFrom, skipBlanks_of_blank hblank h, ← tokensFrom]
    exact ih h.tail
  | case3 pos c cs hblank flaw hlex =>
    have hnext := next_agrees h
    rw [hlex] at hnext
    rw [tokensFrom, skipBlanks_of_not_blank h (Bool.eq_false_iff.2 hblank), hnext.of_error]
  | case4 pos c cs hblank t rest hlex hlen e he ih =>
    obtain ⟨hstop, hscan⟩ := tokensFrom_token hblank h hlex
    rw [hscan, ih hstop, he]
    rfl
  | case5 pos c cs hblank t rest hlex hlen ts hts ih =>
    obtain ⟨hstop, hscan⟩ := tokensFrom_token hblank h hlex
    rw [hscan, ih hstop, hts]
    rfl

/-- The scan never gets stuck and reads what the lexer reads. -/
theorem tokenize_eq (source : String) : tokenize source = some (Token.tokenize source) :=
  tokensFrom_eq (.start source.toList)

end Sluice.Token.Scan

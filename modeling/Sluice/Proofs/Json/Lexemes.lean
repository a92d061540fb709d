import Sluice.Proofs.Digits
import Sluice.Proofs.Json.Quoting
import Sluice.Proofs.Lexing

/-!
# Parts of JSON text as tokens

Marks and quoted texts are tokens wherever they stand; words and numerals are tokens up to a comma,
a closing bracket or the end of the text.
-/

namespace Sluice.Token

/-- The end of a text, or a mark that closes an item of a list or a map. -/
def Delimited (rest : List Char) : Prop := ∀ c ∈ rest.head?, c = ',' ∨ c = ']' ∨ c = '\x7d'

/-- Before a text of the given kind, the characters are the text of the tokens. -/
def Lexes (Before : List Char → Prop) (cs : List Char) (us : List Token) : Prop :=
  ∀ offset rest, Before rest → ∃ ts offset', ts.map (·.token) = us ∧
    tokensFrom offset (cs ++ rest) = (tokensFrom offset' rest).map (ts ++ ·)

variable {Before Between : List Char → Prop} {cs ds : List Char} {us vs : List Token}

theorem Lexes.append (h : Lexes Between cs us) (h' : Lexes Before ds vs)
    (hbetween : ∀ rest, Before rest → Between (ds ++ rest)) :
    Lexes Before (cs ++ ds) (us ++ vs) := by
  intro offset rest hrest
  obtain ⟨ts, mid, hts, hcs⟩ := h offset (ds ++ rest) (hbetween rest hrest)
  obtain ⟨ts', offset', hts', hds⟩ := h' mid rest hrest
  refine ⟨ts ++ ts', offset', by rw [List.map_append, hts, hts'], ?_⟩
  rw [List.append_assoc, hcs, hds]
  cases tokensFrom offset' rest with
  | error e => rfl
  | ok us => simp [Except.map, List.append_assoc]

theorem Lexes.nil : Lexes Before [] [] := by
  intro offset rest _
  refine ⟨[], offset, rfl, ?_⟩
  cases h : tokensFrom offset rest with
  | error e => rw [List.nil_append, h]; rfl
  | ok ts => rw [List.nil_append, h]; rfl

theorem lexes_of_lexeme {c : Char} {t : Token} (hblank : ¬ isBlank c)
    (h : ∀ rest, Before rest → lexeme c (cs ++ rest) = .ok (t, rest)) :
    Lexes Before (c :: cs) [t] := fun offset rest hrest =>
  ⟨[⟨t, offset⟩], _, rfl, tokensFrom_of_lexeme hblank (h rest hrest) offset⟩

/-- A text that is nothing but tokens. -/
theorem Lexes.tokenize (h : Lexes Before cs us) (hend : Before []) :
    ∃ ts o, ts.map (·.token) = us ∧ tokenize (String.ofList cs) = .ok (ts ++ [⟨.eof, o⟩]) := by
  obtain ⟨ts, o, hts, hcs⟩ := h 0 [] hend
  refine ⟨ts, o, hts, ?_⟩
  rw [List.append_nil] at hcs
  rw [Token.tokenize, String.toList_ofList, hcs, tokensFrom]
  rfl

/-! ## Marks -/

/-- The marks of JSON text with their tokens. -/
def marks : List (Char × Token) :=
  [('[', .leftBracket), (']', .rightBracket), ('\x7b', .leftBrace), ('\x7d', .rightBrace),
    (',', .comma), (':', .colon), ('-', .minus)]

theorem lexes_mark {c : Char} {t : Token} (h : (c, t) ∈ marks) : Lexes Before [c] [t] := by
  simp only [marks, List.mem_cons, List.not_mem_nil, or_false, Prod.mk.injEq] at h
  refine lexes_of_lexeme ?_ fun rest _ => ?_
  · rcases h with ⟨rfl, -⟩ | ⟨rfl, -⟩ | ⟨rfl, -⟩ | ⟨rfl, -⟩ | ⟨rfl, -⟩ | ⟨rfl, -⟩ | ⟨rfl, -⟩ <;>
      decide
  · -- whatever comes next, no operator of two characters starts with a mark
    rcases h with ⟨rfl, rfl⟩ | ⟨rfl, rfl⟩ | ⟨rfl, rfl⟩ | ⟨rfl, rfl⟩ | ⟨rfl, rfl⟩ | ⟨rfl, rfl⟩ |
      ⟨rfl, rfl⟩ <;> cases rest <;> rfl

/-- A mark in front of a text that lexes. -/
theorem Lexes.mark {c : Char} {t : Token} (hmark : (c, t) ∈ marks) (h : Lexes Before cs us) :
    Lexes Before (c :: cs) (t :: us) :=
  have hc : Lexes (fun _ => True) [c] [t] := lexes_mark hmark
  hc.append h fun _ _ => trivial

/-! ## Words and numerals -/

theorem not_inIdent_of_delimited {rest : List Char} (h : Delimited rest) :
    ∀ c ∈ rest.head?, inIdent c = false := by
  intro c hc
  rcases h c hc with rfl | rfl | rfl <;> rfl

theorem isBlank_of_inIdent {c : Char} (h : inIdent c = true) : isBlank c = false := by
  have hne : ∀ b, inIdent b = false → c ≠ b := by
    rintro b hb rfl
    rw [h] at hb
    cases hb
  simp [isBlank, hne ' ' rfl, hne '\t' rfl, hne '\x0c' rfl, hne '\r' rfl, hne '\n' rfl]

/-- What may stand in a name stands for itself between quotes. -/
theorem plain_of_inIdent {c : Char} (h : inIdent c = true) :
    c ≠ '"' ∧ c ≠ '\\' ∧ 32 ≤ c.toNat := by
  have hne : ∀ d, inIdent d = false → c ≠ d := by
    rintro d hd rfl
    rw [h] at hd
    cases hd
  refine ⟨hne '"' rfl, hne '\\' rfl, Nat.le_of_not_lt fun hlt => ?_⟩
  have hcontrol : ∀ n < 32, inIdent (Char.ofNat n) = false := by decide
  have hc := hcontrol c.toNat hlt
  rw [Char.ofNat_toNat, h] at hc
  cases hc

/-- What may stand in a name starts no mark and no quoted text: a numeral or a name comes next. -/
theorem lexeme_of_inIdent {c : Char} (h : inIdent c = true) :
    lexeme c cs =
      if c.isDigit then numberLexeme (c :: cs)
      else if startsIdent c then
        .ok (.ident (String.ofList (c :: cs.takeWhile inIdent)), cs.dropWhile inIdent)
      else .error (.unexpectedChar c) := by
  have hdouble : cs.head?.bind (double? c) = none := by
    cases cs.head? with
    | none => rfl
    | some d =>
      rw [Option.bind_some]
      unfold double?
      split <;> first | rfl | (exact absurd h (by decide))
  have hsingle : single? c = none := by
    unfold single?
    split <;> first | rfl | (exact absurd h (by decide))
  have hne : c ≠ '.' ∧ c ≠ '"' ∧ c ≠ '\x60' ∧ c ≠ '$' := by
    refine ⟨?_, ?_, ?_, ?_⟩ <;> (rintro rfl; exact absurd h (by decide))
  obtain ⟨hdot, hquote, htick, hdollar⟩ := hne
  rw [lexeme, hdouble]
  simp only [hdot, false_and, if_false, hsingle]
  rw [longLexeme, if_neg hquote, if_neg htick, if_neg hdollar]

theorem not_isDigit_of_startsIdent {c : Char} (h : startsIdent c = true) : ¬ c.isDigit = true := by
  intro hdigit
  obtain ⟨-, hle⟩ := Char.isDigit_iff_toNat.1 hdigit
  have hle : c.toNat ≤ 57 := hle
  rcases of_decide_eq_true h with halpha | rfl
  · rcases (Bool.or_eq_true _ _).mp halpha with hupper | hlower
    · obtain ⟨hge, -⟩ := of_decide_eq_true hupper
      have hge : 65 ≤ c.toNat := UInt32.le_iff_toNat_le.1 hge
      omega
    · obtain ⟨hge, -⟩ := (Bool.and_eq_true _ _).mp hlower
      have hge : 97 ≤ c.toNat := UInt32.le_iff_toNat_le.1 (of_decide_eq_true hge)
      omega
  · exact absurd hdigit (by decide)

theorem inIdent_of_startsIdent {c : Char} (h : startsIdent c = true) : inIdent c = true := by
  simp only [startsIdent, inIdent, Char.isAlphanum, Bool.decide_or, Bool.decide_eq_true,
    Bool.or_eq_true] at h ⊢
  exact h.imp_left .inl

/-- A name goes as far as there are letters, digits and underscores. -/
theorem lexeme_word {c : Char} {rest : List Char} (hc : startsIdent c = true)
    (hcs : ∀ d ∈ cs, inIdent d = true) (hrest : ∀ d ∈ rest.head?, inIdent d = false) :
    lexeme c (cs ++ rest) = .ok (.ident (String.ofList (c :: cs)), rest) := by
  obtain ⟨htake, hdrop⟩ := takeWhile_dropWhile_append hcs hrest
  rw [lexeme_of_inIdent (inIdent_of_startsIdent hc), if_neg (not_isDigit_of_startsIdent hc),
    if_pos hc, htake, hdrop]

/-- A name, up to what ends an item. -/
theorem lexes_word {c : Char} (hc : startsIdent c = true) (hcs : cs.all inIdent = true) :
    Lexes Delimited (c :: cs) [.ident (String.ofList (c :: cs))] := by
  refine lexes_of_lexeme ?_ fun rest hrest =>
    lexeme_word hc (List.all_eq_true.1 hcs) (not_inIdent_of_delimited hrest)
  rw [isBlank_of_inIdent (inIdent_of_startsIdent hc)]
  exact Bool.false_ne_true

theorem inIdent_of_isDigit {c : Char} (h : c.isDigit = true) : inIdent c = true := by
  simp [inIdent, Char.isAlphanum, h]

/-- Digits are a whole numeral if neither a point nor an exponent follows. -/
theorem numeral_digits {ds rest : List Char} (hds : ∀ d ∈ ds, d.isDigit = true)
    (hrest : ∀ c ∈ rest.head?, inIdent c = false ∧ c ≠ '.') :
    numeral false (ds ++ rest) = (ds, false, rest) := by
  induction ds with
  | nil =>
    rw [List.nil_append, numeral.eq_def]
    cases rest with
    | nil => rfl
    | cons c rest =>
      obtain ⟨hc, hpoint⟩ := hrest c rfl
      have hdigit : ¬ c.isDigit = true := fun h =>
        Bool.false_ne_true (hc.symm.trans (inIdent_of_isDigit h))
      have hexp : ¬ (c = 'e' ∨ c = 'E') := by
        rintro (rfl | rfl) <;> cases hc
      dsimp only
      rw [if_neg hdigit, if_neg fun h => hpoint h.1, if_neg hexp]
  | cons d ds ih =>
    obtain ⟨hd, hds⟩ := List.forall_mem_cons.1 hds
    rw [List.cons_append, numeral.eq_def]
    simp only [hd, if_true, ih hds, onto]

theorem numberOf?_digits {n : Nat} (h : n < 9223372036854775808) :
    numberOf? false (Decimal.digits n) = some (.ofNat n) := by
  have hfits : Number.Fits n := by
    unfold Number.Fits
    omega
  have hint : Number.ofInt? n = some (.ofNat n) := by
    rw [Number.ofInt?, dif_pos hfits, Number.ofNat, Option.some.injEq, Number.int.injEq]
    omega
  rw [numberOf?, Decimal.value_digits]
  exact (if_pos ⟨Bool.false_ne_true, h⟩).trans hint

/-- The digits of a natural of 63 bits read back. -/
theorem lexeme_digits {n : Nat} {d : Char} {ds rest : List Char} (h : n < 9223372036854775808)
    (hn : Decimal.digits n = d :: ds) (hds : ∀ c ∈ d :: ds, c.isDigit = true)
    (hrest : ∀ c ∈ rest.head?, inIdent c = false ∧ c ≠ '.') :
    lexeme d (ds ++ rest) = .ok (.number (.ofNat n), rest) := by
  have hd := hds d List.mem_cons_self
  rw [lexeme_of_inIdent (inIdent_of_isDigit hd), if_pos hd, numberLexeme, ← List.cons_append,
    numeral_digits hds hrest, ← hn]
  simp only [numberOf?_digits h]

/-- The digits of a natural of 63 bits, up to what ends an item. -/
theorem lexes_digits {n : Nat} (h : n < 9223372036854775808) :
    Lexes Delimited (Decimal.digits n) [.number (.ofNat n)] := by
  obtain ⟨d, ds, hn, hds⟩ := Decimal.exists_digits n
  rw [hn]
  refine lexes_of_lexeme ?_ fun rest hrest => lexeme_digits h hn hds fun c hc => ?_
  · rw [isBlank_of_inIdent (inIdent_of_isDigit (hds d List.mem_cons_self))]
    exact Bool.false_ne_true
  · refine ⟨not_inIdent_of_delimited hrest c hc, ?_⟩
    rintro rfl
    exact absurd (hrest _ hc) (by decide)

/-! ## Quoted texts -/

theorem hexDigit_plain (n : Nat) : Json.hexDigit n ≠ '"' ∧ Json.hexDigit n ≠ '\\' := by
  have h : ∀ d < 16, Nat.digitChar d ≠ '"' ∧ Nat.digitChar d ≠ '\\' := by decide
  exact h (n % 16) (Nat.mod_lt n (by decide))

theorem escape_of_inIdent {c : Char} (h : inIdent c = true) : Json.escape c = [c] := by
  obtain ⟨-, -, hcontrol⟩ := plain_of_inIdent h
  rcases Json.escape_cases c with ⟨d, hd, -⟩ | ⟨hlt, -⟩ | ⟨-, -, -, -, hc⟩
  · have hletters : (Json.letters.all fun p => !inIdent p.2) = true := by decide
    have hc := List.all_eq_true.1 hletters _ hd
    rw [h] at hc
    cases hc
  · omega
  · exact hc

theorem escaped_of_inIdent {cs : List Char} (h : ∀ c ∈ cs, inIdent c = true) :
    Json.escaped cs = cs := by
  induction cs with
  | nil => rfl
  | cons c cs ih =>
    obtain ⟨hc, hcs⟩ := List.forall_mem_cons.1 h
    rw [Json.escaped, ih hcs, escape_of_inIdent hc]
    rfl

theorem quotedPart_escape (c : Char) (cs : List Char) :
    quotedPart false (Json.escape c ++ cs) =
      (quotedPart false cs).map fun p => (Json.escape c ++ p.1, p.2) := by
  have hpair : ∀ d, quotedPart false ('\\' :: d :: cs) =
      (quotedPart false cs).map fun p => ('\\' :: d :: p.1, p.2) := by
    intro d
    cases h : quotedPart false cs <;> simp [quotedPart, h, onto]
  rcases Json.escape_cases c with ⟨d, -, hc⟩ | ⟨-, hc⟩ | ⟨hquote, hback, -, -, hc⟩
  · rw [hc]
    exact hpair d
  · obtain ⟨hquote, hback⟩ := hexDigit_plain (c.toNat / 16)
    obtain ⟨hquote', hback'⟩ := hexDigit_plain c.toNat
    rw [hc]
    cases h : quotedPart false cs <;> simp [quotedPart, hquote, hback, hquote', hback', h, onto]
  · rw [hc]
    cases h : quotedPart false cs <;> simp [quotedPart, hquote, hback, h, onto]

theorem quotedPart_escaped (cs rest : List Char) :
    quotedPart false (Json.escaped cs ++ '"' :: rest) = some (Json.escaped cs ++ ['"'], rest) := by
  induction cs with
  | nil => rfl
  | cons c cs ih =>
    rw [Json.escaped, List.append_assoc, quotedPart_escape, ih]
    simp [List.append_assoc]

/-- A quoted text reads back, whatever follows. -/
theorem lexeme_quoted (cs rest : List Char) :
    lexeme '"' (Json.escaped cs ++ ['"'] ++ rest) = .ok (.str (String.ofList cs), rest) := by
  have hread : Json.readQuoted ('"' :: (Json.escaped cs ++ ['"'])) = .ok (String.ofList cs) :=
    Json.readQuoted_quoted cs
  have hlex : ∀ ds, lexeme '"' ds = longLexeme '"' ds := by
    intro ds
    cases ds <;> rfl
  rw [List.append_assoc, hlex, longLexeme, if_pos rfl, List.singleton_append, quotedPart_escaped]
  simp only [hread]

theorem lexes_quoted (cs : List Char) :
    Lexes Before (Json.quoted cs) [.str (String.ofList cs)] :=
  lexes_of_lexeme (by decide) fun rest _ => lexeme_quoted cs rest

end Sluice.Token

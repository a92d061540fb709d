import Sluice.Proofs.Lexing.Paths

/-!
# Lexing undoes printing

`print` writes a token, and `write` writes tokens one behind the other with blanks in front of them.
If there are blanks between any two of them, the lexer gives back the tokens, each at the offset at
which it was written.
-/

namespace Sluice.Token

open Text

def print : Token → List Char
  | .number n => n.print
  | .str s => Json.quoted s.toList
  | .ident name => name.toList
  | .query path => path.toList
  | .leftParen => ['('] | .rightParen => [')'] | .leftBracket => ['['] | .rightBracket => [']']
  | .leftBrace => ['\x7b'] | .rightBrace => ['\x7d']
  | .comma => [','] | .colon => [':'] | .dot => ['.'] | .question => ['?'] | .coalesce => ['?', '?']
  | .plus => ['+'] | .minus => ['-'] | .star => ['*'] | .slash => ['/'] | .percent => ['%']
  | .eqEq => ['=', '='] | .notEq => ['!', '='] | .lt => ['<'] | .le => ['<', '='] | .gt => ['>']
  | .ge => ['>', '='] | .andAnd => ['&', '&'] | .orOr => ['|', '|'] | .not => ['!']
  | .pipe => ['|'] | .matches => ['=', '~']
  | .eof => []

/-- The tokens that have a text of their own: the numbers are integers of 63 bits without a sign,
the names start with a letter or an underscore, and the queries are paths. -/
def Printable : Token → Prop
  | .number n => ∃ k : Nat, k < 9223372036854775808 ∧ n = .ofNat k
  | .ident name => ∃ c cs, name.toList = c :: cs ∧ startsIdent c = true ∧ ∀ d ∈ cs, inIdent d = true
  | .query path => ∃ cs, path.toList = '$' :: cs ∧ Path cs
  | .eof => False
  | _ => True

/-- Tokens written one behind the other, each of them with what stands in front of it. -/
def write (items : List (List Char × Token)) : List Char :=
  items.flatMap fun item => item.1 ++ item.2.print

/-- The tokens with the offsets at which they are written. -/
def locate : Nat → List (List Char × Token) → List Located
  | _, [] => []
  | offset, (gap, t) :: items =>
    ⟨t, offset + byteLength gap⟩ :: locate (offset + byteLength (gap ++ t.print)) items

/-! ## One token -/

/-- The end of a text, or a blank. -/
def Spaced (rest : List Char) : Prop := ∀ c ∈ rest.head?, isBlank c = true

variable {c b : Char} {t : Token} {rest : List Char}

/-- No token goes on with a blank. -/
theorem not_goesOn_of_isBlank (h : isBlank b = true) :
    inIdent b = false ∧ b ≠ '.' ∧ b ≠ '[' := by
  have hb : b = ' ' ∨ b = '\t' ∨ b = '\n' ∨ b = '\x0c' ∨ b = '\r' := of_decide_eq_true h
  rcases hb with rfl | rfl | rfl | rfl | rfl <;> decide

theorem double?_isBlank (c : Char) (h : isBlank b = true) : double? c b = none := by
  unfold double?
  split <;> first | rfl | exact absurd h (by decide)

theorem lexeme_double {d : Char} (h : double? c d = some t) :
    lexeme c (d :: rest) = .ok (t, rest) := by
  rw [lexeme, List.head?_cons, Option.bind_some, h]
  rfl

theorem lexeme_single (h : single? c = some t) (hrest : Spaced rest) :
    lexeme c rest = .ok (t, rest) := by
  have hnext : rest.head?.bind (double? c) = none ∧ rest.head?.any Char.isDigit = false := by
    cases rest with
    | nil => exact ⟨rfl, rfl⟩
    | cons b rest =>
      have hb : isBlank b = true := hrest b rfl
      refine ⟨double?_isBlank c hb, Bool.eq_false_iff.2 fun hdigit => ?_⟩
      exact Bool.false_ne_true ((not_goesOn_of_isBlank hb).1.symm.trans (inIdent_of_isDigit hdigit))
  obtain ⟨hdouble, hdigit⟩ := hnext
  rw [lexeme, hdouble, hdigit]
  simp only [h]
  exact if_neg fun hpoint => Bool.false_ne_true hpoint.2

theorem print_ofNat {n : Nat} (h : n < 9223372036854775808) :
    (Number.ofNat n).print = Decimal.digits n := by
  have hmin : min (n : Int) 18446744073709551615 = n := by omega
  simp only [Number.ofNat, Number.print, Number.printInt, hmin]
  rw [if_neg (Int.not_lt.2 (Int.natCast_nonneg n)), Int.natAbs_natCast]

/-- The text of a token is read as the token up to a blank. -/
theorem lexeme_print (h : Printable t) (hrest : Spaced rest) :
    ∃ c cs, t.print = c :: cs ∧ ¬ isBlank c = true ∧ lexeme c (cs ++ rest) = .ok (t, rest) := by
  -- what follows is a blank or nothing, and no token goes on with it
  have hstop : ∀ b ∈ rest.head?, inIdent b = false ∧ b ≠ '.' ∧ b ≠ '[' := fun b hb =>
    not_goesOn_of_isBlank (hrest b hb)
  have hblank {c : Char} (hc : inIdent c = true) : ¬ isBlank c = true :=
    Bool.eq_false_iff.1 (isBlank_of_inIdent hc)
  cases t with
  | number n =>
    obtain ⟨k, hk, rfl⟩ := h
    obtain ⟨d, ds, hn, hds⟩ := Decimal.exists_digits k
    have hd : inIdent d = true := inIdent_of_isDigit (hds d List.mem_cons_self)
    refine ⟨d, ds, (print_ofNat hk).trans hn, hblank hd, ?_⟩
    exact lexeme_digits hk hn hds fun b hb => ⟨(hstop b hb).1, (hstop b hb).2.1⟩
  | str s =>
    refine ⟨'"', Json.escaped s.toList ++ ['"'], rfl, by decide, ?_⟩
    rw [lexeme_quoted, String.ofList_toList]
  | ident name =>
    obtain ⟨c, cs, hname, hc, hcs⟩ := h
    refine ⟨c, cs, hname, hblank (inIdent_of_startsIdent hc), ?_⟩
    rw [lexeme_word hc hcs fun b hb => (hstop b hb).1, ← hname, String.ofList_toList]
  | query path =>
    obtain ⟨cs, hpath, hcs⟩ := h
    refine ⟨'$', cs, hpath, by decide, ?_⟩
    -- no operator of two characters starts with `$`
    have hlong : lexeme '$' (cs ++ rest) = longLexeme '$' (cs ++ rest) := by
      cases cs ++ rest <;> rfl
    rw [hlong, longLexeme, if_neg (by decide), if_neg (by decide), if_pos rfl,
      queryPart_path hcs hstop]
    simp only [← hpath, String.ofList_toList]
  | eof => cases h
  | coalesce | eqEq | notEq | le | ge | andAnd | orOr | «matches» =>
    exact ⟨_, _, rfl, by decide, lexeme_double rfl⟩
  | _ => exact ⟨_, _, rfl, by decide, lexeme_single rfl hrest⟩

/-! ## Rows of tokens -/

theorem tokensFrom_blanks {blanks : List Char} (h : ∀ c ∈ blanks, isBlank c = true) (offset : Nat)
    (rest : List Char) :
    tokensFrom offset (blanks ++ rest) = tokensFrom (offset + byteLength blanks) rest := by
  induction blanks generalizing offset with
  | nil => rfl
  | cons c blanks ih =>
    obtain ⟨hc, hblanks⟩ := List.forall_mem_cons.1 h
    rw [List.cons_append, tokensFrom, if_pos hc, ih hblanks, byteLength_cons, Nat.add_assoc]

theorem tokensFrom_print (h : Printable t) (hrest : Spaced rest) (offset : Nat) :
    tokensFrom offset (t.print ++ rest) =
      (tokensFrom (offset + byteLength t.print) rest).map (⟨t, offset⟩ :: ·) := by
  obtain ⟨c, cs, hprint, hblank, hlex⟩ := lexeme_print h hrest
  rw [hprint]
  exact tokensFrom_append hblank hlex offset

variable {items : List (List Char × Token)}

/-- Behind a token comes a blank, if there are blanks in front of every other token. -/
theorem spaced_write (hblank : ∀ item ∈ items, ∀ c ∈ item.1, isBlank c = true)
    (hgap : ∀ item ∈ items, item.1 ≠ []) : Spaced (write items) := by
  cases items with
  | nil => simp [Spaced, write]
  | cons item items =>
    obtain ⟨gap, t⟩ := item
    obtain ⟨c, blanks, hc⟩ := List.exists_cons_of_ne_nil (hgap _ List.mem_cons_self)
    have hc : gap = c :: blanks := hc
    subst hc
    intro d hd
    cases hd
    exact hblank _ List.mem_cons_self c List.mem_cons_self

theorem tokensFrom_write (hblank : ∀ item ∈ items, ∀ c ∈ item.1, isBlank c = true)
    (hgap : ∀ item ∈ items.tail, item.1 ≠ []) (hprint : ∀ item ∈ items, Printable item.2)
    (offset : Nat) :
    tokensFrom offset (write items) =
      .ok (locate offset items ++ [⟨.eof, offset + byteLength (write items)⟩]) := by
  induction items generalizing offset with
  | nil => rw [write, List.flatMap_nil, tokensFrom]; rfl
  | cons item items ih =>
    obtain ⟨gap, t⟩ := item
    obtain ⟨hgapBlank, hblanks⟩ := List.forall_mem_cons.1 hblank
    obtain ⟨ht, hprints⟩ := List.forall_mem_cons.1 hprint
    have hgaps : ∀ item ∈ items.tail, item.1 ≠ [] := fun item h =>
      hgap item (List.mem_of_mem_tail h)
    have hwrite : write ((gap, t) :: items) = gap ++ (t.print ++ write items) := by
      rw [write, List.flatMap_cons, List.append_assoc, ← write]
    rw [hwrite, tokensFrom_blanks hgapBlank, tokensFrom_print ht (spaced_write hblanks hgap),
      ih hblanks hgaps hprints, locate]
    simp only [Except.map, List.cons_append, byteLength_append, Nat.add_assoc]

/-- Tokens that are written with blanks between them are read back, each at the offset at which it
stands in the text. -/
theorem tokenize_write (items : List (List Char × Token))
    (hblank : ∀ item ∈ items, ∀ c ∈ item.1, isBlank c = true)
    (hgap : ∀ item ∈ items.tail, item.1 ≠ []) (hprint : ∀ item ∈ items, Printable item.2) :
    tokenize (String.ofList (write items)) =
      .ok (locate 0 items ++ [⟨.eof, byteLength (write items)⟩]) := by
  rw [tokenize, String.toList_ofList, tokensFrom_write hblank hgap hprint 0, Nat.zero_add]

/-- A row of tokens: a name, a comparison, a query with a bracket and a quote in quotes, a point, a
number, and a text that needs escapes. -/
def mixedTokens : List (List Char × Token) :=
  [([], .ident "a_1"), ([' '], .le), (['\n', ' '], .query "$..b['é]\\''].*"), ([' '], .dot),
    (['\t'], .number (.ofNat 42)), ([' '], .str "é\n")]

theorem path_mixedTokens : Path "..b['é]\\''].*".toList := by
  have hname : Segment (['.', '.'] ++ ['b']) :=
    .name (.inr rfl) (List.cons_ne_nil _ _) (List.forall_mem_singleton.2 rfl)
  have hquoted : QuotedName '\'' "é]\\'".toList :=
    .plain (by decide) (by decide) (.plain (by decide) (by decide) (.escape .nil))
  have hbracket : Segment ('[' :: ('\'' :: ("é]\\'".toList ++ ['\'']) ++ [']'])) :=
    .bracket (.quoted (.inl rfl) hquoted .nil)
  have hstar : Segment (['.'] ++ ['*']) := .star (.inl rfl)
  exact .cons hname (.cons hbracket (.cons hstar .nil))

theorem tokenize_write_mixedTokens :
    (∀ item ∈ mixedTokens, ∀ c ∈ item.1, isBlank c = true) ∧
      (∀ item ∈ mixedTokens.tail, item.1 ≠ []) ∧ (∀ item ∈ mixedTokens, Printable item.2) ∧
      tokenize "a_1 <=\n $..b['é]\\''].* .\t42 \"é\\n\"" =
        .ok [⟨.ident "a_1", 0⟩, ⟨.le, 4⟩, ⟨.query "$..b['é]\\''].*", 8⟩, ⟨.dot, 24⟩,
          ⟨.number (.ofNat 42), 26⟩, ⟨.str "é\n", 29⟩, ⟨.eof, 35⟩] := by
  have hblank : ∀ item ∈ mixedTokens, ∀ c ∈ item.1, isBlank c = true := by
    simp [mixedTokens, isBlank]
  have hgap : ∀ item ∈ mixedTokens.tail, item.1 ≠ [] := by simp [mixedTokens]
  have hprint : ∀ item ∈ mixedTokens, Printable item.2 := by
    simp only [mixedTokens, List.forall_mem_cons]
    exact ⟨⟨'a', ['_', '1'], rfl, rfl, by simp [inIdent]⟩, trivial, ⟨_, rfl, path_mixedTokens⟩,
      trivial, ⟨42, by decide, rfl⟩, trivial, List.forall_mem_nil _⟩
  refine ⟨hblank, hgap, hprint, ?_⟩
  have htext : String.ofList (write mixedTokens) =
      "a_1 <=\n $..b['é]\\''].* .\t42 \"é\\n\"" := by decide
  rw [← htext, tokenize_write mixedTokens hblank hgap hprint]
  rfl

end Sluice.Token

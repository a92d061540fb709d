import Sluice.Expr.Error
import Sluice.Text.Utf8

/-!
# From text to tokens

`lexeme?` reads one token from the front of a text and gives what is left; what is left is always
shorter, so `tokenize` ends.  Blanks (ASCII white space) separate tokens.  Offsets count the bytes
of the text in UTF-8.
-/

namespace Sluice.Token

/-- Blanks: ASCII white space. -/
def isBlank (c : Char) : Bool := c = ' ' ∨ c = '\t' ∨ c = '\n' ∨ c = '\x0c' ∨ c = '\r'

/-- What an identifier starts with: an ASCII letter or an underscore. -/
def startsIdent (c : Char) : Bool := c.isAlpha ∨ c = '_'

/-- What an identifier consists of: ASCII letters, digits and underscores. -/
def inIdent (c : Char) : Bool := c.isAlphanum ∨ c = '_'

def onto {α : Type} (c : Char) : List Char × α → List Char × α
  | (cs, x) => (c :: cs, x)

/-- Splits a numeral off a text, and tells whether it has a point or an exponent.  A point belongs
to it only before a digit and only once, and not behind an exponent. -/
def numeral (isFloat : Bool) : List Char → List Char × Bool × List Char
  | [] => ([], isFloat, [])
  | c :: cs =>
    if c.isDigit then onto c (numeral isFloat cs)
    else if c = '.' ∧ ¬ isFloat ∧ cs.head?.any Char.isDigit then onto c (numeral true cs)
    else if c = 'e' ∨ c = 'E' then
      match cs with
      | [] => ([c], true, [])
      | s :: rest =>
        if s = '+' ∨ s = '-' then onto c (onto s (numeral true rest))
        else onto c (numeral true (s :: rest))
    else ([], isFloat, c :: cs)

/-- The number that a numeral stands for: an integer if it has neither point nor exponent and fits
63 bits, otherwise the nearest float. -/
def numberOf? (isFloat : Bool) (cs : List Char) : Option Number :=
  let n := Decimal.value cs
  if ¬ isFloat ∧ n < 9223372036854775808 then Number.ofInt? n
  else (Decimal.Numeral.read? cs).bind fun numeral => Number.ofFloat? numeral.toFloat

/-- Splits off a quoted text behind its opening quote, up to and with its closing one. -/
def quotedPart (escaped : Bool) : List Char → Option (List Char × List Char)
  | [] => none
  | c :: cs =>
    if c = '\\' ∧ ¬ escaped then (quotedPart true cs).map (onto c)
    else if c = '"' ∧ ¬ escaped then some ([c], cs)
    else (quotedPart false cs).map (onto c)

/-- Where the scan of a query stands: between segments, behind one or two dots, in a name, or in
brackets that are `depth` deep, maybe in quotes and behind a backslash. -/
inductive QueryState where
  | segment | dot | dots | name
  | bracket (depth : Nat) (quote : Option Char) (escaped : Bool)
deriving DecidableEq

/-- A character between segments. -/
def QueryState.open? (c : Char) : Option QueryState :=
  if c = '.' then some .dot else if c = '[' then some (.bracket 1 none false) else none

/-- Where a character leads, or `none` if the query ends before it. -/
def QueryState.step? (c : Char) : QueryState → Option QueryState
  | .segment => open? c
  | .dot =>
    if c = '.' then some .dots else if c = '*' then some .segment
    else if inIdent c then some .name else open? c
  | .dots => if c = '*' then some .segment else if inIdent c then some .name else open? c
  | .name => if inIdent c then some .name else open? c
  | .bracket depth (some q) escaped =>
    if escaped then some (.bracket depth (some q) false)
    else if c = q then some (.bracket depth none false)
    else some (.bracket depth (some q) (c = '\\'))
  | .bracket depth none _ =>
    if c = '\'' ∨ c = '"' then some (.bracket depth (some c) false)
    else if c = '[' then some (.bracket (depth + 1) none false)
    else if c = ']' then some (if depth ≤ 1 then .segment else .bracket (depth - 1) none false)
    else some (.bracket depth none false)

/-- Splits off the segments of a query; fails if its brackets are not closed. -/
def queryPart (state : QueryState) : List Char → Option (List Char × List Char)
  | [] => match state with
    | .bracket .. => none
    | _ => some ([], [])
  | c :: cs => match state.step? c with
    | some next => (queryPart next cs).map (onto c)
    | none => some ([], c :: cs)

/-- The operators of two characters. -/
def double? (c d : Char) : Option Token :=
  match c, d with
  | '=', '=' => some .eqEq | '=', '~' => some .matches | '!', '=' => some .notEq
  | '<', '=' => some .le | '>', '=' => some .ge | '&', '&' => some .andAnd
  | '|', '|' => some .orOr | '?', '?' => some .coalesce
  | _, _ => none

/-- The operators and marks of one character. -/
def single? (c : Char) : Option Token :=
  match c with
  | '(' => some .leftParen | ')' => some .rightParen
  | '[' => some .leftBracket | ']' => some .rightBracket
  | '\x7b' => some .leftBrace | '\x7d' => some .rightBrace
  | ',' => some .comma | ':' => some .colon | '.' => some .dot | '?' => some .question
  | '+' => some .plus | '-' => some .minus | '*' => some .star | '/' => some .slash
  | '%' => some .percent | '<' => some .lt | '>' => some .gt | '!' => some .not | '|' => some .pipe
  | _ => none

/-- A numeral at the front of a text. -/
def numberLexeme (cs : List Char) : Except SyntaxFlaw (Token × List Char) :=
  let (text, isFloat, rest) := numeral false cs
  match numberOf? isFloat text with
  | some n => .ok (.number n, rest)
  | none => .error (.badNumber (String.ofList text))

/-- A token that is known by its first character `c`; the text goes on with `cs`. -/
def longLexeme (c : Char) (cs : List Char) : Except SyntaxFlaw (Token × List Char) :=
  if c = '"' then
    match quotedPart false cs with
    | none => .error .unterminatedString
    | some (body, rest) => match Json.readQuoted ('"' :: body) with
      | .ok s => .ok (.str s, rest)
      | .error reason => .error (.badString reason)
  else if c = '\x60' then
    match cs.dropWhile (· ≠ '\x60') with
    | [] => .error .unterminatedString
    | _ :: rest => .ok (.str (String.ofList (cs.takeWhile (· ≠ '\x60'))), rest)
  else if c = '$' then
    match queryPart .segment cs with
    | some (body, rest) => .ok (.query (String.ofList (c :: body)), rest)
    | none => .error .unterminatedBracket
  else if c.isDigit then numberLexeme (c :: cs)
  else if startsIdent c then
    .ok (.ident (String.ofList (c :: cs.takeWhile inIdent)), cs.dropWhile inIdent)
  else .error (.unexpectedChar c)

/-- The token at the front of a text that starts with `c`, and what is left of the text. -/
def lexeme (c : Char) (cs : List Char) : Except SyntaxFlaw (Token × List Char) :=
  match cs.head?.bind (double? c) with
  | some t => .ok (t, cs.tail)
  | none =>
    if c = '.' ∧ cs.head?.any Char.isDigit then numberLexeme (c :: cs)
    else match single? c with
      | some t => .ok (t, cs)
      | none => longLexeme c cs

theorem numeral_length (b : Bool) (cs : List Char) :
    (numeral b cs).1.length + (numeral b cs).2.2.length = cs.length := by
  fun_induction numeral b cs <;> simp_all [onto] <;> omega

theorem numeral_isEmpty (c : Char) (cs : List Char)
    (h : c.isDigit ∨ (c = '.' ∧ cs.head?.any Char.isDigit)) : (numeral false (c :: cs)).1 ≠ [] := by
  unfold numeral
  rcases h with h | ⟨rfl, h⟩
  · simp [h, onto]
  · have hd : Char.isDigit '.' = false := rfl
    simp [h, hd, onto]

theorem numberLexeme_length {c : Char} {cs : List Char} {t : Token} {rest : List Char}
    (hc : c.isDigit ∨ (c = '.' ∧ cs.head?.any Char.isDigit))
    (h : numberLexeme (c :: cs) = .ok (t, rest)) : rest.length ≤ cs.length := by
  have hlen := numeral_length false (c :: cs)
  have hne := List.length_pos_iff.2 (numeral_isEmpty c cs hc)
  unfold numberLexeme at h
  split at h
  rename_i text isFloat rest' heq
  rw [heq] at hlen hne
  split at h
  · simp only [Except.ok.injEq, Prod.mk.injEq] at h
    simp_all only [List.length_cons]
    omega
  · simp at h

theorem quotedPart_length {b : Bool} {cs body rest : List Char}
    (h : quotedPart b cs = some (body, rest)) : rest.length ≤ cs.length := by
  induction cs generalizing b body with
  | nil => simp [quotedPart] at h
  | cons c cs ih =>
    unfold quotedPart at h
    split at h
    · obtain ⟨p, hp, he⟩ := Option.map_eq_some_iff.1 h
      obtain ⟨p1, p2⟩ := p
      simp only [onto, Prod.mk.injEq] at he
      have := ih (he.2 ▸ hp)
      simp only [List.length_cons]
      omega
    · split at h
      · simp_all
      · obtain ⟨p, hp, he⟩ := Option.map_eq_some_iff.1 h
        obtain ⟨p1, p2⟩ := p
        simp only [onto, Prod.mk.injEq] at he
        have := ih (he.2 ▸ hp)
        simp only [List.length_cons]
        omega

theorem queryPart_length {state : QueryState} {cs body rest : List Char}
    (h : queryPart state cs = some (body, rest)) : rest.length ≤ cs.length := by
  induction cs generalizing state body with
  | nil =>
    unfold queryPart at h
    split at h <;> simp_all
  | cons c cs ih =>
    unfold queryPart at h
    split at h
    · obtain ⟨p, hp, he⟩ := Option.map_eq_some_iff.1 h
      obtain ⟨p1, p2⟩ := p
      simp only [onto, Prod.mk.injEq] at he
      have := ih (he.2 ▸ hp)
      simp only [List.length_cons]
      omega
    · simp_all

theorem longLexeme_length {c : Char} {cs : List Char} {t : Token} {rest : List Char}
    (h : longLexeme c cs = .ok (t, rest)) : rest.length ≤ cs.length := by
  unfold longLexeme at h
  split at h
  · split at h
    · simp at h
    · rename_i hq
      split at h
      · simp only [Except.ok.injEq, Prod.mk.injEq] at h
        exact h.2 ▸ quotedPart_length hq
      · simp at h
  · split at h
    · have hlen : (cs.dropWhile (· ≠ '\x60')).length ≤ cs.length :=
        (List.dropWhile_sublist _).length_le
      split at h
      · simp at h
      · rename_i heq
        rw [heq] at hlen
        simp only [Except.ok.injEq, Prod.mk.injEq] at h
        rw [← h.2]
        simp only [List.length_cons] at hlen
        omega
    · split at h
      · split at h
        · rename_i hq
          simp only [Except.ok.injEq, Prod.mk.injEq] at h
          exact h.2 ▸ queryPart_length hq
        · simp at h
      · split at h
        · rename_i hd
          exact numberLexeme_length (.inl hd) h
        · split at h
          · simp only [Except.ok.injEq, Prod.mk.injEq] at h
            exact h.2 ▸ (List.dropWhile_sublist _).length_le
          · simp at h

/-- A token takes at least its first character. -/
theorem lexeme_length {c : Char} {cs : List Char} {t : Token} {rest : List Char}
    (h : lexeme c cs = .ok (t, rest)) : rest.length ≤ cs.length := by
  unfold lexeme at h
  split at h
  · simp only [Except.ok.injEq, Prod.mk.injEq] at h
    rw [← h.2]
    simp
  · split at h
    · rename_i hd
      exact numberLexeme_length (.inr hd) h
    · split at h
      · simp only [Except.ok.injEq, Prod.mk.injEq] at h
        exact Nat.le_of_eq (by rw [h.2])
      · exact longLexeme_length h

/-- The tokens of a text that starts `offset` bytes into the source, followed by `eof`. -/
def tokensFrom (offset : Nat) (cs : List Char) : Except SyntaxError (List Located) :=
  match cs with
  | [] => .ok [⟨.eof, offset⟩]
  | c :: cs =>
    if isBlank c then tokensFrom (offset + c.utf8Size) cs
    else
      match h : lexeme c cs with
      | .error flaw => .error ⟨offset, flaw⟩
      | .ok (t, rest) =>
        have := lexeme_length h
        match tokensFrom (offset + (Text.byteLength (c :: cs) - Text.byteLength rest)) rest with
        | .error e => .error e
        | .ok ts => .ok (⟨t, offset⟩ :: ts)
termination_by cs.length

/-- The tokens of a text, followed by `eof`. -/
def tokenize (source : String) : Except SyntaxError (List Located) := tokensFrom 0 source.toList

end Sluice.Token

import Sluice.Proofs.Lexing.Bytes
import Sluice.Proofs.Lexing.Parts

/-!
# Tokens by byte positions

The scanner that moves one position over the bytes of a text, looks at single bytes and cuts the
tokens out.  It gets stuck (`none`) when it cuts inside a character or behind the end, when it
leaves a bracket that it has not entered, and when a bracket or a token does not move it on, so that
it would never stop.  A round of any other loop has read a byte and moves on by itself.
-/

namespace Sluice.Token.Scan

open Text

variable (source : List Char)

def skipWhile (p : Char → Bool) (pos : Nat) : Nat :=
  match _ : peek source pos with
  | some c => if p c then skipWhile p (pos + 1) else pos
  | none => pos
termination_by byteLength source - pos
decreasing_by
  have := lt_of_peek ‹peek source pos = some _›
  omega

theorem le_skipWhile (p : Char → Bool) (pos : Nat) : pos ≤ skipWhile source p pos := by
  fun_induction skipWhile source p pos with
  | case1 pos c h hc ih => exact Nat.le_of_succ_le ih
  | case2 => exact Nat.le_refl _
  | case3 => exact Nat.le_refl _

def nameEnd (pos : Nat) : Nat := skipWhile source inIdent pos

def name (pos : Nat) : Option (List Char) := slice? source pos (nameEnd source pos)

/-- Where a numeral ends, and whether it has a point or an exponent. -/
def numberEnd (isFloat : Bool) (pos : Nat) : Nat × Bool :=
  match _ : peek source pos with
  | none => (pos, isFloat)
  | some c =>
    if c.isDigit then numberEnd isFloat (pos + 1)
    else if c = '.' ∧ ¬ isFloat ∧ (peek source (pos + 1)).any Char.isDigit then
      numberEnd true (pos + 1)
    else if c = 'e' ∨ c = 'E' then
      if (peek source (pos + 1)).any isSign then numberEnd true (pos + 2)
      else numberEnd true (pos + 1)
    else (pos, isFloat)
termination_by byteLength source - pos
decreasing_by
  all_goals
    have := lt_of_peek ‹peek source pos = some _›
    omega

def number (pos : Nat) : Option (Except SyntaxError (Token × Nat)) := do
  let (stop, isFloat) := numberEnd source false pos
  let text ← slice? source pos stop
  match numberOf? isFloat text with
  | some n => some (.ok (.number n, stop))
  | none => some (.error ⟨pos, .badNumber (String.ofList text)⟩)

/-- Where a quoted text ends, if it is closed. -/
def quotedEnd (escaped : Bool) (pos : Nat) : Option Nat :=
  match _ : peek source pos with
  | none => none
  | some c =>
    if c = '\\' ∧ ¬ escaped then quotedEnd true (pos + 1)
    else if c = '"' ∧ ¬ escaped then some (pos + 1)
    else quotedEnd false (pos + 1)
termination_by byteLength source - pos
decreasing_by
  all_goals
    have := lt_of_peek ‹peek source pos = some _›
    omega

def quoted (pos : Nat) : Option (Except SyntaxError (Token × Nat)) :=
  match quotedEnd source false (pos + 1) with
  | none => some (.error ⟨pos, .unterminatedString⟩)
  | some stop => do
    let literal ← slice? source pos stop
    match Json.readQuoted literal with
    | .ok s => some (.ok (.str s, stop))
    | .error reason => some (.error ⟨pos, .badString reason⟩)

def raw (pos : Nat) : Option (Except SyntaxError (Token × Nat)) := do
  let body ← tail? source (pos + 1)
  if '\x60' ∈ body then
    let stop := pos + 1 + byteLength (body.takeWhile (· ≠ '\x60'))
    let text ← slice? source (pos + 1) stop
    some (.ok (.str (String.ofList text), stop + 1))
  else some (.error ⟨pos, .unterminatedString⟩)

/-- Where brackets that are `depth` deep end, if they are closed.  Behind a backslash in quotes a
byte is skipped, whatever it is. -/
def bracketEnd (depth : Nat) (quote : Option Char) (pos : Nat) : Option (Option Nat) :=
  match _ : peek source pos with
  | none => some none
  | some c =>
    match quote with
    | some q =>
      if c = q then bracketEnd depth none (pos + 1)
      else if c = '\\' then bracketEnd depth (some q) (pos + 2)
      else bracketEnd depth (some q) (pos + 1)
    | none =>
      if c = '\'' ∨ c = '"' then bracketEnd depth (some c) (pos + 1)
      else if c = '[' then bracketEnd (depth + 1) none (pos + 1)
      else if c = ']' then
        match depth with
        | 0 => none
        | 1 => some (some (pos + 1))
        | depth + 2 => bracketEnd (depth + 1) none (pos + 1)
      else bracketEnd depth none (pos + 1)
termination_by byteLength source - pos
decreasing_by
  all_goals
    have := lt_of_peek ‹peek source pos = some _›
    omega

/-- The position behind one or two dots. -/
def afterDots (pos : Nat) : Nat := if peek source (pos + 1) = some '.' then pos + 2 else pos + 1

theorem lt_afterDots (pos : Nat) : pos < afterDots source pos := by
  rw [afterDots]
  split <;> omega

/-- Where the segments of a query end, if its brackets are closed. -/
def queryEnd (pos : Nat) : Option (Option Nat) :=
  match _ : peek source pos with
  | some c =>
    if c = '.' then
      if peek source (afterDots source pos) = some '*' then queryEnd (afterDots source pos + 1)
      else match name source (afterDots source pos) with
        | some _ => queryEnd (nameEnd source (afterDots source pos))
        | none => none
    else if c = '[' then
      match bracketEnd source 0 none pos with
      | some (some stop) => if pos < stop then queryEnd stop else none
      | some none => some none
      | none => none
    else some (some pos)
  | none => some (some pos)
termination_by byteLength source - pos
decreasing_by
  · have := lt_of_peek ‹peek source pos = some _›
    have := lt_afterDots source pos
    omega
  · have := lt_of_peek ‹peek source pos = some _›
    have := lt_afterDots source pos
    have : afterDots source pos ≤ nameEnd source (afterDots source pos) := le_skipWhile ..
    omega
  · have := lt_of_peek ‹peek source pos = some _›
    omega

def query (pos : Nat) : Option (Except SyntaxError (Token × Nat)) := do
  match ← queryEnd source (pos + 1) with
  | none => some (.error ⟨pos, .unterminatedBracket⟩)
  | some stop =>
    let text ← slice? source pos stop
    some (.ok (.query (String.ofList text), stop))

/-- The token that starts with the byte `c` at a position and is no operator, and where it
ends. -/
def long (c : Char) (pos : Nat) : Option (Except SyntaxError (Token × Nat)) :=
  if c = '"' then quoted source pos
  else if c = '\x60' then raw source pos
  else if c = '$' then query source pos
  else if c.isDigit then number source pos
  else if startsIdent c then do
    let text ← name source pos
    some (.ok (.ident (String.ofList text), nameEnd source pos))
  else do
    let rest ← tail? source pos
    some (.error ⟨pos, .unexpectedChar (rest.headD '?')⟩)

/-- The token at a position, and where it ends. -/
def next (pos : Nat) : Option (Except SyntaxError (Token × Nat)) :=
  match peek source pos with
  | none => some (.ok (.eof, pos))
  | some c =>
    match (peek source (pos + 1)).bind (double? c) with
    | some t => some (.ok (t, pos + 2))
    | none =>
      if c = '.' ∧ (peek source (pos + 1)).any Char.isDigit then number source pos
      else match single? c with
        | some t => some (.ok (t, pos + 1))
        | none => long source c pos

def tokensFrom (pos : Nat) : Option (Except SyntaxError (List Located)) :=
  let start := skipWhile source isBlank pos
  match next source start with
  | none => none
  | some (.error e) => some (.error e)
  | some (.ok (t, stop)) =>
    if t = .eof then some (.ok [⟨t, start⟩])
    else if start < stop ∧ stop ≤ byteLength source then do
      let rest ← tokensFrom stop
      some (rest.map (⟨t, start⟩ :: ·))
    else none
termination_by byteLength source - pos
decreasing_by
  have hle : pos ≤ start := le_skipWhile source isBlank pos
  omega

def tokenize (source : String) : Option (Except SyntaxError (List Located)) :=
  tokensFrom source.toList 0

end Sluice.Token.Scan

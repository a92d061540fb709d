/-!
# A place in a YAML text

Line ends are made uniform before anything else is read: each of CR LF, CR and NEL becomes LF.  Two
further characters, U+2028 and U+2029, end a line as well and stay what they are.
-/

namespace Sluice.Yaml

/-- Whether a character may stand in a text. -/
def isPrintable (c : Char) : Bool :=
  let n := c.toNat
  n = 0x09 ∨ n = 0x0a ∨ n = 0x0d ∨ 0x20 ≤ n ∧ n ≤ 0x7e ∨ n = 0x85 ∨ 0xa0 ≤ n ∧ n ≤ 0xfffd ∨
    0x10000 ≤ n

/-- Makes line ends uniform. -/
def uniform : List Char → List Char
  | '\r' :: '\n' :: rest => '\n' :: uniform rest
  | c :: rest => (if c = '\r' ∨ c = '\u0085' then '\n' else c) :: uniform rest
  | [] => []

def isBreak (c : Char) : Bool := c = '\n' ∨ c = '\u2028' ∨ c = '\u2029'

def isBlank (c : Char) : Bool := c = ' ' ∨ c = '\t'

/-- Whether a token ends here: at a blank, a line end or the end of the text. -/
def isGap : Option Char → Bool
  | none => true
  | some c => isBlank c || isBreak c

/-- The text still to be read, and how far the reader is, in characters. -/
structure Cursor where
  rest : List Char
  index : Nat
  line : Nat
  column : Nat

namespace Cursor

def start (cs : List Char) : Cursor := ⟨cs, 0, 0, 0⟩

def peek (c : Cursor) : Option Char := c.rest.head?

def ahead (c : Cursor) (n : Nat) : Option Char := c.rest[n]?

def sees (c : Cursor) (ch : Char) : Bool := c.peek = some ch

def skip (c : Cursor) : Cursor :=
  match c.rest with
  | [] => c
  | ch :: rest =>
    if isBreak ch then ⟨rest, c.index + 1, c.line + 1, 0⟩
    else ⟨rest, c.index + 1, c.line, c.column + 1⟩

def skipMany (c : Cursor) : Nat → Cursor
  | 0 => c
  | n + 1 => c.skip.skipMany n

/-- The next characters as long as they belong to a class. -/
def runOf (c : Cursor) (p : Char → Bool) : List Char := c.rest.takeWhile p

def skipWhile (c : Cursor) (p : Char → Bool) : Cursor := c.skipMany (c.runOf p).length

def skipBlanks (c : Cursor) : Cursor := c.skipWhile isBlank

/-- The cursor behind a comment, if one starts here. -/
def skipComment (c : Cursor) : Cursor :=
  if c.sees '#' then c.skipWhile fun ch => ¬ isBreak ch else c

/-- The cursor behind a line end, if one comes next. -/
def skipBreak (c : Cursor) : Cursor := if c.peek.any isBreak then c.skip else c

/-- Whether a line starts here with a text of three characters that stands for itself. -/
def seesMark (c : Cursor) (ch : Char) : Bool :=
  c.column = 0 ∧ c.rest.take 3 = [ch, ch, ch] ∧ isGap (c.ahead 3)

/-- Whether a document starts or ends here. -/
def seesDocument (c : Cursor) : Bool := c.seesMark '-' || c.seesMark '.'

end Cursor

end Sluice.Yaml

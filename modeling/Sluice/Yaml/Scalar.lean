import Sluice.Text.Ranges
import Sluice.Yaml.Cursor

/-!
# The text of YAML scalars

Plain scalars, quoted ones and block scalars.  Inside the first two a line end together with the
blanks around it is a blank, and further empty lines are line ends; a block scalar keeps its lines
or folds them in the same way.  A function that reads a scalar gives its text and the cursor behind
it, and fails where the text is malformed; `fuel` bounds the rounds of its loop.
-/

namespace Sluice.Yaml

/-- Blanks and line ends between two parts of a scalar. -/
structure Gap where
  blanks : List Char
  first : List Char
  more : List Char
  broken : Bool

namespace Gap

def none : Gap := ⟨[], [], [], false⟩

/-- The gap behind a line end that stands for nothing. -/
def escaped : Gap := ⟨[], [], [], true⟩

/-- What a gap stands for. -/
def text (g : Gap) : List Char :=
  if ¬ g.broken then g.blanks
  else if g.first = ['\n'] then (if g.more.isEmpty then [' '] else g.more)
  else g.first ++ g.more

def add (g : Gap) (c : Char) : Gap :=
  if isBreak c then
    if g.broken then { g with more := g.more ++ [c] } else ⟨[], [c], [], true⟩
  else if g.broken then g
  else { g with blanks := g.blanks ++ [c] }

/-- Reads a gap; in its later lines no tab may stand before a column. -/
def read (indent : Int) : Nat → Gap → Cursor → Option (Gap × Cursor)
  | 0, g, c => some (g, c)
  | fuel + 1, g, c =>
    match c.peek with
    | some ch =>
      if isBlank ch || isBreak ch then
        if g.broken ∧ ch = '\t' ∧ c.column < indent then Option.none
        else read indent fuel (g.add ch) c.skip
      else some (g, c)
    | Option.none => some (g, c)

end Gap

/-- Whether a character ends a plain scalar inside brackets. -/
def isFlowMark (c : Char) : Bool := c = ',' ∨ c = '[' ∨ c = ']' ∨ c = '\x7b' ∨ c = '\x7d'

/-- The characters of a plain scalar up to a blank or a mark that ends it. -/
def plainRun (flow : Bool) : List Char → Option (List Char)
  | [] => some []
  | ch :: rest =>
    if isGap (some ch) then some []
    else if flow ∧ ch = ':' ∧ rest.head?.any (fun d => isFlowMark d || d = '?') then none
    else if ch = ':' ∧ isGap rest.head? ∨ flow ∧ isFlowMark ch then some []
    else (plainRun flow rest).map (ch :: ·)

/-- The rest of a plain scalar behind a gap; also tells whether the scalar ends with a line. -/
def plainFrom (flow : Bool) (indent : Int) :
    Nat → List Char → Gap → Cursor → Option (List Char × Bool × Cursor)
  | 0, read, g, c => some (read, g.broken, c)
  | fuel + 1, read, g, c =>
    if c.seesDocument ∨ c.sees '#' then some (read, g.broken, c)
    else
      match plainRun flow c.rest with
      | none => none
      | some run =>
        let read := if run.isEmpty then read else read ++ g.text ++ run
        let g := if run.isEmpty then g else Gap.none
        let c := c.skipMany run.length
        if c.peek.isNone ∨ ¬ isGap c.peek then some (read, g.broken, c)
        else
          match Gap.read indent c.rest.length (if run.isEmpty then g else Gap.none) c with
          | none => none
          | some (g, c) =>
            if ¬ flow ∧ c.column < indent then some (read, g.broken, c)
            else plainFrom flow indent fuel read g c

def plain (flow : Bool) (indent : Int) (c : Cursor) : Option (List Char × Bool × Cursor) :=
  plainFrom flow indent (c.rest.length + 1) [] Gap.none c

def hexadecimal? (n : Nat) (cs : List Char) : Option Nat :=
  let ds := cs.take n
  if ds.length = n ∧ ds.all (fun d => d.isDigit ∨ 'a' ≤ d ∧ d ≤ 'f' ∨ 'A' ≤ d ∧ d ≤ 'F') then
    some (Text.hexValue (ds.map Char.toLower))
  else none

def scalar? (n : Nat) : Option Char := if n.isValidChar then some (Char.ofNat n) else none

/-- What follows a backslash in double quotes: the character it stands for, and how many characters
spell it. -/
def escape? (cs : List Char) : Option (Char × Nat) :=
  match cs with
  | [] => none
  | ch :: rest =>
    let spelled (n : Nat) := ((hexadecimal? n rest).bind scalar?).map fun c => (c, n + 1)
    match ch with
    | '0' => some ('\x00', 1) | 'a' => some ('\x07', 1) | 'b' => some ('\x08', 1)
    | 't' => some ('\t', 1) | '\t' => some ('\t', 1) | 'n' => some ('\n', 1)
    | 'v' => some ('\x0b', 1) | 'f' => some ('\x0c', 1) | 'r' => some ('\r', 1)
    | 'e' => some ('\x1b', 1) | ' ' => some (' ', 1) | '"' => some ('"', 1) | '/' => some ('/', 1)
    | '\\' => some ('\\', 1) | 'N' => some ('\u0085', 1) | '_' => some ('\u00a0', 1)
    | 'L' => some ('\u2028', 1) | 'P' => some ('\u2029', 1)
    | 'x' => spelled 2 | 'u' => spelled 4 | 'U' => spelled 8
    | _ => none

/-- The characters of a quoted scalar up to a blank or its closing quote, `read` being those before
them in reverse; also tells whether an escaped line end stopped them. -/
def quotedRun (quote : Char) : Nat → List Char → Cursor → Option (List Char × Bool × Cursor)
  | 0, read, c => some (read.reverse, false, c)
  | fuel + 1, read, c =>
    match c.rest with
    | [] => some (read.reverse, false, c)
    | ch :: rest =>
      if isGap (some ch) then some (read.reverse, false, c)
      else if ch = quote then
        if quote = '\'' ∧ rest.head? = some '\'' then
          quotedRun quote fuel ('\'' :: read) (c.skipMany 2)
        else some (read.reverse, false, c)
      else if quote = '"' ∧ ch = '\\' then
        if rest.head?.any isBreak then some (read.reverse, true, c.skipMany 2)
        else match escape? rest with
          | none => none
          | some (meant, n) => quotedRun quote fuel (meant :: read) (c.skipMany (n + 1))
      else quotedRun quote fuel (ch :: read) c.skip

/-- The rest of a quoted scalar. -/
def quotedFrom (quote : Char) : Nat → List Char → Cursor → Option (List Char × Cursor)
  | 0, _, _ => none
  | fuel + 1, read, c =>
    if c.seesDocument ∨ c.rest.isEmpty then none
    else
      match quotedRun quote c.rest.length [] c with
      | none => none
      | some (run, escaped, c) =>
        if c.sees quote then some (read ++ run, c.skip)
        else
          match Gap.read 0 c.rest.length (if escaped then Gap.escaped else Gap.none) c with
          | none => none
          | some (g, c) => quotedFrom quote fuel (read ++ run ++ g.text) c

def quoted (quote : Char) (c : Cursor) : Option (List Char × Cursor) :=
  quotedFrom quote (c.rest.length + 1) [] c.skip

/-- What is done with the line ends at the end of a block scalar. -/
inductive Chomping where
  | strip | clip | keep
deriving DecidableEq

/-- How a chomping is spelled. -/
def Chomping.ofChar? : Option Char → Option Chomping
  | some '+' => some .keep
  | some '-' => some .strip
  | _ => none

/-- The depth that a block scalar gives its lines, and its chomping, in any order. -/
def blockHeader (c : Cursor) : Option (Chomping × Nat × Cursor) :=
  let depth (c : Cursor) : Option (Nat × Cursor) :=
    match c.peek with
    | some d =>
      if d = '0' then none
      else if d.isDigit then some (d.toNat - '0'.toNat, c.skip) else some (0, c)
    | none => some (0, c)
  match Chomping.ofChar? c.peek with
  | some chomping => (depth c.skip).map fun (n, c) => (chomping, n, c)
  | none => (depth c).map fun (n, c) =>
    match if n = 0 then none else Chomping.ofChar? c.peek with
    | some chomping => (chomping, n, c.skip)
    | none => (.clip, n, c)

/-- Skips the indentation of lines and gathers line ends before the next line of a block scalar.
`widest` is the largest column reached so far. -/
def blockBreaks (indent : Nat) : Nat → Nat → List Char → Cursor → Option (List Char × Nat × Cursor)
  | 0, widest, read, c => some (read, widest, c)
  | fuel + 1, widest, read, c =>
    let spaces := (c.runOf (· = ' ')).length
    let c := c.skipMany (if indent = 0 then spaces else min spaces (indent - c.column))
    let widest := max widest c.column
    if (indent = 0 ∨ c.column < indent) ∧ c.sees '\t' then none
    else match c.peek with
      | some ch =>
        if isBreak ch then blockBreaks indent fuel widest (read ++ [ch]) c.skip
        else some (read, widest, c)
      | none => some (read, widest, c)

/-- The lines of a block scalar: `first` and `more` are the line ends before the next one, and
`blank` tells whether the line before them started with a blank. -/
def blockLines (literal : Bool) (indent : Nat) :
    Nat → List Char → List Char → List Char → Bool → Cursor →
      Option (List Char × List Char × List Char × Cursor)
  | 0, read, first, more, _, c => some (read, first, more, c)
  | fuel + 1, read, first, more, blank, c =>
    if c.column = indent ∧ ¬ c.rest.isEmpty then
      let startsBlank := c.peek.any isBlank
      let gap :=
        if ¬ literal ∧ first = ['\n'] ∧ ¬ blank ∧ ¬ startsBlank then
          (if more.isEmpty then [' '] else more)
        else first ++ more
      let line := c.runOf fun ch => ¬ isBreak ch
      let c := c.skipMany line.length
      let first := c.peek.toList
      match blockBreaks indent (c.rest.length + 1) 0 [] c.skipBreak with
      | none => none
      | some (more, _, c) =>
        blockLines literal indent fuel (read ++ gap ++ line) first more startsBlank c
    else some (read, first, more, c)

/-- A block scalar, from its sign; `indent` is the column of what it belongs to. -/
def block (literal : Bool) (indent : Int) (c : Cursor) : Option (List Char × Cursor) := do
  let (chomping, depth, c) ← blockHeader c.skip
  let c := c.skipBlanks.skipComment
  if c.peek.any (fun ch => ¬ isBreak ch) then none
  else
    let c := c.skipBreak
    let given := if depth = 0 then 0 else (max indent 0).toNat + depth
    let (more, widest, c) ← blockBreaks given (c.rest.length + 1) 0 [] c
    let column := if given ≠ 0 then given else max widest (max (indent + 1).toNat 1)
    let (text, first, more, c) ← blockLines literal column (c.rest.length + 1) [] [] more false c
    return (match chomping with
      | .strip => text
      | .clip => text ++ first
      | .keep => text ++ first ++ more, c)

end Sluice.Yaml

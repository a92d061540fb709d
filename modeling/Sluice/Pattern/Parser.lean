import Sluice.Pattern.Property
import Sluice.Pattern.Search

/-!
# Reading patterns

The notation of patterns: literals, `.`, `^`, `$`, classes in brackets with set operations, escapes,
repetitions, groups (numbered, named, or with flags only) and choices.  A text that is no pattern is
refused; look-around and back references are none.

Flags hold from where they are set to the end of the group: `i` ignores case, `m` lets `^` and `$`
match at lines, `s` lets `.` match line ends, `U` swaps greedy and lazy, `R` takes `\r\n` for a line
end, `x` ignores blanks and comments, and `u`, which is on at first, takes classes in their Unicode
sense.
-/

namespace Sluice.Pattern

open Sluice.Text (Ranges)

/-- The flags at a place of a pattern. -/
structure Flags where
  caseless : Bool
  multiLine : Bool
  dotAll : Bool
  swapGreed : Bool
  crlf : Bool
  spaced : Bool
  unicode : Bool
deriving DecidableEq

/-- The flags at the start of a pattern. -/
def Flags.initial : Flags := ⟨false, false, false, false, false, false, true⟩

/-- What `^` asserts. -/
def Flags.startLook (f : Flags) : Look :=
  if ¬ f.multiLine then .start else if f.crlf then .lineStartCrlf else .lineStart

/-- What `$` asserts. -/
def Flags.stopLook (f : Flags) : Look :=
  if ¬ f.multiLine then .stop else if f.crlf then .lineStopCrlf else .lineStop

/-- What is left of a pattern, the flags there, and the groups so far: how many, and the named
ones. -/
structure State where
  rest : List Char
  flags : Flags
  count : Nat
  names : List (Nat × String)

/-- What an escape or a single character stands for. -/
inductive Atom where
  | char (c : Char)
  | set (members : Ranges)
  | look (what : Look)

def isSpace (c : Char) : Bool := Text.Property.whiteSpace.has c

/-- Skips white space, and comments up to their line end. -/
def skipSpaced (inComment : Bool) : List Char → List Char
  | [] => []
  | c :: cs =>
    if inComment then skipSpaced (c ≠ '\n') cs
    else if isSpace c then skipSpaced false cs
    else if c = '#' then skipSpaced true cs
    else c :: cs

/-- Skips what does not count under the flag `x`. -/
def skip (f : Flags) (cs : List Char) : List Char := if f.spaced then skipSpaced false cs else cs

/-- Characters with a meaning of their own. -/
def isMeta (c : Char) : Bool := "\\.+*?()|[]\x7b\x7d^$#&-~".toList.contains c

/-- Characters that may stand behind a backslash for themselves. -/
def isEscapable (c : Char) : Bool :=
  isMeta c || (c.toNat < 128 && ¬ c.isAlphanum && c ≠ '<' && c ≠ '>')

def hexDigit? (c : Char) : Option Nat :=
  if c.isDigit then some (c.toNat - '0'.toNat)
  else if 'a' ≤ c ∧ c ≤ 'f' then some (c.toNat - 'a'.toNat + 10)
  else if 'A' ≤ c ∧ c ≤ 'F' then some (c.toNat - 'A'.toNat + 10)
  else none

def charOf? (n : Nat) : Option Char :=
  if n < 0xD800 ∨ (0xDFFF < n ∧ n ≤ 0x10FFFF) then some (Char.ofNat n) else none

def hexDigits (f : Flags) (value : Nat) : Nat → List Char → Option (Nat × List Char)
  | 0, cs => some (value, cs)
  | n + 1, cs => match skip f cs with
    | [] => none
    | c :: cs => (hexDigit? c).bind fun d => hexDigits f (16 * value + d) n cs

/-- Hexadecimal digits up to a closing brace. -/
def hexBraced (f : Flags) (value : Nat) (digits : Nat) : List Char → Option (Nat × List Char)
  | [] => none
  | c :: cs =>
    if c = '\x7d' then if digits = 0 then none else some (value, cs)
    else if f.spaced ∧ isSpace c then hexBraced f value digits cs
    else (hexDigit? c).bind fun d => if 8 ≤ digits ∧ 0x10FFFF < value then none
      else hexBraced f (16 * value + d) (digits + 1) cs

/-- A character by its code point, behind `\x`, `\u` or `\U`. -/
def hexEscape (f : Flags) (kind : Char) (cs : List Char) : Option (Char × List Char) :=
  match skip f cs with
  | '\x7b' :: cs => do
    let (n, cs) ← hexBraced f 0 0 (skip f cs)
    some (← charOf? n, cs)
  | cs => do
    let (n, cs) ← hexDigits f 0 (if kind = 'x' then 2 else if kind = 'u' then 4 else 8) cs
    let c ← charOf? n
    if kind = 'x' ∧ ¬ f.unicode ∧ 127 < n then none else some (c, cs)

/-- A set and its complement, in the sense of a flag: outside Unicode a set must stay within
ASCII. -/
def complemented (f : Flags) (negated : Bool) (r : Ranges) : Option Ranges :=
  if f.unicode then some (if negated then (anyChar.inter r.complement) else r)
  else if negated ∨ r.bounds.any (fun b => 127 < b.2) then none
  else some r

/-- A set with what differs in case only, if case is ignored. -/
def folded (f : Flags) (r : Ranges) : Ranges :=
  if ¬ f.caseless then r else if f.unicode then caseless r else asciiCaseless r

/-- The class behind `\p` or `\P`. -/
def propertyClass (f : Flags) (negated : Bool) (cs : List Char) : Option (Ranges × List Char) :=
  if ¬ f.unicode then none
  else match skip f cs with
    | [] => none
    | '\x7b' :: cs =>
      let body := (cs.takeWhile (· ≠ '\x7d')).filter (fun c => ¬ (f.spaced ∧ isSpace c))
      match cs.dropWhile (· ≠ '\x7d') with
      | [] => none
      | _ :: rest =>
        let name := body.takeWhile (fun c => c ≠ '=' ∧ c ≠ ':')
        let found := match body.dropWhile (fun c => c ≠ '=' ∧ c ≠ ':') with
          | [] => (byName? body).map (·, negated)
          | '=' :: value =>
            if name.getLast? = some '!' then (byValue? name.dropLast value).map (·, ! negated)
            else (byValue? name value).map (·, negated)
          | _ :: value => (byValue? name value).map (·, negated)
        found.bind fun (r, negated) => (complemented f negated (folded f r)).map (·, rest)
    | c :: rest =>
      if c = '\\' then none
      else (byName? [c]).bind fun r => (complemented f negated (folded f r)).map (·, rest)

/-- The digits, blanks or word characters of `\d`, `\s` and `\w`. -/
def perlClass (f : Flags) (c : Char) : Ranges :=
  if c = 'd' then if f.unicode then Text.Category.decimals else .ofText "30-39"
  else if c = 's' then if f.unicode then Text.Property.whiteSpace else .ofText "9-d 20"
  else if f.unicode then wordChars else asciiWord

/-- The kinds of word boundaries in braces behind `\b`. -/
def boundaryKind? (ascii : Bool) (name : List Char) : Option Look :=
  if name = "start".toList then some (.wordStart ascii)
  else if name = "end".toList then some (.wordStop ascii)
  else if name = "start-half".toList then some (.wordStartHalf ascii)
  else if name = "end-half".toList then some (.wordStopHalf ascii)
  else none

/-- A word boundary, behind `\b`; a brace that no letter follows starts a repetition. -/
def boundary (f : Flags) (cs : List Char) : Option (Atom × List Char) :=
  let ascii := ! f.unicode
  let inName (c : Char) : Bool := c.isAlpha || c = '-'
  match cs with
  | '\x7b' :: body =>
    let body := skip f body
    match body with
    | [] => none
    | c :: _ =>
      if ¬ inName c then some (.look (.boundary ascii), cs)
      else
        let kept := body.takeWhile (fun c => inName c || (f.spaced && isSpace c))
        match body.dropWhile (fun c => inName c || (f.spaced && isSpace c)) with
        | '\x7d' :: rest => (boundaryKind? ascii (kept.filter inName)).map fun l => (.look l, rest)
        | _ => none
  | _ => some (.look (.boundary ascii), cs)

/-- What stands behind a backslash. -/
def escape (f : Flags) (cs : List Char) : Option (Atom × List Char) :=
  match cs with
  | [] => none
  | c :: cs =>
    let ascii := ! f.unicode
    if c.isDigit then none
    else if c = 'x' ∨ c = 'u' ∨ c = 'U' then (hexEscape f c cs).map fun (c, cs) => (.char c, cs)
    else if c = 'p' ∨ c = 'P' then (propertyClass f (c = 'P') cs).map fun (r, cs) => (.set r, cs)
    else if c = 'd' ∨ c = 's' ∨ c = 'w' then some (.set (perlClass f c), cs)
    else if c = 'D' ∨ c = 'S' ∨ c = 'W' then
      (complemented f true (perlClass f c.toLower)).map fun r => (.set r, cs)
    else if isEscapable c then some (.char c, cs)
    else match c with
      | 'a' => some (.char '\x07', cs)
      | 'f' => some (.char '\x0c', cs)
      | 't' => some (.char '\t', cs)
      | 'n' => some (.char '\n', cs)
      | 'r' => some (.char '\r', cs)
      | 'v' => some (.char '\x0b', cs)
      | 'A' => some (.look .start, cs)
      | 'z' => some (.look .stop, cs)
      | 'b' => boundary f cs
      | 'B' => some (.look (.notBoundary ascii), cs)
      | '<' => some (.look (.wordStart ascii), cs)
      | '>' => some (.look (.wordStop ascii), cs)
      | _ => none

/-- The classes that are known by a name between colons. -/
def namedClass? (name : List Char) : Option Ranges :=
  let table := [
    ("alnum", "30-39 41-5a 61-7a"), ("alpha", "41-5a 61-7a"), ("ascii", "0-7f"), ("blank", "9 20"),
    ("cntrl", "0-1f 7f"), ("digit", "30-39"), ("graph", "21-7e"), ("lower", "61-7a"),
    ("print", "20-7e"),
    ("punct", "21-2f 3a-40 5b-60 7b-7e"), ("space", "9-d 20"), ("upper", "41-5a"),
    ("word", "30-39 41-5a 5f 61-7a"), ("xdigit", "30-39 41-46 61-66")]
  (table.find? (·.1.toList = name)).map fun row => .ofText row.2

/-- A class such as `[:alpha:]` inside brackets, behind its own bracket. -/
def colonClass? (f : Flags) (cs : List Char) : Option (Option Ranges × List Char) :=
  match cs with
  | ':' :: cs =>
    let (negated, cs) := match cs with
      | '^' :: cs => (true, cs)
      | _ => (false, cs)
    match cs.dropWhile (· ≠ ':') with
    | ':' :: ']' :: rest =>
      (namedClass? (cs.takeWhile (· ≠ ':'))).map fun r =>
        (complemented f negated (folded f r), rest)
    | _ => none
  | _ => none

/-- The operations between sets in brackets. -/
inductive SetOp where
  | inter | minus | difference
deriving DecidableEq

/-- A set in brackets as far as it has been read: the members since the last operation, and that
operation with its left side. -/
structure OpenSet where
  negated : Bool
  members : List Ranges
  pending : Option (SetOp × Ranges)

/-- The members so far. -/
def OpenSet.value (f : Flags) (s : OpenSet) : Ranges :=
  let right := Ranges.union s.members
  match s.pending with
  | none => right
  | some (op, left) =>
    let left := folded f left
    let right := folded f right
    match op with
    | .inter => left.inter right
    | .minus => left.inter right.complement
    | .difference => .union [left.inter right.complement, right.inter left.complement]

def skipHyphens (f : Flags) : Nat → List Char → List Char
  | fuel + 1, '-' :: cs => skipHyphens f fuel (skip f cs)
  | _, cs => cs

/-- The start of a set behind its bracket: a negation, then hyphens and one closing bracket that
stand for themselves. -/
def openSet (f : Flags) (cs : List Char) : OpenSet × List Char :=
  let cs := skip f cs
  let (negated, cs) := match cs with
    | '^' :: cs => (true, skip f cs)
    | _ => (false, cs)
  let after := skipHyphens f cs.length cs
  let members := if after.length < cs.length then [only '-'] else []
  match members, after with
  | [], ']' :: rest => (⟨negated, [only ']'], none⟩, skip f rest)
  | members, after => (⟨negated, members, none⟩, after)

/-- A single member of a set in brackets. -/
def setAtom (f : Flags) (cs : List Char) : Option (Atom × List Char) :=
  match cs with
  | [] => none
  | '\\' :: cs => escape f cs
  | c :: cs => some (.char c, cs)

/-- A member or a range of members of a set in brackets. -/
def setItem (f : Flags) (cs : List Char) : Option (Ranges × List Char) := do
  let (first, cs) ← setAtom f cs
  let cs := skip f cs
  let single : Option (Ranges × List Char) := match first with
    | .char c => some (only c, cs)
    | .set r => some (r, cs)
    | .look _ => none
  match cs with
  | [] => none
  | '-' :: more =>
    match (skip f more).head? with
    | some ']' => single
    | some '-' => single
    | none => none
    | some _ =>
      let (second, rest) ← setAtom f (skip f more)
      match first, second with
      | .char a, .char b => if b < a then none else some (⟨#[(a.toNat, b.toNat)]⟩, rest)
      | _, _ => none
  | _ => single

/-- A set in brackets behind its bracket; the sets it stands in are kept in `outer`. -/
def bracketed (f : Flags) (fuel : Nat) (s : OpenSet) (outer : List OpenSet) (cs : List Char) :
    Option (Ranges × List Char) :=
  match fuel with
  | 0 => none
  | fuel + 1 =>
    let operation (op : SetOp) (rest : List Char) :=
      bracketed f fuel { s with members := [], pending := some (op, s.value f) } outer rest
    match skip f cs with
    | [] => none
    | '[' :: rest =>
      match colonClass? f rest with
      | some (some r, rest) => bracketed f fuel { s with members := r :: s.members } outer rest
      | some (none, _) => none
      | none =>
        let (inner, rest) := openSet f rest
        bracketed f fuel inner (s :: outer) rest
    | ']' :: rest =>
      match complemented f s.negated (folded f (s.value f)) with
      | none => none
      | some r => match outer with
        | [] => some (r, rest)
        | s :: outer => bracketed f fuel { s with members := r :: s.members } outer rest
    | '&' :: '&' :: rest => operation .inter rest
    | '-' :: '-' :: rest => operation .minus rest
    | '~' :: '~' :: rest => operation .difference rest
    | cs => match setItem f cs with
      | none => none
      | some (r, rest) => bracketed f fuel { s with members := r :: s.members } outer rest

/-- A decimal number, with white space around it. -/
def decimal (cs : List Char) : Option Nat × List Char :=
  let cs := cs.dropWhile isSpace
  let ds := cs.takeWhile Char.isDigit
  let n := ds.foldl (fun n d => 10 * n + (d.toNat - '0'.toNat)) 0
  let rest := (cs.dropWhile Char.isDigit).dropWhile isSpace
  (if ds.isEmpty ∨ 4294967295 < n then none else some n, rest)

/-- The bounds of a repetition behind its brace, up to the closing one. -/
def bounds (f : Flags) (cs : List Char) : Option ((Nat × Option Nat) × List Char) := do
  let (least, cs) := decimal (skip f cs)
  match cs with
  | ',' :: cs =>
    match skip f cs with
    | '\x7d' :: rest => some ((← least, none), rest)
    | cs =>
      let least ← least
      let (most, cs) := decimal cs
      let most ← most
      match cs with
      | '\x7d' :: rest => if most < least then none else some ((least, some most), rest)
      | _ => none
  | '\x7d' :: rest => do
    let n ← least
    some ((n, some n), rest)
  | _ => none

/-- What has been read of a sequence: a part, or a setting of flags, which nothing can repeat. -/
inductive Item where
  | part (n : Node)
  | setting

/-- The last part of a sequence, to be repeated. -/
def lastPart : List Item → Option (Node × List Item)
  | .part n :: rest => some (n, rest)
  | _ => none

/-- The sequence of the items, which come in reverse order. -/
def ofItems (items : List Item) : Node :=
  .sequence (items.reverse.filterMap fun
    | .part n => some n
    | .setting => none)

/-- A repetition; none at all leaves nothing of its body, and one only the body itself. -/
def repeated (least : Nat) (most : Option Nat) (greedy : Bool) (body : Node) : Node :=
  if most = some 0 then .empty
  else if least = 1 ∧ most = some 1 then body
  else .loop least most greedy body

def charNode (f : Flags) (c : Char) : Node :=
  .set (folded f (only c))

def Atom.node (f : Flags) : Atom → Node
  | .char c => charNode f c
  | .set r => .set r
  | .look l => .look l

def dot (f : Flags) : Option Node :=
  if ¬ f.unicode then none
  else if f.dotAll then some (.set anyChar)
  else if f.crlf then some (.set ⟨#[(0, 9), (0xB, 0xC), (0xE, 0xD7FF), (0xE000, 0x10FFFF)]⟩)
  else some (.set ⟨#[(0, 9), (0xB, 0xD7FF), (0xE000, 0x10FFFF)]⟩)

/-- Sets a flag by its letter. -/
def Flags.put (f : Flags) (on : Bool) : Char → Option Flags
  | 'i' => some { f with caseless := on }
  | 'm' => some { f with multiLine := on }
  | 's' => some { f with dotAll := on }
  | 'U' => some { f with swapGreed := on }
  | 'R' => some { f with crlf := on }
  | 'x' => some { f with spaced := on }
  | 'u' => some { f with unicode := on }
  | _ => none

/-- Flags behind `(?`, up to the colon or parenthesis that ends them, which is given too.  Each
letter may stand once, and a hyphen must be followed by one. -/
def flagRun (f : Flags) (seen : List Char) (last : Option Char) : List Char →
    Option (Flags × Char × Bool × List Char)
  | [] => none
  | c :: cs =>
    if c = ':' ∨ c = ')' then if last = some '-' then none else some (f, c, seen.isEmpty, cs)
    else if seen.contains c then none
    else if c = '-' then flagRun f (c :: seen) (some c) cs
    else (f.put (¬ seen.contains '-') c).bind fun f => flagRun f (c :: seen) (some c) cs

/-- Whether a character may stand in the name of a group. -/
def inGroupName (first : Bool) (c : Char) : Bool :=
  c = '_' || Text.Property.alphabetic.has c ||
    (! first && (c = '.' || c = '[' || c = ']' || (Text.Category.ofShort "N").has c))

/-- The name of a group, up to its closing bracket. -/
def groupName (cs : List Char) : Option (String × List Char) :=
  let name := cs.takeWhile (· ≠ '>')
  match name, cs.dropWhile (· ≠ '>') with
  | c :: more, _ :: rest =>
    if inGroupName true c ∧ more.all (inGroupName false) then some (String.ofList name, rest)
    else none
  | _, _ => none

/-- The start of a group behind its parenthesis. -/
inductive Opening where
  | capture (s : State)
  | flags (f : Flags) (rest : List Char)
  | setting (f : Flags) (rest : List Char)

/-- Reads the start of a group. -/
def opening (s : State) (cs : List Char) : Option Opening :=
  let named (cs : List Char) : Option Opening := do
    let (name, rest) ← groupName cs
    if s.names.any (·.2 = name) then none
    else
      let count := s.count + 1
      some (.capture { s with rest, count, names := s.names ++ [(count, name)] })
  match skip s.flags cs with
  | '?' :: '=' :: _ => none
  | '?' :: '!' :: _ => none
  | '?' :: '<' :: '=' :: _ => none
  | '?' :: '<' :: '!' :: _ => none
  | '?' :: 'P' :: '<' :: cs => named cs
  | '?' :: '<' :: cs => named cs
  | '?' :: cs => do
    let (f, mark, bare, rest) ← flagRun s.flags [] none cs
    if mark = ':' then some (.flags f rest)
    else if bare then none
    else some (.setting f rest)
  | cs => some (.capture { s with rest := cs, count := s.count + 1 })

/-- A mark of laziness behind a repetition. -/
def laziness (f : Flags) (cs : List Char) : Bool × List Char :=
  match cs with
  | '?' :: cs => (f.swapGreed, cs)
  | _ => (! f.swapGreed, cs)

/-- Reads a pattern up to its end or a closing parenthesis.  `choices` holds the sides of a choice
that have been read, the last one first, and `items` what has been read of the present side. -/
def choices (fuel : Nat) (sides : List Node) (items : List Item) (s : State) :
    Option (Node × State) :=
  match fuel with
  | 0 => none
  | fuel + 1 =>
    let f := s.flags
    let done := Node.choice (ofItems items :: sides).reverse
    let on (n : Node) (rest : List Char) := choices fuel sides (.part n :: items) { s with rest }
    let again (least : Nat) (most : Option Nat) (cs : List Char) :=
      match lastPart items with
      | none => none
      | some (n, items) =>
        let (greedy, rest) := laziness f cs
        choices fuel sides (.part (repeated least most greedy n) :: items) { s with rest }
    match skip f s.rest with
    | [] => some (done, { s with rest := [] })
    | ')' :: cs => some (done, { s with rest := ')' :: cs })
    | '|' :: cs => choices fuel (ofItems items :: sides) [] { s with rest := cs }
    | '(' :: cs =>
      match opening s cs with
      | none => none
      | some (.setting f rest) => choices fuel sides (.setting :: items) { s with flags := f, rest }
      | some (.flags inner rest) =>
        match choices fuel [] [] { s with flags := inner, rest } with
        | some (n, ⟨')' :: rest, _, count, names⟩) =>
          choices fuel sides (.part n :: items) ⟨rest, f, count, names⟩
        | _ => none
      | some (.capture inner) =>
        match choices fuel [] [] inner with
        | some (n, ⟨')' :: rest, _, count, names⟩) =>
          choices fuel sides (.part (.group inner.count n) :: items) ⟨rest, f, count, names⟩
        | _ => none
    | '[' :: cs =>
      let (set, rest) := openSet f cs
      match bracketed f (cs.length + 1) set [] rest with
      | some (r, rest) => on (.set r) rest
      | none => none
    | '?' :: cs => again 0 (some 1) cs
    | '*' :: cs => again 0 none cs
    | '+' :: cs => again 1 none cs
    | '\x7b' :: cs =>
      match bounds f cs with
      | some ((least, most), rest) => again least most (skip f rest)
      | none => none
    | '\\' :: cs =>
      match escape f cs with
      | some (a, rest) => on (a.node f) rest
      | none => none
    | '.' :: cs => match dot f with
      | some n => on n cs
      | none => none
    | '^' :: cs => on (.look f.startLook) cs
    | '$' :: cs => on (.look f.stopLook) cs
    | c :: cs => on (charNode f c) cs

end Pattern

open Pattern in
/-- A pattern that can be searched for: its program, and its groups with their names. -/
structure Pattern where
  code : Array Instr
  groups : Nat
  names : List (Nat × String)

namespace Pattern

/-- Reads a pattern. -/
def ofText? (text : String) : Option Pattern :=
  match choices (text.toList.length + 1) [] [] ⟨text.toList, .initial, 0, []⟩ with
  | some (n, ⟨[], _, _, names⟩) =>
    if costLimit < n.cost then none
    else
      let present := n.groups
      some ⟨program n, present.foldl max 0, names.filter (fun e => present.contains e.1)⟩
  | _ => none

/-- Whether the pattern matches somewhere in a text. -/
def isMatch (p : Pattern) (text : String) : Bool := (run p.code 0 none [] none text.toList).isSome

/-- The first match in a text: the parts that the groups have matched, the whole match first. -/
def captures (p : Pattern) (text : String) : Option (List (Option String)) :=
  (run p.code 0 none [] none text.toList).map fun marks =>
    (List.range (p.groups + 1)).map (between text.toList marks)

end Pattern

end Sluice

import Sluice.Pattern.Program

/-!
# Searching a text for a pattern

All ways to match are followed at once, one character of the text after the other, as a list of
threads in order of preference.  Two threads at the same instruction have the same future, so only
the preferred one stays.  A thread that accepts ends all threads behind it.  New threads start at
every place, behind all others, until one has accepted: the match that starts first wins, then the
preferred one.
-/

namespace Sluice.Pattern

/-- A thread: the instruction it stands at, and the places it has marked, the latest first. -/
structure Thread where
  next : Nat
  marks : List (Nat × Nat)

/-- A place in a text: its number, and the characters around it. -/
structure Place where
  number : Nat
  before : Option Char
  after : Option Char

/-- Whether the neighbour of a place belongs to a word. -/
def inWord (ascii : Bool) (c : Option Char) : Bool :=
  c.any (if ascii then asciiWord else wordChars).has

/-- Whether an assertion holds at a place. -/
def Look.holds (l : Look) (p : Place) : Bool :=
  match l with
  | .start => p.before.isNone
  | .stop => p.after.isNone
  | .lineStart => p.before.isNone || p.before = some '\n'
  | .lineStop => p.after.isNone || p.after = some '\n'
  | .lineStartCrlf =>
    p.before.isNone || p.before = some '\n' || (p.before = some '\r' && p.after ≠ some '\n')
  | .lineStopCrlf =>
    p.after.isNone || p.after = some '\r' || (p.after = some '\n' && p.before ≠ some '\r')
  | .boundary ascii => inWord ascii p.before != inWord ascii p.after
  | .notBoundary ascii => inWord ascii p.before == inWord ascii p.after
  | .wordStart ascii => ¬ inWord ascii p.before && inWord ascii p.after
  | .wordStop ascii => inWord ascii p.before && ¬ inWord ascii p.after
  | .wordStartHalf ascii => ¬ inWord ascii p.before
  | .wordStopHalf ascii => ¬ inWord ascii p.after

/-- Follows threads to the instructions that take a character or accept.  `seen` tells the
instructions that some thread has come to; the threads found come in reverse order. -/
def follow (code : Array Instr) (p : Place) (fuel : Nat) (pending : List Thread) (seen : Array Bool)
    (found : List Thread) : Array Bool × List Thread :=
  match fuel, pending with
  | 0, _ => (seen, found)
  | _, [] => (seen, found)
  | fuel + 1, t :: rest =>
    if seen.getD t.next true then follow code p fuel rest seen found
    else
      let seen := seen.setIfInBounds t.next true
      match code[t.next]? with
      | some (.jump target) => follow code p fuel ({ t with next := target } :: rest) seen found
      | some (.fork a b) =>
        follow code p fuel ({ t with next := a } :: { t with next := b } :: rest) seen found
      | some (.mark slot) =>
        follow code p fuel (⟨t.next + 1, (slot, p.number) :: t.marks⟩ :: rest) seen found
      | some (.look l) =>
        if l.holds p then follow code p fuel ({ t with next := t.next + 1 } :: rest) seen found
        else follow code p fuel rest seen found
      | some (.one _) => follow code p fuel rest seen (t :: found)
      | some .accept => follow code p fuel rest seen (t :: found)
      | none => follow code p fuel rest seen found

/-- What the threads at a place come to: those that take the next character, moved behind it, and
the marks of the first thread that accepts, which ends the list. -/
def advance (code : Array Instr) (c : Option Char) :
    List Thread → List Thread × Option (List (Nat × Nat))
  | [] => ([], none)
  | t :: rest =>
    match code[t.next]? with
    | some .accept => ([], some t.marks)
    | some (.one members) =>
      let (more, accepted) := advance code c rest
      if c.any members.has then ({ t with next := t.next + 1 } :: more, accepted)
      else (more, accepted)
    | _ => advance code c rest

/-- Runs threads over the rest of a text; `best` is the preferred match so far. -/
def run (code : Array Instr) (number : Nat) (before : Option Char) (threads : List Thread)
    (best : Option (List (Nat × Nat))) (cs : List Char) : Option (List (Nat × Nat)) :=
  let p : Place := ⟨number, before, cs.head?⟩
  let threads := if best.isNone then threads ++ [⟨0, []⟩] else threads
  let fuel := 2 * code.size + threads.length + 1
  let (_, found) := follow code p fuel threads (Array.replicate code.size false) []
  let (moved, accepted) := advance code cs.head? found.reverse
  let best := match accepted with
    | some marks => some marks
    | none => best
  match cs with
  | [] => best
  | c :: rest =>
    if moved.isEmpty ∧ best.isSome then best else run code (number + 1) (some c) moved best rest

/-- The part of a text between two marks, if both were made; the latest ones count. -/
def between (text : List Char) (marks : List (Nat × Nat)) (index : Nat) : Option String :=
  match marks.lookup (2 * index), marks.lookup (2 * index + 1) with
  | some a, some b => some (String.ofList ((text.drop a).take (b - a)))
  | _, _ => none

end Sluice.Pattern

import Sluice.Pattern.Basic

/-!
# Programs for patterns

A pattern is turned into a list of instructions.  `fork` tries its first target before its second.
The instructions of a part are laid out one after the other from a given place; when the part has
matched, execution has reached the place behind them.
-/

namespace Sluice.Pattern

open Sluice.Text (Ranges)

/-- An instruction. -/
inductive Instr where
  | one (members : Ranges)
  | look (what : Look)
  | mark (slot : Nat)
  | fork (first second : Nat)
  | jump (target : Nat)
  | accept

/-- A part of a program, given the place where it starts. -/
abbrev Layout := Nat → List Instr

/-- A fork that prefers going on to leaving, or the other way round. -/
def forkBy (greedy : Bool) (on away : Nat) : Instr :=
  if greedy then .fork on away else .fork away on

def Layout.andThen (a b : Layout) : Layout := fun start =>
  let first := a start
  first ++ b (start + first.length)

def Layout.times (a : Layout) : Nat → Layout
  | 0 => fun _ => []
  | n + 1 => a.andThen (a.times n)

/-- A part at most some times in a row; every round may be the last one. -/
def Layout.atMost (a : Layout) (greedy : Bool) (rounds : Nat) : Layout := fun start =>
  let size := (a (start + 1)).length + 1
  let away := start + rounds * size
  (List.range rounds).flatMap fun i =>
    let here := start + i * size
    forkBy greedy (here + 1) away :: a (here + 1)

def Layout.oneOrMore (a : Layout) (greedy : Bool) : Layout := fun start =>
  let body := a start
  body ++ [forkBy greedy start (start + body.length + 1)]

/-- A part any number of times; `isLong` says that it takes at least a character each time. -/
def Layout.zeroOrMore (a : Layout) (greedy isLong : Bool) : Layout := fun start =>
  let body := a (start + 1)
  let away := start + body.length + 2
  let again := if isLong then .jump start else forkBy greedy (start + 1) away
  forkBy greedy (start + 1) away :: body ++ [again]

/-- One of two parts, the first one preferred. -/
def Layout.either (a b : Layout) : Layout := fun start =>
  let left := a (start + 1)
  let right := b (start + left.length + 2)
  .fork (start + 1) (start + left.length + 2) :: left
    ++ .jump (start + left.length + 2 + right.length) :: right

/-- The layout of a pattern. -/
def Node.layout : Node → Layout
  | .empty => fun _ => []
  | .set members => fun _ => [.one members]
  | .look what => fun _ => [.look what]
  | .cat a b => a.layout.andThen b.layout
  | .alt a b => a.layout.either b.layout
  | .loop least most greedy body =>
    let part := body.layout
    match most with
    | some most => (part.times least).andThen (part.atMost greedy (most - least))
    | none => match least with
      | 0 => part.zeroOrMore greedy body.isLong
      | least + 1 => (part.times least).andThen (part.oneOrMore greedy)
  | .group index body => fun start =>
    .mark (2 * index) :: body.layout (start + 1) ++ [.mark (2 * index + 1)]

/-- The cost of a set in a program: a set outside ASCII takes several steps over the bytes. -/
def setCost (r : Ranges) : Nat := 32 + 64 * (r.bounds.toList.filter (fun b => 127 < b.2)).length

/-- The cost of a pattern in a program, in bytes. -/
def Node.cost : Node → Nat
  | .empty => 32
  | .set members => setCost members
  | .look _ => 32
  | .cat a b => a.cost + b.cost
  | .alt a b => a.cost + b.cost + 64
  | .loop least most _ body => match most with
    | some most => most * body.cost + 32 * (most - least + 1)
    | none => (max least 1) * body.cost + 64
  | .group _ body => body.cost + 64

/-- Patterns that cost more are refused. -/
def costLimit : Nat := 10485760

/-- The program that accepts what a pattern matches, with the whole match as group 0. -/
def program (n : Node) : Array Instr :=
  ((Node.group 0 n).layout 0 ++ [Instr.accept]).toArray

end Sluice.Pattern

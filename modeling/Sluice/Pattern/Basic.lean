import Sluice.Text.Ranges
import Sluice.Text.Folding
import Sluice.Text.Property
import Sluice.Text.Category

/-!
# Patterns

A pattern is a tree of sets of characters, assertions about a place in a text, sequences, choices,
repetitions and groups.  Choices prefer their left side, greedy repetitions prefer one more round.
-/

namespace Sluice.Pattern

open Sluice.Text (Ranges)

/-- An assertion about a place in a text; `ascii` says that words consist of ASCII characters
only. -/
inductive Look where
  | start | stop
  | lineStart | lineStop | lineStartCrlf | lineStopCrlf
  | boundary (ascii : Bool) | notBoundary (ascii : Bool)
  | wordStart (ascii : Bool) | wordStop (ascii : Bool)
  | wordStartHalf (ascii : Bool) | wordStopHalf (ascii : Bool)
deriving DecidableEq, Repr

/-- A pattern. -/
inductive Node where
  | empty
  | set (members : Ranges)
  | look (what : Look)
  | cat (first second : Node)
  | alt (left right : Node)
  | loop (least : Nat) (most : Option Nat) (greedy : Bool) (body : Node)
  | group (index : Nat) (body : Node)

namespace Node

def sequence : List Node → Node
  | [] => .empty
  | [n] => n
  | n :: rest => .cat n (sequence rest)

def choice : List Node → Node
  | [] => .empty
  | [n] => n
  | n :: rest => .alt n (choice rest)

/-- Whether every match of the pattern has at least one character. -/
def isLong : Node → Bool
  | .empty => false
  | .set _ => true
  | .look _ => false
  | .cat a b => a.isLong || b.isLong
  | .alt a b => a.isLong && b.isLong
  | .loop least _ _ body => least ≠ 0 && body.isLong
  | .group _ body => body.isLong

/-- The groups in a pattern, in order. -/
def groups : Node → List Nat
  | .cat a b => a.groups ++ b.groups
  | .alt a b => a.groups ++ b.groups
  | .loop _ _ _ body => body.groups
  | .group i body => i :: body.groups
  | _ => []

end Node

def anyChar : Ranges := ⟨#[(0, 0xD7FF), (0xE000, 0x10FFFF)]⟩

def only (c : Char) : Ranges := ⟨#[(c.toNat, c.toNat)]⟩

/-- Characters of a word: letters, marks, decimal digits, connectors and joiners. -/
def wordChars : Ranges :=
  .union [Text.Property.alphabetic, Text.Category.marks, Text.Category.decimals,
    Text.Category.ofShort "Pc", Text.Property.named "Join_Control"]

/-- ASCII characters of a word. -/
def asciiWord : Ranges := .ofText "30-39 41-5a 5f 61-7a"

/-- The members of a set and all that differ from them in case only. -/
def caseless (r : Ranges) : Ranges :=
  let added := (Text.foldingClasses.filter (fun cls => cls.any r.hasCode)).flatMap id
  .union [r, .ofList (added.map fun n => (n, n))]

/-- As `caseless`, for ASCII letters only. -/
def asciiCaseless (r : Ranges) : Ranges :=
  let pairs := (List.range 26).map fun i => (0x41 + i, 0x61 + i)
  let added := (pairs.filter (fun p => r.hasCode p.1 || r.hasCode p.2)).flatMap fun p => [p.1, p.2]
  .union [r, .ofList (added.map fun n => (n, n))]

end Sluice.Pattern

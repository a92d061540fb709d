import Sluice.Text.Split

/-!
# Sets and maps of code points

`Ranges` is a set of code points as a sorted array of disjoint ranges, and `Mapping` a map from
characters to texts as a sorted array of entries.  Both are searched by halving.  The tables of this
library are written as texts: `41-5a 61` is the range from U+0041 to U+005A together with U+0061.
-/

namespace Sluice.Text

/-- The last place at or before `high`, and not before `low`, whose key is at most `key`; `low`
itself if there is none behind it. -/
def searchIn (keys : Nat → Nat) (key : Nat) (low high : Nat) : Nat :=
  if low + 1 < high then
    let middle := (low + high) / 2
    if keys middle ≤ key then searchIn keys key middle high else searchIn keys key low middle
  else low
termination_by high - low

/-- A set of code points: sorted, disjoint ranges, each with its first and last member. -/
structure Ranges where
  bounds : Array (Nat × Nat)
deriving Repr

namespace Ranges

def none : Ranges := ⟨#[]⟩

/-- Joins ranges that overlap or touch; the list is sorted by first members. -/
def joined : List (Nat × Nat) → List (Nat × Nat)
  | [] => []
  | (a, b) :: rest =>
    match joined rest with
    | [] => [(a, b)]
    | (c, d) :: more => if c ≤ b + 1 then (a, max b d) :: more else (a, b) :: (c, d) :: more

/-- The set of all members of a list of ranges. -/
def ofList (ranges : List (Nat × Nat)) : Ranges :=
  ⟨(joined ((ranges.filter (fun r => r.1 ≤ r.2)).mergeSort (fun a b => a.1 ≤ b.1))).toArray⟩

def ofText (text : String) : Ranges :=
  ⟨((words text).map fun w =>
    match splitAt '-' w with
    | [a, b] => (hexValue a, hexValue b)
    | _ => (hexValue w, hexValue w)).toArray⟩

def hasCode (r : Ranges) (n : Nat) : Bool :=
  let i := searchIn (fun i => (r.bounds.getD i (0, 0)).1) n 0 r.bounds.size
  match r.bounds[i]? with
  | some (a, b) => a ≤ n ∧ n ≤ b
  | Option.none => false

def has (r : Ranges) (c : Char) : Bool := r.hasCode c.toNat

def union (sets : List Ranges) : Ranges := ofList (sets.flatMap (·.bounds.toList))

/-- The gaps before, between and behind sorted ranges. -/
def gaps : Nat → List (Nat × Nat) → List (Nat × Nat)
  | start, [] => [(start, 0x10FFFF)]
  | start, (a, b) :: rest => (if start < a then [(start, a - 1)] else []) ++ gaps (b + 1) rest

def complement (r : Ranges) : Ranges :=
  ⟨((gaps 0 r.bounds.toList).filter (fun g => g.1 ≤ g.2)).toArray⟩

def inter (r s : Ranges) : Ranges := (union [r.complement, s.complement]).complement

end Ranges

/-- A map from some characters to texts. -/
structure Mapping where
  entries : Array (Nat × List Char)

namespace Mapping

def ofText (text : String) : Mapping :=
  ⟨((words text).map fun w =>
    match splitAt ':' w with
    | [a, b] => (hexValue a, (splitAt ',' b).map fun h => Char.ofNat (hexValue h))
    | _ => (0, [])).toArray⟩

/-- What a character is mapped to: itself if it has no entry. -/
def apply (m : Mapping) (c : Char) : List Char :=
  let i := searchIn (fun i => (m.entries.getD i (0, [])).1) c.toNat 0 m.entries.size
  match m.entries[i]? with
  | some (a, cs) => if a = c.toNat then cs else [c]
  | none => [c]

end Mapping

end Sluice.Text

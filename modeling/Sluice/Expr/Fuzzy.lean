import Sluice.Text.Decomposition
import Sluice.Text.Case
import Sluice.Text.Category

/-!
# The closest of several texts

`closest` picks, among the candidates that hold the characters of a needle in order, the first one
at the least edit distance from it.  Case and accents do not count: texts are compared in folded
form.
-/

namespace Sluice.Fuzzy

/-- The folded form of a text: decomposed, without marks, in lower case. -/
def fold (s : String) : List Char :=
  ((Text.decomposed s.toList).filter (fun c => ¬ Text.Category.marks.has c)).flatMap Text.lowerChar

/-- Whether the characters of the first text stand in the second one, in order, maybe with others
between them. -/
def isSubsequence : List Char → List Char → Bool
  | [], _ => true
  | _ :: _, [] => false
  | a :: as, b :: bs => if a = b then isSubsequence as bs else isSubsequence (a :: as) bs

/-- The next row of the table of distances: `left` is the new entry before those that remain,
`diagonal` the old one, `above` holds the old entries behind it. -/
def nextRow (c : Char) (left diagonal : Nat) : List Char → List Nat → List Nat
  | b :: bs, up :: above =>
    let entry := min (min (up + 1) (left + 1)) (diagonal + if c = b then 0 else 1)
    entry :: nextRow c entry up bs above
  | _, _ => []

/-- The row after one more character of the first text. -/
def step (b : List Char) (row : List Nat) (c : Char) : List Nat :=
  match row with
  | [] => []
  | corner :: above => (corner + 1) :: nextRow c (corner + 1) corner b above

/-- The distances from the empty text to the prefixes of `b`, then from one more character of `a` at
a time; the last entry of the last row is the distance of the whole texts. -/
def distance (a b : List Char) : Nat :=
  (a.foldl (step b) (List.range (b.length + 1))).getLastD 0

/-- The best candidate so far and the next one. -/
def better (needle : List Char) (best : Option (Nat × String)) (candidate : String) :
    Option (Nat × String) :=
  let folded := fold candidate
  if isSubsequence needle folded then
    let d := distance needle folded
    match best with
    | none => some (d, candidate)
    | some (least, _) => if d < least then some (d, candidate) else best
  else best

/-- The first candidate of least distance among those that hold the needle; empty if none does. -/
def closest (needle : String) (candidates : List String) : String :=
  ((candidates.foldl (better (fold needle)) none).map (·.2)).getD ""

end Sluice.Fuzzy

/-!
# Splitting texts

A text is split at every character of a class, or at the first occurrence of one character.  The
parts of the tables of this library are hexadecimal numerals.
-/

namespace Sluice.Text

/-- The value of a hexadecimal numeral in lower case. -/
def hexValue (cs : List Char) : Nat :=
  let digit (c : Char) : Nat := if c.isDigit then c.toNat - '0'.toNat else c.toNat - 'a'.toNat + 10
  cs.foldl (fun n c => 16 * n + digit c) 0

/-- Splits at every character of a class; the parts may be empty. -/
def splitWhen (p : Char → Bool) : List Char → List (List Char)
  | [] => [[]]
  | c :: cs =>
    if p c then [] :: splitWhen p cs
    else match splitWhen p cs with
      | [] => [[c]]
      | part :: parts => (c :: part) :: parts

def splitAt (c : Char) (cs : List Char) : List (List Char) := splitWhen (· = c) cs

/-- Splits a text in two at the first occurrence of a character, if there is one. -/
def splitOnce? (c : Char) (cs : List Char) : Option (List Char × List Char) :=
  match cs.dropWhile (· ≠ c) with
  | [] => none
  | _ :: rest => some (cs.takeWhile (· ≠ c), rest)

/-- The parts of a text between blanks and line ends. -/
def words (s : String) : List (List Char) :=
  (splitWhen (fun c => c = ' ' ∨ c = '\n') s.toList).filter (fun w => ¬ w.isEmpty)

end Sluice.Text

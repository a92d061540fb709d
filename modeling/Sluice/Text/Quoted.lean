import Sluice.Text.Category
import Sluice.Text.Property

/-!
# Quoted texts in diagnostics

A text between double quotes in which every character can be told by sight: quotes, backslashes and
the usual control characters are escaped by a letter, all else that shows nothing by itself, or only
joins the character before it, by its code point in braces.
-/

namespace Sluice.Text

/-- Characters that are written as their code point: those that show nothing by themselves, the
blank apart, and those that join the character before them. -/
def hidden : Ranges := .union [Category.unprintable, Property.graphemeExtend]

def quoteChar (c : Char) : List Char :=
  if c = '\x00' then ['\\', '0']
  else if c = '\t' then ['\\', 't']
  else if c = '\r' then ['\\', 'r']
  else if c = '\n' then ['\\', 'n']
  else if c = '\\' then ['\\', '\\']
  else if c = '"' then ['\\', '"']
  else if c.toNat < 127 ∧ 32 ≤ c.toNat then [c]
  else if hidden.has c then '\\' :: 'u' :: '\x7b' :: Nat.toDigits 16 c.toNat ++ ['\x7d']
  else [c]

/-- A text between double quotes. -/
def quote (s : String) : String := String.ofList ('"' :: s.toList.flatMap quoteChar ++ ['"'])

end Sluice.Text

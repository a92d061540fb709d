import Sluice.Text.Script
import Sluice.Text.Category
import Sluice.Text.Property

/-!
# Names of character properties

The names under which a pattern may ask for a property of characters: general categories and their
groups, scripts, and binary properties.  Case, blanks, hyphens, underscores and a leading `is` do
not count.
-/

namespace Sluice.Pattern

open Sluice.Text (Ranges)

/-- A name in the form in which names are compared. -/
def normalName (name : List Char) : List Char :=
  let kept := (name.filter fun c => c.toNat < 128 ∧ c ≠ ' ' ∧ c ≠ '_' ∧ c ≠ '-').map Char.toLower
  match kept with
  | ['i', 's', 'c'] => ['i', 's', 'c']
  | 'i' :: 's' :: rest => rest
  | cs => cs

def normal (name : String) : List Char := normalName name.toList

/-- Names for a category beside its short and long name. -/
def otherCategoryNames : List (String × String) := [
  ("digit", "Nd"), ("cntrl", "Cc"), ("combiningmark", "M"), ("punct", "P"), ("letter", "L"),
  ("mark", "M"),
  ("number", "N"), ("punctuation", "P"), ("symbol", "S"), ("separator", "Z")]

/-- The groups of categories, by their short names. -/
def categoryGroups : List String := ["L", "M", "N", "P", "S", "Z"]

/-- The characters of a general category or of a group of categories. -/
def category? (name : List Char) : Option Ranges :=
  if name = "any".toList then some ⟨#[(0, 0x10FFFF)]⟩
  else if name = "ascii".toList then some ⟨#[(0, 0x7F)]⟩
  else if name = "assigned".toList then some Text.Category.assigned
  else if name = "cn".toList ∨ name = "unassigned".toList then
    some Text.Category.assigned.complement
  else if name = "c".toList ∨ name = "other".toList then
    some (.complement (.union (categoryGroups.map Text.Category.ofShort)))
  else if name = "lc".toList ∨ name = "casedletter".toList then
    some (.union (["Lu", "Ll", "Lt"].map Text.Category.ofShort))
  else match otherCategoryNames.find? (·.1.toList = name) with
    | some (_, short) => some (Text.Category.ofShort short)
    | none => match categoryGroups.find? (normal · = name) with
      | some short => some (Text.Category.ofShort short)
      | none =>
        let isNamed (row : String × String × Ranges) : Bool :=
          normal row.1 = name ∨ normal row.2.1 = name
        (Text.Category.table.find? isNamed).map (·.2.2)

/-- Names for a script beside its short and long name. -/
def otherScriptNames : List (String × String) := [("qaac", "Copt"), ("qaai", "Zinh")]

def script? (name : List Char) : Option Ranges :=
  let name := match otherScriptNames.find? (·.1.toList = name) with
    | some (_, short) => normal short
    | none => name
  (Text.Script.table.find? fun row => normal row.1 = name ∨ normal row.2.1 = name).map (·.2.2)

/-- Short names of binary properties. -/
def shortPropertyNames : List (String × String) := [
  ("alpha", "Alphabetic"), ("upper", "Uppercase"), ("lower", "Lowercase"),
  ("wspace", "White_Space"),
  ("space", "White_Space"), ("ci", "Case_Ignorable"), ("hex", "Hex_Digit"),
  ("ahex", "ASCII_Hex_Digit"),
  ("epres", "Emoji_Presentation"), ("emod", "Emoji_Modifier"), ("ecomp", "Emoji_Component"),
  ("extpict", "Extended_Pictographic"), ("ids", "ID_Start"), ("idc", "ID_Continue"),
  ("xids", "XID_Start"), ("xidc", "XID_Continue"), ("ideo", "Ideographic"),
  ("qmark", "Quotation_Mark"),
  ("di", "Default_Ignorable_Code_Point"), ("joinc", "Join_Control"), ("grext", "Grapheme_Extend"),
  ("dia", "Diacritic"), ("nchar", "Noncharacter_Code_Point")]

/-- The characters with a binary property. -/
def binary? (name : List Char) : Option Ranges :=
  let name := match shortPropertyNames.find? (·.1.toList = name) with
    | some (_, long) => normal long
    | none => name
  (Text.Property.table.find? fun row => normal row.1 = name).map (·.2)

/-- The characters that a single name stands for. -/
def byName? (name : List Char) : Option Ranges :=
  let name := normalName name
  binary? name <|> category? name <|> script? name

/-- The characters with a value of a property. -/
def byValue? (name value : List Char) : Option Ranges :=
  let name := normalName name
  let value := normalName value
  if name = "gc".toList ∨ name = "generalcategory".toList then category? value
  else if name = "sc".toList ∨ name = "script".toList ∨ name = "scx".toList ∨
    name = "scriptextensions".toList then
    script? value
  else none

end Sluice.Pattern

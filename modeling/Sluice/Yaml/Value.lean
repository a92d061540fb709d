import Sluice.Decimal.Reading
import Sluice.Json.Basic
import Sluice.Yaml.Node

/-!
# The value of a YAML document

A plain scalar is a null, a boolean, a number or else a text; a quoted one is a text.  A tag of the
standard set decides otherwise, any other tag that starts with `!` has no value.  The keys of a map
are the texts of scalars, whatever they look like.
-/

namespace Sluice.Yaml

def digit? (radix : Nat) (c : Char) : Option Nat :=
  let n := if c.isDigit then c.toNat - '0'.toNat
    else if 'a' ≤ c ∧ c ≤ 'f' then c.toNat - 'a'.toNat + 10
    else if 'A' ≤ c ∧ c ≤ 'F' then c.toNat - 'A'.toNat + 10
    else radix
  if n < radix then some n else none

def natural? (radix : Nat) (cs : List Char) : Option Nat :=
  if cs.isEmpty then none
  else cs.foldlM (fun n c => (digit? radix c).map (radix * n + ·)) 0

/-- Whether digits follow a leading zero; they make no number. -/
def hasLeadingZero (cs : List Char) : Bool :=
  let cs := if cs.head?.any (fun c => c = '-' ∨ c = '+') then cs.tail else cs
  1 < cs.length ∧ cs.head? = some '0' ∧ cs.all Char.isDigit

/-- The digits behind `0x`, `0o` or `0b`, and their radix. -/
def radixPart? : List Char → Option (Nat × List Char)
  | '0' :: 'x' :: rest => some (16, rest)
  | '0' :: 'o' :: rest => some (8, rest)
  | '0' :: 'b' :: rest => some (2, rest)
  | _ => none

def integer? (cs : List Char) : Option Int :=
  let (negative, ds) := match cs with
    | '-' :: rest => (true, rest)
    | '+' :: rest => (false, rest)
    | _ => (false, cs)
  let n? := match radixPart? ds with
    | some (radix, rest) => natural? radix rest
    | none => if hasLeadingZero cs then none else natural? 10 ds
  n?.map fun n => if negative then -(n : Int) else n

/-- How infinity and the absence of a number are spelled. -/
def isInfinite (text : String) : Bool :=
  [".inf", ".Inf", ".INF", "-.inf", "-.Inf", "-.INF", "+.inf", "+.Inf", "+.INF", ".nan", ".NaN",
   ".NAN"].contains text

/-- What a decimal numeral stands for; null if that is not finite by its spelling. -/
def decimal? (text : String) : Option Json :=
  if isInfinite text then some .null
  else
    let (negative, ds) := match text.toList with
      | '-' :: rest => (true, rest)
      | '+' :: rest => (false, rest)
      | cs => (false, cs)
    (Decimal.Numeral.read? ds).bind fun n =>
      (Number.ofFloat? (if negative then -n.toFloat else n.toFloat)).map .number

/-- What a scalar spells if that is a number; `none` inside for an integer of more than 64 bits,
unless it is so large that it is taken as a float. -/
def number? (text : String) : Option (Option Json) :=
  let cs := text.toList
  let float? := if hasLeadingZero cs then none else (decimal? text).map some
  match integer? cs with
  | some i =>
    match Number.ofInt? i with
    | some n => some (some (.number n))
    | none => if -(Nat.pow 2 127) ≤ i ∧ i < Nat.pow 2 128 then some none else float?
  | none => float?

def boolean? (text : String) : Option Bool :=
  if ["true", "True", "TRUE"].contains text then some true
  else if ["false", "False", "FALSE"].contains text then some false
  else none

def isNull (text : String) : Bool := ["null", "Null", "NULL", "~"].contains text

/-- The value of a plain scalar without a tag. -/
def plainValue (text : String) : Option Json :=
  if text.isEmpty ∨ isNull text then some .null
  else match boolean? text with
    | some b => some (.bool b)
    | none => (number? text).getD (some (.string text))

/-- Whether a tag says nothing about the value. -/
def isPrivate (tag : String) : Bool := tag.startsWith "!" ∧ 1 < tag.length

/-- The value of a scalar. -/
def scalarValue (tag : Option String) (text : String) (plain : Bool) : Option Json :=
  match tag with
  | none => if plain then plainValue text else some (.string text)
  | some "tag:yaml.org,2002:bool" => (boolean? text).map .bool
  | some "tag:yaml.org,2002:int" => ((integer? text.toList).bind Number.ofInt?).map .number
  | some "tag:yaml.org,2002:float" => decimal? text
  | some "tag:yaml.org,2002:null" => if isNull text then some .null else none
  | some tag => if isPrivate tag then none else some (.string text)

/-- What a node stands for: its value, unless it is a scalar whose tag does not suit it; its text,
if it is a scalar; how deep it nests; and how many aliases stand in it, those behind aliases
included. -/
structure Meaning where
  value : Option Json
  text : Option String
  depth : Nat
  aliases : Nat

/-- What the anchors so far stand for; `none` for a node that is not complete. -/
abbrev Anchors := List (String × Option Meaning)

/-- Notes what an anchor stands for. -/
def Anchors.note (anchors : Anchors) (anchor : Option String) (m : Option Meaning) : Anchors :=
  match anchor with
  | some name => (name, m) :: anchors
  | none => anchors

mutual

/-- What a node stands for, and the anchors behind it. -/
def meaning (anchors : Anchors) : Node → Option (Meaning × Anchors)
  | .alias name => do
    let m ← (← anchors.lookup name)
    return ({ m with aliases := m.aliases + 1 }, anchors)
  | .scalar anchor tag text plain =>
    let m : Meaning := ⟨scalarValue tag text plain, some text, 0, 0⟩
    some (m, anchors.note anchor (some m))
  | .list anchor tag items => do
    if tag.any isPrivate then none
    else
      let (items, depth, aliases, anchors) ← itemMeanings (anchors.note anchor none) items
      let m : Meaning := ⟨some (.list items), none, depth + 1, aliases⟩
      return (m, anchors.note anchor (some m))
  | .map anchor tag entries => do
    if tag.any isPrivate then none
    else
      let (fields, depth, aliases, anchors) ← entryMeanings (anchors.note anchor none) [] entries
      let m : Meaning := ⟨some (.map fields), none, depth + 1, aliases⟩
      return (m, anchors.note anchor (some m))

/-- The values of the items of a list, how deep they nest, how many aliases they hold, and the
anchors behind them. -/
def itemMeanings (anchors : Anchors) : List Node → Option (List Json × Nat × Nat × Anchors)
  | [] => some ([], 0, 0, anchors)
  | n :: rest => do
    let (m, anchors) ← meaning anchors n
    let first ← m.value
    let (more, depth, aliases, anchors) ← itemMeanings anchors rest
    return (first :: more, max m.depth depth, m.aliases + aliases, anchors)

/-- The fields of a map behind those that are known; of a repeated key the last value stays, in the
first place. -/
def entryMeanings (anchors : Anchors) (fields : Fields Json) :
    List (Node × Node) → Option (Fields Json × Nat × Nat × Anchors)
  | [] => some (fields, 0, 0, anchors)
  | (k, v) :: rest => do
    let (key, anchors) ← meaning anchors k
    let name ← key.text
    let (m, anchors) ← meaning anchors v
    let fields := Fields.set name (← m.value) fields
    let (fields, depth, aliases, anchors) ← entryMeanings anchors fields rest
    return (fields, max m.depth depth, key.aliases + m.aliases + aliases, anchors)

end

/-- How deep a document may nest. -/
def depthLimit : Nat := 128

/-- How many aliases a document may come to for each of its parts. -/
def aliasLimit : Nat := 100

/-- Reads a text that holds one document. -/
def read? (text : List Char) : Option Json := do
  let node ← Node.ofTokens? (← Token.read? text)
  let (m, _) ← meaning [] node
  if depthLimit < m.depth ∨ aliasLimit * node.parts < m.aliases then none else m.value

end Sluice.Yaml

import Sluice.Json.Printer
import Sluice.Text.Utf8
import Sluice.Decimal.Reading

/-!
# Templates

A template is a text with directives.  A directive is `%`, flags (`-`, `0`, `+`, and `#` and the
blank, which say nothing), a width, a point with a precision, and a verb; each verb but `%` takes
the next argument.  A directive that cannot be filled leaves a note in the text and nothing fails.
-/

namespace Sluice.Template

/-- The flags, the width and the precision of a directive. -/
structure Spec where
  left : Bool
  zero : Bool
  plus : Bool
  width : Option Nat
  precision : Option Nat
deriving DecidableEq

def Spec.plain : Spec := ⟨false, false, false, none, none⟩

/-- Widths and precisions above this are refused. -/
def largest : Nat := 1000000

def flags (spec : Spec) : List Char → Spec × List Char
  | [] => (spec, [])
  | c :: cs =>
    if c = '-' then flags { spec with left := true } cs
    else if c = '0' then flags { spec with zero := true } cs
    else if c = '+' then flags { spec with plus := true } cs
    else if c = ' ' ∨ c = '#' then flags spec cs
    else (spec, c :: cs)

/-- Takes a numeral off a text, if it starts with one. -/
def count? (cs : List Char) : Option Nat × List Char :=
  let ds := cs.takeWhile Char.isDigit
  (if ds.isEmpty then none else some (Decimal.value ds), cs.dropWhile Char.isDigit)

/-- A directive behind its `%`: notes about what is refused, the specification, and the text from
its verb on. -/
def directive (cs : List Char) : List Char × Spec × List Char :=
  let (spec, cs) := flags .plain cs
  let (width, cs) := count? cs
  let (notes, width) :=
    if width.any (largest < ·) then ("%!(BADWIDTH)".toList, none) else ([], width)
  let spec := { spec with width }
  match cs with
  | '.' :: cs =>
    let (digits, cs) := count? cs
    let precision := digits.getD 0
    if largest < precision then (notes ++ "%!(BADPREC)".toList, spec, cs)
    else (notes, { spec with precision := some precision }, cs)
  | cs => (notes, spec, cs)

/-- A numeral with `+` before it, if the flag asks for it and the number is not below zero. -/
def Spec.signed (spec : Spec) (negative : Bool) (cs : List Char) : List Char :=
  if spec.plus ∧ ¬ negative then '+' :: cs else cs

/-- A float with one digit before the point and an exponent of at least two digits. -/
def exponential (x : Float) (precision : Nat) : List Char :=
  let (mantissa, e) := Decimal.scientific x precision
  let ds := Decimal.digits e.natAbs
  mantissa ++ 'e' :: (if e < 0 then '-' else '+') :: (if ds.length < 2 then '0' :: ds else ds)

/-- An integer of 64 bits in hexadecimal; a negative one stands for its two's complement. -/
def hexadecimal (i : Int) : List Char :=
  Nat.toDigits 16 (if i < 0 then 18446744073709551616 + i else i).toNat

def upperAscii (cs : List Char) : List Char := cs.map Char.toUpper

/-- What a verb makes of an argument that does not suit it. -/
def unsuitable (verb : Char) (arg : Json) : List Char :=
  '%' :: '!' :: verb :: '(' :: arg.kind.name.toList ++ '=' :: arg.display.toList ++ [')']

/-- A number under a verb. -/
def renderNumber (verb : Char) (n : Number) (spec : Spec) : List Char :=
  let x := n.toFloat
  let negative : Bool := x < 0.0
  match verb, n.toSigned? with
  | 'v', _ => spec.signed negative n.print
  | 'd', some i => spec.signed (i < 0) (Number.printInt i)
  | 'x', some i => hexadecimal i
  | 'X', some i => upperAscii (hexadecimal i)
  | 'f', _ => spec.signed negative (Decimal.fixed x (spec.precision.getD 6))
  | 'F', _ => spec.signed negative (Decimal.fixed x (spec.precision.getD 6))
  | 'e', _ => spec.signed negative (exponential x (spec.precision.getD 6))
  | 'g', _ => spec.signed negative <| match spec.precision with
    | some p => Decimal.fixed x p
    | none => Decimal.plain x
  | verb, _ => unsuitable verb (.number n)

/-- A text under a verb. -/
def renderString (verb : Char) (s : String) (spec : Spec) : List Char :=
  match verb with
  | 'v' => s.toList
  | 's' => match spec.precision with
    | some p => s.toList.take p
    | none => s.toList
  | 'x' => Text.hex (Text.encode s)
  | 'X' => upperAscii (Text.hex (Text.encode s))
  | 'q' => Json.quoted s.toList
  | verb => unsuitable verb (.string s)

/-- An argument under a verb, before padding. -/
def render (verb : Char) (arg : Json) (spec : Spec) : List Char :=
  match verb, arg with
  | verb, .number n => renderNumber verb n spec
  | verb, .string s => renderString verb s spec
  | 'v', .null => "<nil>".toList
  | 't', .bool b => (Json.bool b).print
  | 'v', other => other.print
  | verb, other => unsuitable verb other

/-- Fills a field up to its width: with blanks behind or before it, or with zeros behind its
sign. -/
def pad (cs : List Char) (spec : Spec) (numeric : Bool) : List Char :=
  let fill := spec.width.getD 0 - cs.length
  if fill = 0 then cs
  else if spec.left then cs ++ List.replicate fill ' '
  else if spec.zero ∧ numeric then
    match cs with
    | c :: rest =>
      if c = '-' ∨ c = '+' then c :: List.replicate fill '0' ++ rest
      else List.replicate fill '0' ++ cs
    | [] => List.replicate fill '0'
  else List.replicate fill ' ' ++ cs

def isNumber (v : Json) : Bool := v.kind = .number

theorem flags_length (spec : Spec) (cs : List Char) : (flags spec cs).2.length ≤ cs.length := by
  fun_induction flags spec cs <;> simp_all <;> omega

theorem count?_length (cs : List Char) : (count? cs).2.length ≤ cs.length :=
  (List.dropWhile_sublist _).length_le

theorem directive_length (cs : List Char) : (directive cs).2.2.length ≤ cs.length := by
  have h1 := flags_length .plain cs
  have h2 := count?_length (flags .plain cs).2
  unfold directive
  dsimp only
  split
  · rename_i cs' heq
    have h3 := count?_length cs'
    rw [heq] at h2
    simp only [List.length_cons] at h2
    split <;> simp only <;> omega
  · simp only
    omega

/-- Fills the directives of a template with arguments, from the first on. -/
def fill (cs : List Char) (args : List Json) : List Char :=
  match cs with
  | [] => []
  | c :: cs =>
    if c ≠ '%' then c :: fill cs args
    else
      have hlen := directive_length cs
      match h : directive cs with
      | (notes, _, []) => notes ++ "%!(NOVERB)".toList
      | (notes, spec, verb :: rest) =>
        have : rest.length < cs.length := by rw [h] at hlen; exact hlen
        if verb = '%' then notes ++ '%' :: fill rest args
        else match args with
          | [] => notes ++ '%' :: '!' :: verb :: "(MISSING)".toList ++ fill rest []
          | arg :: args => notes ++ pad (render verb arg spec) spec (isNumber arg) ++ fill rest args
termination_by cs.length

def format (template : String) (args : List Json) : String :=
  String.ofList (fill template.toList args)

end Sluice.Template

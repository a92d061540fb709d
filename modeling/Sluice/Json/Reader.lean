import Sluice.Json.Basic
import Sluice.Decimal.Reading
import Sluice.Text.Utf8

/-!
# Reading JSON text

A reader step takes a `Cursor`, the text still to be read together with its line and column, and
gives a value and the cursor behind it, or a `Refusal` that says what is wrong and where.  Lists and
maps nest at most 127 deep.  A number with a point or an exponent, or beyond 64 bits, is a float:
its leading digits that fit 64 bits, multiplied or divided by a power of ten in binary64 arithmetic.
-/

namespace Sluice.Json

/-- What is wrong with a text. -/
inductive Flaw where
  | endInList | endInMap | endInString | endInValue
  | colonExpected | listSeparatorExpected | mapSeparatorExpected | wordExpected | valueExpected
  | badEscape | badNumber | numberOutOfRange | controlCharacter | keyNotString
  | loneSurrogate | unfinishedPair | trailingComma | trailingText | nestedTooDeep
deriving DecidableEq, Repr

/-- The wording of a flaw. -/
def Flaw.message : Flaw → String
  | .endInList => "EOF while parsing a list"
  | .endInMap => "EOF while parsing an object"
  | .endInString => "EOF while parsing a string"
  | .endInValue => "EOF while parsing a value"
  | .colonExpected => "expected \x60:\x60"
  | .listSeparatorExpected => "expected \x60,\x60 or \x60]\x60"
  | .mapSeparatorExpected => "expected \x60,\x60 or \x60\x7d\x60"
  | .wordExpected => "expected ident"
  | .valueExpected => "expected value"
  | .badEscape => "invalid escape"
  | .badNumber => "invalid number"
  | .numberOutOfRange => "number out of range"
  | .controlCharacter => "control character (\\u0000-\\u001F) found while parsing a string"
  | .keyNotString => "key must be a string"
  | .loneSurrogate => "lone leading surrogate in hex escape"
  | .unfinishedPair => "unexpected end of hex escape"
  | .trailingComma => "trailing comma"
  | .trailingText => "trailing characters"
  | .nestedTooDeep => "recursion limit exceeded"

/-- The text still to be read, and how far the reader is: lines count from 1, columns are the bytes
read of the line. -/
structure Cursor where
  rest : List Char
  line : Nat
  column : Nat

/-- A flaw and its place. -/
structure Refusal where
  flaw : Flaw
  line : Nat
  column : Nat
deriving DecidableEq, Repr

def Refusal.message (r : Refusal) : String :=
  r.flaw.message ++ " at line " ++ toString r.line ++ " column " ++ toString r.column

/-- What a reader step gives: a value and the cursor behind it. -/
abbrev Parsed (α : Type) := α × Cursor

namespace Cursor

def start (text : List Char) : Cursor := ⟨text, 1, 0⟩

def skip (c : Cursor) : Cursor :=
  match c.rest with
  | [] => c
  | '\n' :: rest => ⟨rest, c.line + 1, 0⟩
  | ch :: rest => ⟨rest, c.line, c.column + ch.utf8Size⟩

/-- The place some bytes further on; inside a character it is counted from its start. -/
def placeAfter : Nat → List Char → Nat → Nat → Nat × Nat
  | bytes, ch :: rest, line, column =>
    if bytes = 0 then (line, column)
    else if ch = '\n' then placeAfter (bytes - 1) rest (line + 1) 0
    else if ch.utf8Size ≤ bytes then
      placeAfter (bytes - ch.utf8Size) rest line (column + ch.utf8Size)
    else (line, column + bytes)
  | _, [], line, column => (line, column)

/-- A flaw some bytes behind the cursor. -/
def refuseAfter {α : Type} (c : Cursor) (bytes : Nat) (flaw : Flaw) : Except Refusal α :=
  let (line, column) := placeAfter bytes c.rest c.line c.column
  .error ⟨flaw, line, column⟩

def refuse {α : Type} (c : Cursor) (flaw : Flaw) : Except Refusal α := c.refuseAfter 0 flaw

/-- A flaw in the next byte. -/
def refuseNext {α : Type} (c : Cursor) (flaw : Flaw) : Except Refusal α := c.refuseAfter 1 flaw

/-- Moves on while the next character is one of a class. -/
def skipWhile (p : Char → Bool) : List Char → Nat → Nat → Cursor
  | ch :: rest, line, column =>
    if p ch then
      if ch = '\n' then skipWhile p rest (line + 1) 0
      else skipWhile p rest line (column + ch.utf8Size)
    else ⟨ch :: rest, line, column⟩
  | [], line, column => ⟨[], line, column⟩

def isBlank (c : Char) : Bool := c = ' ' ∨ c = '\n' ∨ c = '\t' ∨ c = '\r'

def skipBlanks (c : Cursor) : Cursor := skipWhile isBlank c.rest c.line c.column

end Cursor

def hexValue? (c : Char) : Option Nat :=
  if '0' ≤ c ∧ c ≤ '9' then some (c.toNat - '0'.toNat)
  else if 'a' ≤ c ∧ c ≤ 'f' then some (c.toNat - 'a'.toNat + 10)
  else if 'A' ≤ c ∧ c ≤ 'F' then some (c.toNat - 'A'.toNat + 10)
  else none

/-- The four hexadecimal digits of an escape. -/
def hexEscape (c : Cursor) : Except Refusal (Parsed Nat) :=
  match c.rest with
  | a :: b :: d :: e :: rest =>
    match hexValue? a, hexValue? b, hexValue? d, hexValue? e with
    | some a, some b, some d, some e =>
      .ok (((a * 16 + b) * 16 + d) * 16 + e, ⟨rest, c.line, c.column + 4⟩)
    | _, _, _, _ => c.refuseAfter 4 .badEscape
  | short =>
    c.refuseAfter (min 4 (Text.byteLength short))
      (if Text.byteLength short < 4 then .endInString else .badEscape)

/-- The second half of a surrogate pair, behind a first half. -/
def secondHalf (first : Nat) (c : Cursor) : Except Refusal (Parsed Char) :=
  match c.rest with
  | [] => c.refuse .endInString
  | '\\' :: _ =>
    match c.skip.rest with
    | [] => c.skip.refuse .endInString
    | 'u' :: _ => do
      let (second, c) ← hexEscape c.skip.skip
      if second < 0xDC00 ∨ 0xDFFF < second then c.refuse .loneSurrogate
      else .ok (Char.ofNat ((first - 0xD800) * 1024 + (second - 0xDC00) + 0x10000), c)
    | _ => c.skip.refuseNext .unfinishedPair
  | _ => c.refuseNext .unfinishedPair

/-- The character that an escape stands for, behind its backslash. -/
def readEscape (c : Cursor) : Except Refusal (Parsed Char) :=
  match c.rest with
  | [] => c.refuse .endInString
  | '"' :: _ => .ok ('"', c.skip)
  | '\\' :: _ => .ok ('\\', c.skip)
  | '/' :: _ => .ok ('/', c.skip)
  | 'b' :: _ => .ok ('\x08', c.skip)
  | 'f' :: _ => .ok ('\x0c', c.skip)
  | 'n' :: _ => .ok ('\n', c.skip)
  | 'r' :: _ => .ok ('\r', c.skip)
  | 't' :: _ => .ok ('\t', c.skip)
  | 'u' :: _ => do
    let (n, c) ← hexEscape c.skip
    if 0xDC00 ≤ n ∧ n ≤ 0xDFFF then c.refuse .loneSurrogate
    else if n < 0xD800 ∨ 0xDBFF < n then .ok (Char.ofNat n, c)
    else secondHalf n c
  | _ => c.refuseNext .badEscape

/-- The rest of a quoted text, behind its opening quote; `fuel` bounds the characters read. -/
def readString (fuel : Nat) (read : List Char) (c : Cursor) : Except Refusal (Parsed String) :=
  match fuel with
  | 0 => c.refuse .endInString
  | fuel + 1 =>
    match c.rest with
    | [] => c.refuse .endInString
    | '"' :: _ => .ok (String.ofList read.reverse, c.skip)
    | '\\' :: _ => do
      let (ch, c) ← readEscape c.skip
      readString fuel (ch :: read) c
    | ch :: _ =>
      if ch.toNat < 32 then c.refuseNext .controlCharacter else readString fuel (ch :: read) c.skip

/-- A quoted text, behind its opening quote. -/
def stringBody (c : Cursor) : Except Refusal (Parsed String) := readString (c.rest.length + 1) [] c

/-- The characters of a word such as `null`, behind its first one. -/
def word (c : Cursor) : List Char → Except Refusal Cursor
  | [] => .ok c
  | expected :: more =>
    match c.rest with
    | [] => c.refuse .endInValue
    | ch :: _ => if ch = expected then word c.skip more else c.refuseNext .wordExpected

/-- Digits that are gathered while they fit 64 bits; `dropped` counts those after them. -/
structure Gathered where
  significand : Nat
  kept : Nat
  dropped : Nat

/-- Gathers a run of digits. -/
def Gathered.add (g : Gathered) (ds : List Char) : Gathered :=
  ds.foldl (fun g d =>
    let n := g.significand * 10 + (d.toNat - '0'.toNat)
    if g.dropped = 0 ∧ n < Nat.pow 2 64 then ⟨n, g.kept + 1, 0⟩
    else { g with dropped := g.dropped + 1 }) g

/-- `significand * 10 ^ exponent` in binary64 arithmetic: one multiplication or division by a power
of ten, with divisions by `1e308` before it where the exponent is below -308. -/
def scaled (fuel : Nat) (x : Float) (exponent : Int) : Option Float :=
  match fuel with
  | 0 => some x
  | fuel + 1 =>
    if exponent.natAbs ≤ 308 then
      let power := Decimal.nearest 1 exponent.natAbs
      if exponent < 0 then some (x / power)
      else if (x * power).isInf then none else some (x * power)
    else if x == 0.0 then some x
    else if 0 ≤ exponent then none
    else scaled fuel (x / 1e308) (exponent + 308)

/-- A float in parts, at the place where its reading ended. -/
def floatOf (negative : Bool) (significand : Nat) (exponent : Int) (c : Cursor) :
    Except Refusal (Parsed Number) :=
  match scaled (exponent.natAbs / 308 + 2) (Float.ofNat significand) exponent with
  | none => c.refuse .numberOutOfRange
  | some x =>
    match Number.ofFloat? (if negative then -x else x) with
    | some n => .ok (n, c)
    | none => c.refuse .numberOutOfRange

def digitRun (c : Cursor) : List Char × Cursor :=
  (c.rest.takeWhile Char.isDigit, Cursor.skipWhile Char.isDigit c.rest c.line c.column)

/-- Exponents beyond this are not told apart. -/
def largestExponent : Nat := 2147483647

/-- Behind the `e` of a float: a sign, if any, and at least one digit. -/
def exponentPart (negative : Bool) (significand : Nat) (shift : Int) (c : Cursor) :
    Except Refusal (Parsed Number) :=
  let (down, c) := match c.rest with
    | '+' :: _ => (false, c.skip)
    | '-' :: _ => (true, c.skip)
    | _ => (false, c)
  match c.rest with
  | [] => c.refuse .endInValue
  | ch :: _ =>
    if ¬ ch.isDigit then c.refuseNext .badNumber
    else
      let (ds, after) := digitRun c
      let size := Decimal.value ds
      if size ≤ largestExponent then
        floatOf negative significand (if down then shift - size else shift + size) after
      else if significand ≠ 0 ∧ ¬ down then
        let digitsRead := ((List.range (ds.length + 1)).find? fun n =>
          largestExponent < Decimal.value (ds.take n)).getD ds.length
        c.refuseAfter digitsRead .numberOutOfRange
      else floatOf negative 0 0 after

/-- Behind the whole digits of a number. -/
def numberTail (negative : Bool) (g : Gathered) (c : Cursor) : Except Refusal (Parsed Number) :=
  match c.rest with
  | '.' :: _ =>
    let (ds, after) := digitRun c.skip
    if ds.isEmpty then
      match c.skip.rest with
      | [] => c.skip.refuseNext .endInValue
      | _ => c.skip.refuseNext .badNumber
    else
      let all := Gathered.add ⟨g.significand, 0, 0⟩ ds
      let shift : Int := (g.dropped : Int) - all.kept
      match after.rest with
      | 'e' :: _ => exponentPart negative all.significand shift after.skip
      | 'E' :: _ => exponentPart negative all.significand shift after.skip
      | _ => floatOf negative all.significand shift after
  | 'e' :: _ => exponentPart negative g.significand g.dropped c.skip
  | 'E' :: _ => exponentPart negative g.significand g.dropped c.skip
  | _ =>
    if g.dropped ≠ 0 ∨ (negative ∧ g.significand = 0) then
      floatOf negative g.significand g.dropped c
    else
      match Number.ofInt? (if negative then -(g.significand : Int) else g.significand) with
      | some n => .ok (n, c)
      | none => floatOf negative g.significand 0 c

/-- A number, behind its sign. -/
def readNumber (negative : Bool) (c : Cursor) : Except Refusal (Parsed Number) :=
  match c.rest with
  | [] => c.refuse .endInValue
  | '0' :: rest =>
    match rest with
    | d :: _ =>
      if d.isDigit then c.skip.refuseNext .badNumber else numberTail negative ⟨0, 1, 0⟩ c.skip
    | [] => numberTail negative ⟨0, 1, 0⟩ c.skip
  | ch :: _ =>
    if ch.isDigit then
      let (ds, after) := digitRun c
      numberTail negative (Gathered.add ⟨0, 0, 0⟩ ds) after
    else c.refuseNext .badNumber

/-- The items of a list, behind its bracket; `value` reads one item, `fuel` bounds their number. -/
def readItems (value : Cursor → Except Refusal (Parsed Json)) (fuel : Nat) (read : List Json)
    (c : Cursor) :
    Except Refusal (Parsed Json) :=
  match fuel with
  | 0 => c.refuse .endInList
  | fuel + 1 =>
    let c := c.skipBlanks
    match c.rest with
    | [] => c.refuseNext .endInList
    | ']' :: _ => .ok (.list read.reverse, c.skip)
    | ch :: _ =>
      if read.isEmpty then do
        let (v, c) ← value c
        readItems value fuel [v] c
      else if ch = ',' then
        let c := c.skip.skipBlanks
        match c.rest with
        | [] => c.refuseNext .endInValue
        | ']' :: _ => c.refuseNext .trailingComma
        | _ => do
          let (v, c) ← value c
          readItems value fuel (v :: read) c
      else c.refuseNext .listSeparatorExpected

/-- One field of a map, from the quote of its key. -/
def readField (value : Cursor → Except Refusal (Parsed Json)) (c : Cursor) :
    Except Refusal (Parsed (String × Json)) := do
  let (key, c) ← stringBody c.skip
  let c := c.skipBlanks
  match c.rest with
  | [] => c.refuseNext .endInMap
  | ':' :: _ => do
    let (v, c) ← value c.skip
    .ok ((key, v), c)
  | _ => c.refuseNext .colonExpected

/-- The fields of a map, behind its brace; of a repeated key the last value stays, in the first
place. -/
def readFields (value : Cursor → Except Refusal (Parsed Json)) (fuel : Nat) (first : Bool)
    (read : Fields Json)
    (c : Cursor) : Except Refusal (Parsed Json) :=
  match fuel with
  | 0 => c.refuse .endInMap
  | fuel + 1 =>
    let c := c.skipBlanks
    match c.rest with
    | [] => c.refuseNext .endInMap
    | '\x7d' :: _ => .ok (.map read, c.skip)
    | ch :: _ =>
      if first then
        if ch = '"' then do
          let ((key, v), c) ← readField value c
          readFields value fuel false (Fields.set key v read) c
        else c.refuseNext .keyNotString
      else if ch = ',' then
        let c := c.skip.skipBlanks
        match c.rest with
        | [] => c.refuseNext .endInValue
        | '"' :: _ => do
          let ((key, v), c) ← readField value c
          readFields value fuel false (Fields.set key v read) c
        | '\x7d' :: _ => c.refuseNext .trailingComma
        | _ => c.refuseNext .keyNotString
      else c.refuseNext .mapSeparatorExpected

/-- A value that nests less than `depth` deep. -/
def readValue (depth : Nat) (c : Cursor) : Except Refusal (Parsed Json) :=
  let c := c.skipBlanks
  match c.rest with
  | [] => c.refuseNext .endInValue
  | 'n' :: _ => do
    let c ← word c.skip ['u', 'l', 'l']
    .ok (.null, c)
  | 't' :: _ => do
    let c ← word c.skip ['r', 'u', 'e']
    .ok (.bool true, c)
  | 'f' :: _ => do
    let c ← word c.skip ['a', 'l', 's', 'e']
    .ok (.bool false, c)
  | '"' :: _ => do
    let (s, c) ← stringBody c.skip
    .ok (.string s, c)
  | '-' :: _ => do
    let (n, c) ← readNumber true c.skip
    .ok (.number n, c)
  | '[' :: _ =>
    match depth with
    | depth + 2 => readItems (readValue (depth + 1)) (c.rest.length + 1) [] c.skip
    | _ => c.refuseNext .nestedTooDeep
  | '\x7b' :: _ =>
    match depth with
    | depth + 2 => readFields (readValue (depth + 1)) (c.rest.length + 1) true [] c.skip
    | _ => c.refuseNext .nestedTooDeep
  | ch :: _ =>
    if ch.isDigit then do
      let (n, c) ← readNumber false c
      .ok (.number n, c)
    else c.refuseNext .valueExpected

/-- How deep a text may nest, and one more. -/
def depthLimit : Nat := 128

/-- Refuses what stands behind a value, blanks apart. -/
def atEnd {α : Type} : Except Refusal (Parsed α) → Except Refusal α
  | .error e => .error e
  | .ok (v, c) =>
    let c := c.skipBlanks
    match c.rest with
    | [] => .ok v
    | _ => c.refuseNext .trailingText

/-- Reads a text that holds one value. -/
def read (text : List Char) : Except Refusal Json := atEnd (readValue depthLimit (.start text))

/-- Reads a text that holds one quoted text, starting at its quote. -/
def readQuoted (text : List Char) : Except Refusal String :=
  atEnd (stringBody (Cursor.start text).skip)

end Sluice.Json

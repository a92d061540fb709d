import Sluice.Yaml.Scalar
import Sluice.Yaml.Token
import Sluice.Text.Utf8

/-!
# From YAML text to tokens

The lexer keeps the columns of the block collections that are open, and for each bracket that is
open the place where a key without a sign of its own may have started.  When a `:` follows such a
place, the tokens for the key and maybe for the start of a map are put in there.
-/

namespace Sluice.Yaml

/-- A place where a key may have started: the number of tokens before it, and whether only a key can
stand there. -/
structure KeyPlace where
  tokens : Nat
  required : Bool
  index : Nat
  line : Nat
  column : Nat

/-- The state of the lexer.  `keys` holds an entry for the block context and one for each open
bracket, the innermost first; `indent` is the column of the innermost block collection, -1 outside
all of them. -/
structure Lexer where
  cursor : Cursor
  tokens : Array Token
  indent : Int
  indents : List Int
  keyAllowed : Bool
  keys : List (Option KeyPlace)

namespace Lexer

def start (cs : List Char) : Lexer := ⟨.start cs, #[], -1, [], true, [none]⟩

def inFlow (l : Lexer) : Bool := 1 < l.keys.length

def push (l : Lexer) (t : Token) : Lexer := { l with tokens := l.tokens.push t }

def advance (l : Lexer) (n : Nat) : Lexer := { l with cursor := l.cursor.skipMany n }

/-- Sets whether a key may start next. -/
def allowKey (l : Lexer) (allowed : Bool) : Lexer := { l with keyAllowed := allowed }

/-- Skips blanks, comments and line ends; fuel bounds the lines. -/
def skipSpace : Nat → Lexer → Lexer
  | 0, l => l
  | fuel + 1, l =>
    let tabs := l.inFlow || !l.keyAllowed
    let c := (l.cursor.skipWhile fun ch => ch = ' ' ∨ tabs ∧ ch = '\t').skipComment
    if c.peek.any isBreak then
      skipSpace fuel { l with cursor := c.skip, keyAllowed := l.keyAllowed || !l.inFlow }
    else { l with cursor := c }

/-- Keys are written on one line and are not long. -/
def KeyPlace.isStale (k : KeyPlace) (c : Cursor) : Bool :=
  k.line < c.line ∨ k.index + 1024 < c.index

/-- Gives up the places that are too far behind; fails if only a key could stand there. -/
def dropStale (l : Lexer) : Option Lexer := do
  let keys ← l.keys.mapM fun
    | none => some none
    | some k =>
      if ¬ KeyPlace.isStale k l.cursor then some (some k)
      else if k.required then none else some none
  return { l with keys }

/-- Gives up the innermost place; fails if only a key could stand there. -/
def dropKey (l : Lexer) : Option Lexer :=
  match l.keys with
  | some k :: rest => if k.required then none else some { l with keys := none :: rest }
  | _ => some l

/-- Keeps this place as the start of a key, if a key may start here. -/
def saveKey (l : Lexer) : Option Lexer :=
  if l.keyAllowed then do
    let required := !l.inFlow && decide (l.indent = l.cursor.column)
    let l ← l.dropKey
    let place : KeyPlace :=
      ⟨l.tokens.size, required, l.cursor.index, l.cursor.line, l.cursor.column⟩
    return { l with keys := some place :: l.keys.tail }
  else some l

/-- Opens a block collection at a column, if it is further right than the innermost one; its token
is put in behind some others. -/
def openBlock (l : Lexer) (column : Nat) (place : Nat) (t : Token) : Lexer :=
  if ¬ l.inFlow ∧ l.indent < column then
    { l with
      indents := l.indent :: l.indents
      indent := column
      tokens := l.tokens.insertIdxIfInBounds place t }
  else l

/-- Closes the block collections right of a column; `outer` are the columns around the innermost
one. -/
def closeFrom (column : Int) (l : Lexer) : List Int → Lexer
  | [] => l
  | i :: rest =>
    if column < l.indent then
      closeFrom column { l.push .blockEnd with indent := i, indents := rest } rest else l

/-- Closes the block collections right of a column. -/
def closeBlocks (l : Lexer) (column : Int) : Lexer :=
  if l.inFlow then l else closeFrom column l l.indents

/-- A token of some characters before which all block collections end. -/
def atMargin (l : Lexer) : Option Lexer := do
  let l ← (l.closeBlocks (-1)).dropKey
  return l.allowKey false

/-- Whether a character may stand in the name of an anchor or a tag. -/
def isWord (c : Char) : Bool := c.isAlphanum ∨ c = '_' ∨ c = '-'

/-- Up to nine digits. -/
def numeral (c : Cursor) : Option (Nat × Cursor) :=
  let ds := c.runOf Char.isDigit
  if ds.isEmpty ∨ 9 < ds.length then none
  else some (ds.foldl (fun n d => 10 * n + (d.toNat - '0'.toNat)) 0, c.skipMany ds.length)

/-- Characters of a tag besides letters, digits, `_` and `-`; the last three only between angle
brackets. -/
def inTag (bracketed : Bool) (c : Char) : Bool :=
  isWord c || ";/?:@&=+$.!~*'()%".toList.contains c || bracketed && [',', '[', ']'].contains c

/-- The bytes of some `%` with two hexadecimal digits each. -/
def tagBytes : Nat → List Char → Option (List UInt8 × List Char)
  | 0, cs => some ([], cs)
  | n + 1, cs =>
    match cs with
    | '%' :: rest => do
      let b ← hexadecimal? 2 rest
      let (bs, cs) ← tagBytes n (rest.drop 2)
      return (UInt8.ofNat b :: bs, cs)
    | _ => none

/-- How many bytes a character has that starts with a byte. -/
def byteCount? (b : Nat) : Option Nat :=
  if b < 0x80 then some 1
  else if b / 32 = 6 then some 2
  else if b / 16 = 14 then some 3
  else if b / 8 = 30 then some 4
  else none

/-- The characters of a tag with their escapes decoded, and how many were read. -/
def tagText (bracketed : Bool) : Nat → List Char → Option (List Char × Nat)
  | 0, _ => some ([], 0)
  | fuel + 1, cs =>
    match cs with
    | [] => some ([], 0)
    | c :: rest =>
      if c = '%' then do
        let n ← (hexadecimal? 2 rest).bind byteCount?
        let (bs, left) ← tagBytes n cs
        if bs.tail.any fun b => b.toNat / 64 ≠ 2 then none
        else
          let (more, count) ← tagText bracketed fuel left
          return ((Text.decode bs).toList ++ more, 3 * n + count)
      else if inTag bracketed c then do
        let (more, count) ← tagText bracketed fuel rest
        return (c :: more, count + 1)
      else some ([], 0)

/-- The text of a tag here. -/
def readTagText (bracketed : Bool) (c : Cursor) : Option (List Char × Cursor) :=
  (tagText bracketed c.rest.length c.rest).map fun (cs, n) => (cs, c.skipMany n)

/-- `!`, maybe with a word and another `!` behind it. -/
def tagHandle (c : Cursor) : Option (List Char × Cursor) :=
  if c.sees '!' then
    let word := c.skip.runOf isWord
    let c := c.skip.skipMany word.length
    if c.sees '!' then some ('!' :: word ++ ['!'], c.skip) else some ('!' :: word, c)
  else none

/-- A directive line, from its `%`. -/
def directive (c : Cursor) : Option (Token × Cursor) := do
  let name := c.skip.runOf isWord
  let c := c.skip.skipMany name.length
  if name.isEmpty ∨ ¬ isGap c.peek then none
  else
    let c := c.skipBlanks
    let (t, c) ← match String.ofList name with
      | "YAML" => do
        let (major, c) ← numeral c
        if c.sees '.' then
          let (minor, c) ← numeral c.skip
          some (Token.version major minor, c)
        else none
      | "TAG" => do
        let (handle, c) ← tagHandle c
        if (handle ≠ ['!'] ∧ handle.getLast? ≠ some '!') ∨ ¬ c.peek.any isBlank then none
        else
          let (stem, c) ← readTagText true c.skipBlanks
          if stem.isEmpty ∨ ¬ isGap c.peek then none
          else some (Token.tagShorthand (String.ofList handle) (String.ofList stem), c)
      | _ => none
    let c := c.skipBlanks.skipComment
    if c.peek.any fun ch => ¬ isBreak ch then none else return (t, c.skipBreak)

/-- The name of an anchor or an alias, behind its sign. -/
def anchorName (c : Cursor) : Option (String × Cursor) :=
  let name := c.runOf isWord
  let c := c.skipMany name.length
  if name.isEmpty ∨ ¬ (isGap c.peek ∨ c.peek.any fun ch => "?:,]\x7d%@\x60".toList.contains ch) then
    none
  else some (String.ofList name, c)

/-- A tag, from its sign. -/
def tagToken (flow : Bool) (c : Cursor) : Option (Token × Cursor) := do
  let (t, c) ←
    if c.ahead 1 = some '<' then do
      let (suffix, c) ← readTagText true (c.skipMany 2)
      if suffix.isEmpty ∨ ¬ c.sees '>' then none
      else some (Token.tag "" (String.ofList suffix), c.skip)
    else do
      let (handle, c) ← tagHandle c
      let (more, c) ← readTagText false c
      if 1 < handle.length ∧ handle.getLast? = some '!' then
        if more.isEmpty then none
        else some (Token.tag (String.ofList handle) (String.ofList more), c)
      else
        let suffix := handle.tail ++ more
        if suffix.isEmpty then some (Token.tag "" "!", c)
        else some (Token.tag "!" (String.ofList suffix), c)
  if isGap c.peek ∨ flow ∧ c.sees ',' then return (t, c) else none

/-- A token that may start a key. -/
def keyToken (l : Lexer) (read : Cursor → Option (Token × Cursor)) : Option Lexer := do
  let l ← l.saveKey
  let (t, c) ← read l.cursor
  return { l.push t with cursor := c, keyAllowed := false }

def openFlow (l : Lexer) (t : Token) : Option Lexer := do
  let l ← l.saveKey
  return ({ l.push t with keys := none :: l.keys }.allowKey true).advance 1

def closeFlow (l : Lexer) (t : Token) : Option Lexer := do
  let l ← l.dropKey
  let keys := if l.inFlow then l.keys.tail else l.keys
  return ({ l.push t with keys }.allowKey false).advance 1

/-- A sign before an item of a list or a key. -/
def blockSign (l : Lexer) (opens t : Token) (keyNext : Bool) : Option Lexer :=
  if ¬ l.inFlow ∧ ¬ l.keyAllowed then none
  else do
    let l ← (l.openBlock l.cursor.column l.tokens.size opens).dropKey
    return ((l.push t).allowKey keyNext).advance 1

/-- A sign before a value. -/
def valueSign (l : Lexer) : Option Lexer :=
  match l.keys with
  | some k :: rest =>
    let l := { l with tokens := l.tokens.insertIdxIfInBounds k.tokens .key, keys := none :: rest }
    let l := l.openBlock k.column k.tokens .blockMapStart
    some (((l.push .value).allowKey false).advance 1)
  | _ =>
    if ¬ l.inFlow ∧ ¬ l.keyAllowed then none
    else
      let l := l.openBlock l.cursor.column l.tokens.size .blockMapStart
      some (((l.push .value).allowKey (!l.inFlow)).advance 1)

def blockScalar (l : Lexer) (literal : Bool) : Option Lexer := do
  let l ← l.dropKey
  let (text, c) ← block literal l.indent l.cursor
  return { l.push (.scalar (String.ofList text) false) with cursor := c, keyAllowed := true }

def quotedScalar (quote : Char) (c : Cursor) : Option (Token × Cursor) :=
  (quoted quote c).map fun (text, c) => (.scalar (String.ofList text) false, c)

def plainScalar (l : Lexer) : Option Lexer := do
  let l ← l.saveKey
  let (text, ends, c) ← plain l.inFlow (l.indent + 1) l.cursor
  return { l.push (.scalar (String.ofList text) true) with cursor := c, keyAllowed := ends }

/-- Characters that no plain scalar starts with, `-`, `?` and `:` apart. -/
def isSign (c : Char) : Bool := ",[]\x7b\x7d#&*!|>'\"%@\x60".toList.contains c

/-- The token that starts with a character. -/
def tokenAt (l : Lexer) (ch : Char) : Option Lexer :=
  let c := l.cursor
  let ends := isGap (c.ahead 1)
  if c.column = 0 ∧ ch = '%' then do
    let l ← l.atMargin
    let (t, c) ← directive l.cursor
    return { l.push t with cursor := c }
  else if c.seesMark '-' then do return ((← l.atMargin).push .documentStart).advance 3
  else if c.seesMark '.' then do return ((← l.atMargin).push .documentEnd).advance 3
  else if ch = '[' then l.openFlow .flowListStart
  else if ch = '\x7b' then l.openFlow .flowMapStart
  else if ch = ']' then l.closeFlow .flowListEnd
  else if ch = '\x7d' then l.closeFlow .flowMapEnd
  else if ch = ',' then do return (((← l.dropKey).push .comma).allowKey true).advance 1
  else if ch = '-' ∧ ends then l.blockSign .blockListStart .item true
  else if ch = '?' ∧ (l.inFlow ∨ ends) then l.blockSign .blockMapStart .key (!l.inFlow)
  else if ch = ':' ∧ (l.inFlow ∨ ends) then l.valueSign
  else if ch = '*' then
    l.keyToken fun c => (anchorName c.skip).map fun (name, c) => (.alias name, c)
  else if ch = '&' then
    l.keyToken fun c => (anchorName c.skip).map fun (name, c) => (.anchor name, c)
  else if ch = '!' then l.keyToken (tagToken l.inFlow)
  else if (ch = '|' ∨ ch = '>') ∧ ¬ l.inFlow then l.blockScalar (ch = '|')
  else if ch = '\'' ∨ ch = '"' then l.keyToken (quotedScalar ch)
  else if ¬ isSign ch ∧ ¬ isBlank ch ∧ (ch ≠ '-' ∨ ¬ (c.ahead 1).any isBlank) ∧
    (¬ (ch = '?' ∨ ch = ':') ∨ ¬ l.inFlow)
    then l.plainScalar
  else none

/-- All tokens that are left; fuel bounds their number. -/
def run : Nat → Lexer → Option (List Token)
  | 0, _ => none
  | fuel + 1, l => do
    let l ← (l.skipSpace (l.cursor.rest.length + 1)).dropStale
    let l := l.closeBlocks l.cursor.column
    match l.cursor.peek with
    | none => return ((← l.atMargin).push .finish).tokens.toList
    | some ch => run fuel (← l.tokenAt ch)

end Lexer

/-- The tokens of a text; a byte order mark may stand before them. -/
def Token.read? (text : List Char) : Option (List Token) :=
  let cs := match text with
    | '\ufeff' :: rest => rest
    | cs => cs
  if cs.all isPrintable then Lexer.run (cs.length + 1) (.start (uniform cs)) else none

end Sluice.Yaml

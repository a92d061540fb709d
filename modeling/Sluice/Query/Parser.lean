import Sluice.Query.Basic
import Sluice.Decimal.Reading
import Sluice.Text.Ranges

/-!
# Reading queries

A `Reader` takes a part off the front of a text or fails, and an alternative starts again where the
one before it started.  Blanks may stand between the parts of a query, and inside the name behind a
dot, but not right behind a dot or between a function and its parenthesis.
-/

namespace Sluice.Query

/-- Takes a part off the front of a text. -/
abbrev Reader := StateT (List Char) Option

namespace Reader

def char (p : Char → Bool) : Reader Char := do
  match ← get with
  | [] => failure
  | c :: rest =>
    if p c then
      set rest
      pure c
    else failure

def mark (c : Char) : Reader Char := char (· = c)

def word (cs : List Char) : Reader Unit := cs.forM fun c => discard (mark c)

/-- A part as often as it comes, at most `fuel` times. -/
def times {α : Type} (r : Reader α) : Nat → Reader (List α)
  | 0 => pure []
  | fuel + 1 => (do
      let first ← r
      let more ← times r fuel
      pure (first :: more)) <|> pure []

def many {α : Type} (r : Reader α) : Reader (List α) := do times r (← get).length

def option {α : Type} (r : Reader α) : Reader (Option α) := some <$> r <|> pure none

def isBlank (c : Char) : Bool := c = ' ' ∨ c = '\t' ∨ c = '\n' ∨ c = '\r'

/-- Blanks, maybe none. -/
def blanks : Reader (List Char) := many (char isBlank)

/-- A part with blanks around it. -/
def padded {α : Type} (r : Reader α) : Reader α := do
  let _ ← blanks
  let part ← r
  let _ ← blanks
  pure part

/-- Fails unless a condition holds. -/
def check (condition : Bool) : Reader Unit := if condition then pure () else failure

end Reader

open Reader

/-- What a name behind a dot starts with. -/
def startsName (c : Char) : Bool := c.isAlpha ∨ c = '_' ∨ 0x80 ≤ c.toNat

/-- What a name behind a dot goes on with. -/
def inName (c : Char) : Bool := startsName c ∨ c.isDigit

/-- A name behind a dot; blanks inside it belong to it. -/
def memberName : Reader String := do
  let first ← char startsName
  let more ← many do
    let gap ← blanks
    let c ← char inName
    pure (gap ++ [c])
  pure (String.ofList (first :: more.flatten))

def hexDigit : Reader Char :=
  char fun c => c.isDigit ∨ 'a' ≤ c ∧ c ≤ 'f' ∨ 'A' ≤ c ∧ c ≤ 'F'

/-- The number behind the `u` of an escape. -/
def hexNumber : Reader Nat := do
  let a ← hexDigit
  let b ← hexDigit
  let c ← hexDigit
  let d ← hexDigit
  pure (Text.hexValue ([a, b, c, d].map Char.toLower))

/-- The character behind the `u` of an escape; one beyond U+FFFF takes two escapes. -/
def unicodeEscape : Reader Char := do
  let n ← hexNumber
  if 0xD800 ≤ n ∧ n ≤ 0xDBFF then
    word ['\\', 'u']
    let low ← hexNumber
    check (0xDC00 ≤ low ∧ low ≤ 0xDFFF)
    pure (Char.ofNat (0x10000 + (n - 0xD800) * 0x400 + (low - 0xDC00)))
  else
    check (n < 0xDC00 ∨ 0xDFFF < n)
    pure (Char.ofNat n)

/-- The character that a letter stands for behind a backslash. -/
def escaped? (quote c : Char) : Option Char :=
  match c with
  | 'b' => some '\x08' | 'f' => some '\x0c' | 'n' => some '\n' | 'r' => some '\r' | 't' => some '\t'
  | '/' => some '/' | '\\' => some '\\'
  | c => if c = quote then some c else none

/-- A character inside quotes: how it is spelled and what it stands for. -/
def quotedChar (quote : Char) : Reader (List Char × Char) := do
  let before ← get
  let c ← char fun c => c ≠ quote ∧ 0x20 ≤ c.toNat
  let meant ← if c = '\\' then do
      let e ← char fun _ => true
      match escaped? quote e with
      | some meant => pure meant
      | none =>
        check (e = 'u')
        unicodeEscape
    else pure c
  let after ← get
  pure (before.take (before.length - after.length), meant)

/-- A quoted text: its quote, how its characters are spelled, and what they stand for. -/
def quoted : Reader (Char × List Char × List Char) := do
  let quote ← char fun c => c = '\'' ∨ c = '"'
  let body ← many (quotedChar quote)
  let _ ← mark quote
  pure (quote, body.flatMap (·.1), body.map (·.2))

/-- A text without the occurrences of a character at its ends. -/
def strip (c : Char) (cs : List Char) : List Char :=
  ((cs.dropWhile (· = c)).reverse.dropWhile (· = c)).reverse

/-- A key in brackets; its own quotes do not count at its ends. -/
def quotedKey : Reader String := do
  let (quote, _, meant) ← quoted
  pure (String.ofList (strip quote meant))

/-- The digits of an integer without leading zeros, at most sixteen. -/
def wholeDigits : Reader (List Char) := (do
    let _ ← mark '0'
    pure ['0']) <|> do
  let first ← char fun c => c.isDigit ∧ c ≠ '0'
  let more ← times (char Char.isDigit) 15
  pure (first :: more)

/-- The largest integer of a query; the negative ones reach as far. -/
def largest : Nat := 9007199254740991

def integer : Reader Int := do
  let sign ← option (mark '-')
  let n := Decimal.value (← wholeDigits)
  check (n ≤ largest ∧ ¬ (sign.isSome ∧ n = 0))
  pure (if sign.isSome then -(n : Int) else n)

/-- A step of a slice behind its colon. -/
def sliceStep : Reader (Option Int) := do
  let _ ← mark ':'
  let _ ← blanks
  option integer

/-- `start:stop:step`, where everything but the first colon may be missing. -/
def slice : Reader Selector := do
  let start ← option integer
  let _ ← padded (mark ':')
  let stop ← option integer
  let _ ← blanks
  let step ← option sliceStep
  pure (.slice start stop (step.bind id))

/-- What stands between brackets and commas; `condition` reads what follows a question mark. -/
def selector (condition : Reader Condition) : Reader Selector :=
  .name <$> quotedKey
  <|> (do
    let _ ← mark '*'
    pure .wildcard)
  <|> slice
  <|> .index <$> integer
  <|> (do
    let _ ← mark '?'
    let _ ← blanks
    .filter <$> condition)

def brackets (condition : Reader Condition) : Reader (List Selector) := do
  let _ ← mark '['
  let first ← padded (selector condition)
  let more ← many do
    let _ ← mark ','
    padded (selector condition)
  let _ ← mark ']'
  pure (first :: more)

/-- What stands behind a dot. -/
def shorthand : Reader (List Selector) := (do
    let _ ← mark '*'
    pure [.wildcard]) <|> (fun key => [.name key]) <$> memberName

def segment (condition : Reader Condition) : Reader Segment :=
  (do
    word ['.', '.']
    .step true <$> (brackets condition <|> shorthand))
  <|> (do
    let _ ← mark '.'
    .step false <$> shorthand)
  <|> .step false <$> brackets condition

def segments (condition : Reader Condition) : Reader (List Segment) :=
  many do
    let _ ← blanks
    segment condition

/-- The place where a query inside a condition starts: whether that is the root. -/
def origin : Reader Bool := (do
    let _ ← mark '$'
    pure true) <|> do
  let _ ← mark '@'
  pure false

/-- A query inside a condition. -/
def innerQuery (condition : Reader Condition) : Reader Operand := do
  let fromRoot ← origin
  .found fromRoot <$> segments condition

/-- A segment that leads to one place at most. -/
def singularSegment : Reader Segment :=
  (do
    let _ ← mark '.'
    let key ← memberName
    pure (.step false [.name key]))
  <|> do
    let _ ← mark '['
    let one ← padded (.name <$> quotedKey <|> .index <$> integer)
    let _ ← mark ']'
    pure (.step false [one])

/-- A query that leads to one place at most. -/
def singularQuery : Reader Operand := do
  let fromRoot ← origin
  .found fromRoot <$> many do
    let _ ← blanks
    singularSegment

/-- The places of a number behind its point. -/
def placesPart : Reader (List Char) := do
  let _ ← mark '.'
  let first ← char Char.isDigit
  let more ← many (char Char.isDigit)
  pure (first :: more)

/-- The exponent of a number. -/
def exponentPart : Reader Int := do
  let _ ← char fun c => c = 'e' ∨ c = 'E'
  let sign ← option (char fun c => c = '+' ∨ c = '-')
  let first ← char Char.isDigit
  let more ← many (char Char.isDigit)
  let n := Decimal.value (first :: more)
  pure (if sign = some '-' then -(n : Int) else n)

/-- A number: an integer unless it has places or an exponent. -/
def number : Reader Json := do
  let sign ← option (mark '-')
  let whole ← wholeDigits
  let places ← option placesPart
  let exponent ← option exponentPart
  if places.isNone ∧ exponent.isNone then
    let n := Decimal.value whole
    check (n ≤ largest)
    pure (((Number.ofInt? (if sign.isSome then -(n : Int) else n)).map .number).getD .null)
  else
    let x := (Decimal.Numeral.mk whole (places.getD []) (exponent.getD 0)).toFloat
    pure (((Number.ofFloat? (if sign.isSome then -x else x)).map .number).getD .null)

/-- A constant; texts stand for themselves as they are spelled. -/
def constant : Reader Json :=
  number
  <|> (do
    let (_, spelled, _) ← quoted
    pure (.string (String.ofList spelled)))
  <|> (do
    word "true".toList
    pure (.bool true))
  <|> (do
    word "false".toList
    pure (.bool false))
  <|> (do
    word "null".toList
    pure .null)

/-- The names of the functions, and how many arguments they take. -/
def functions : List (String × Function × Nat) :=
  [("length", .length, 1), ("value", .value, 1), ("count", .count, 1),
   ("search", .search, 2), ("match", .isMatch, 2), ("in", .isIn, 2), ("nin", .notIn, 2),
   ("none_of", .noneOf, 2), ("any_of", .anyOf, 2), ("subset_of", .subsetOf, 2)]

/-- Whether a function takes what it is given: `value` and `count` take what a query or a function
finds, `length` takes constants too. -/
def Function.accepts : Function → List Operand → Bool
  | .length, [.truth _] => false
  | .value, [.truth _] => false
  | .count, [.truth _] => false
  | .value, [.constant _] => false
  | .count, [.constant _] => false
  | _, _ => true

/-- Whether the result of a function is compared, rather than being a condition itself. -/
def Function.isComparable : Function → Bool
  | .length => true
  | .value => true
  | .count => true
  | _ => false

/-- An argument of a function; `call` reads a call. -/
def argument (condition : Reader Condition) (call : Reader Operand) : Reader Operand :=
  .constant <$> constant <|> innerQuery condition <|> call <|> .truth <$> condition

/-- The arguments of a function, with commas between them. -/
def arguments (one : Reader Operand) : Nat → Reader (List Operand)
  | 0 => pure []
  | 1 => do pure [← padded one]
  | n + 2 => do
    let first ← padded one
    let _ ← mark ','
    let more ← arguments one (n + 1)
    pure (first :: more)

/-- A call; calls nest at most `fuel` deep. -/
def call (condition : Reader Condition) : Nat → Reader Operand
  | 0 => failure
  | fuel + 1 =>
    functions.firstM fun (name, function, arity) => do
      word name.toList
      let _ ← mark '('
      let args ← arguments (argument condition (call condition fuel)) arity
      let _ ← mark ')'
      check (function.accepts args)
      pure (.call function args)

def comparator : Reader Comparator :=
  [("==", Comparator.eq), ("!=", .ne), ("<=", .le), (">=", .ge), ("<", .lt), (">", .gt)].firstM
    fun (symbol, op) => do
      word symbol.toList
      pure op

/-- What a comparison compares. -/
def comparable (calls : Reader Operand) : Reader Operand :=
  .constant <$> constant <|> singularQuery <|> do
    match ← calls with
    | .call function args =>
      check function.isComparable
      pure (.call function args)
    | _ => failure

/-- A comparison. -/
def comparison (calls : Reader Operand) : Reader Condition := do
  let left ← comparable calls
  let op ← padded comparator
  let right ← comparable calls
  pure (.compare op left right)

/-- A condition that is negated if an exclamation mark stands before it. -/
def negatable (r : Reader Condition) : Reader Condition := do
  let negated ← option (mark '!')
  let _ ← blanks
  let part ← r
  pure (if negated.isSome then .not part else part)

/-- A condition in parentheses. -/
def parenthesized (condition : Reader Condition) : Reader Condition := do
  let _ ← mark '('
  let part ← padded condition
  let _ ← mark ')'
  pure part

def atom (condition : Reader Condition) (calls : Reader Operand) : Reader Condition :=
  negatable (parenthesized condition)
  <|> comparison calls
  <|> negatable (.test <$> (innerQuery condition <|> calls))

/-- Conditions with a sign between them. -/
def joined (sign : List Char) (one : Reader Condition) : Reader (List Condition) := do
  let first ← one
  let more ← many do
    let _ ← padded (word sign)
    one
  pure (first :: more)

/-- A condition; conditions nest at most `fuel` deep, and so do calls. -/
def condition (depth : Nat) : Nat → Reader Condition
  | 0 => failure
  | fuel + 1 =>
    let inner := condition depth fuel
    let conjunction := .all <$> joined ['&', '&'] (atom inner (call inner depth))
    .any <$> joined ['|', '|'] conjunction

/-- The segments of a whole query. -/
def ofText? (text : String) : Option (List Segment) :=
  let cs := text.toList
  let whole : Reader (List Segment) := do
    let _ ← mark '$'
    segments (condition cs.length cs.length)
  match whole.run cs with
  | some (found, []) => some found
  | _ => none

end Sluice.Query

import Sluice.Url.Basic
import Sluice.Url.Punycode

/-!
# Hosts of URLs

The host of a web scheme is a domain, written in ASCII, an IPv4 address (anything that ends in a
number) or an IPv6 address in brackets.  Other schemes have hosts of any characters that separate
nothing.
-/

namespace Sluice.Url

def digit (c : Char) : Nat :=
  if c.isDigit then c.toNat - '0'.toNat
  else if 'a' ≤ c.toLower ∧ c.toLower ≤ 'f' then c.toLower.toNat - 'a'.toNat + 10
  else 16

def numeral? (radix : Nat) (cs : List Char) : Option Nat :=
  cs.foldlM (fun n c => if digit c < radix then some (n * radix + digit c) else none) 0

/-- A number of an IPv4 address: decimal, octal after `0`, or hexadecimal after `0x`. -/
def ipv4Number? : List Char → Option Nat
  | '0' :: 'x' :: rest | '0' :: 'X' :: rest => numeral? 16 rest
  | '0' :: d :: rest => numeral? 8 (d :: rest)
  | cs => numeral? 10 cs

/-- The parts of a domain between dots, without an empty last one. -/
def labels (cs : List Char) : List (List Char) :=
  let parts := Text.splitAt '.' cs
  if 1 < parts.length ∧ parts.getLast? = some [] then parts.dropLast else parts

/-- Whether a domain ends in a number. -/
def endsInNumber (cs : List Char) : Bool :=
  match (labels cs).getLast? with
  | none | some [] => false
  | some last =>
    last.all Char.isDigit ∨ (2 ≤ last.length ∧ last.contains 'x' ∧ (ipv4Number? last).isSome)

/-- The text of an IPv4 address of one to four numbers; the last one fills the bytes that are
left. -/
def ipv4? (cs : List Char) : Option String := do
  let numbers ← (labels cs).mapM fun part => if part.isEmpty then none else ipv4Number? part
  let last ← numbers.getLast?
  let front := numbers.dropLast
  let room := Nat.pow 256 (4 - front.length)
  if 3 < front.length ∨ front.any (255 < ·) ∨ room ≤ last then none
  else
    let value := front.foldl (fun n b => n * 256 + b) 0 * room + last
    let parts := [24, 16, 8, 0].map fun shift => value / Nat.pow 2 shift % 256
    return ".".intercalate (parts.map toString)

/-- One part of an IPv6 address. -/
def ipv6Part? (cs : List Char) : Option Nat :=
  if cs.isEmpty ∨ 4 < cs.length then none else numeral? 16 cs

/-- A byte of a dotted address inside an IPv6 address: decimal, without leading zeros. -/
def dottedByte? (cs : List Char) : Option Nat :=
  if cs.isEmpty ∨ (1 < cs.length ∧ cs.head? = some '0') then none
  else (numeral? 10 cs).filter (· < 256)

/-- The parts of one side of an IPv6 address; the last one may be a dotted address. -/
def ipv6Side? (mayDot : Bool) (cs : List Char) : Option (List Nat) :=
  if cs.isEmpty then some []
  else
    let parts := Text.splitAt ':' cs
    let last := parts.getLast?.getD []
    if mayDot ∧ last.contains '.' then
      match (Text.splitAt '.' last).mapM dottedByte? with
      | some [a, b, c, d] => (parts.dropLast.mapM ipv6Part?).map (· ++ [a * 256 + b, c * 256 + d])
      | _ => none
    else parts.mapM ipv6Part?

/-- What stands before and after the first `::`. -/
def gap? (before : List Char) : List Char → Option (List Char × List Char)
  | ':' :: ':' :: rest => some (before.reverse, rest)
  | c :: rest => gap? (c :: before) rest
  | [] => none

/-- The eight parts of an IPv6 address; `::` stands for the zeros that are missing. -/
def ipv6? (cs : List Char) : Option (List Nat) :=
  match gap? [] cs with
  | some (before, after) => do
    let left ← ipv6Side? false before
    let right ← ipv6Side? true after
    let n := left.length + right.length
    if n ≤ 7 then some (left ++ List.replicate (8 - n) 0 ++ right) else none
  | none => (ipv6Side? true cs).filter (·.length = 8)

/-- The longest run of at least two zeros, the first of the longest: its start and its length. -/
def longestZeros? (parts : List Nat) : Option (Nat × Nat) :=
  let runs := (List.range parts.length).map fun i => (i, ((parts.drop i).takeWhile (· = 0)).length)
  let best := runs.foldl (fun best run => if best.2 < run.2 then run else best) (0, 1)
  if 1 < best.2 then some best else none

/-- The text of parts of an IPv6 address. -/
def ipv6Parts (parts : List Nat) : String :=
  ":".intercalate (parts.map fun n => String.ofList (Nat.toDigits 16 n))

def ipv6Text (parts : List Nat) : String :=
  match longestZeros? parts with
  | some (start, length) =>
    "[" ++ ipv6Parts (parts.take start) ++ "::" ++ ipv6Parts (parts.drop (start + length)) ++ "]"
  | none => "[" ++ ipv6Parts parts ++ "]"

/-- The host in brackets. -/
def bracketed (cs : List Char) : Except Flaw String :=
  match cs.getLast?, ipv6? (cs.drop 1).dropLast with
  | some ']', some parts => .ok (ipv6Text parts)
  | _, _ => .error .badIpv6

def inHost (c : Char) : Bool :=
  ['\x00', '\t', '\n', '\r', ' ', '#', '/', ':', '<', '>', '?', '@', '[', '\\', ']', '^',
   '|'].contains c

def inDomain (c : Char) : Bool := inHost c ∨ isControl c ∨ c = '%' ∨ 128 ≤ c.toNat

/-- The host of a web scheme. -/
def webHost (cs : List Char) : Except Flaw String :=
  if cs.isEmpty then .error .emptyHost
  else if cs.head? = some '[' then bracketed cs
  else
    let text := Text.decode (Form.unescape (Text.encode (String.ofList cs)))
    let cs := asciiDomain text.toList
    if cs.any inDomain then .error .badDomain
    else if endsInNumber cs then ((ipv4? cs).map Except.ok).getD (.error .badIpv4)
    else .ok (String.ofList cs)

/-- The host of another scheme. -/
def otherHost (cs : List Char) : Except Flaw String :=
  if cs.head? = some '[' then bracketed cs
  else if cs.any inHost then .error .badHostChar
  else .ok (escape isControl cs)

end Sluice.Url

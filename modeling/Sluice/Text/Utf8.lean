/-!
# UTF-8

`decode` reads bytes as UTF-8 and replaces what is none by U+FFFD: each longest start of a character
that is not continued properly becomes one replacement, and so does each byte that starts none.
-/

namespace Sluice.Text

def encode (s : String) : List UInt8 := s.toUTF8.toList

def byteLength (cs : List Char) : Nat := cs.foldl (fun n c => n + c.utf8Size) 0

/-- What the first byte of a character says: its own bits, how many bytes follow, and in which range
the next one lies. -/
structure Lead where
  bits : Nat
  following : Nat
  low : Nat
  high : Nat

/-- The meaning of a first byte, if it can start a character of more than one byte. -/
def lead? (b : Nat) : Option Lead :=
  if 0xC2 ≤ b ∧ b ≤ 0xDF then some ⟨b - 0xC0, 1, 0x80, 0xBF⟩
  else if b = 0xE0 then some ⟨0, 2, 0xA0, 0xBF⟩
  else if b = 0xED then some ⟨0xD, 2, 0x80, 0x9F⟩
  else if 0xE1 ≤ b ∧ b ≤ 0xEF then some ⟨b - 0xE0, 2, 0x80, 0xBF⟩
  else if b = 0xF0 then some ⟨0, 3, 0x90, 0xBF⟩
  else if 0xF1 ≤ b ∧ b ≤ 0xF3 then some ⟨b - 0xF0, 3, 0x80, 0xBF⟩
  else if b = 0xF4 then some ⟨4, 3, 0x80, 0x8F⟩
  else none

/-- A character that has been started: its bits so far, the bytes it still needs, and the range of
the next one. -/
structure Started where
  bits : Nat
  needed : Nat
  low : Nat
  high : Nat

/-- A byte at the start of a character: maybe a character of its own, and a character it starts. -/
def decodeFirst (b : UInt8) : List Char × Option Started :=
  let n := b.toNat
  if n < 128 then ([Char.ofNat n], none)
  else match lead? n with
    | some l => ([], some ⟨l.bits, l.following, l.low, l.high⟩)
    | none => (['�'], none)

/-- Reads bytes behind a character that may have been started. -/
def decodeFrom : Option Started → List UInt8 → List Char
  | none, [] => []
  | some _, [] => ['�']
  | none, b :: rest =>
    let (cs, state) := decodeFirst b
    cs ++ decodeFrom state rest
  | some s, b :: rest =>
    let n := b.toNat
    if s.low ≤ n ∧ n ≤ s.high then
      let bits := s.bits * 64 + (n - 0x80)
      if s.needed ≤ 1 then Char.ofNat bits :: decodeFrom none rest
      else decodeFrom (some ⟨bits, s.needed - 1, 0x80, 0xBF⟩) rest
    else
      let (cs, state) := decodeFirst b
      '�' :: cs ++ decodeFrom state rest

/-- The text that bytes stand for, with U+FFFD for what is no UTF-8. -/
def decode (bytes : List UInt8) : String := String.ofList (decodeFrom none bytes)

/-- The text that bytes stand for, if they are UTF-8. -/
def decode? (bytes : List UInt8) : Option String := String.fromUTF8? ⟨bytes.toArray⟩

def hexByte (b : UInt8) : List Char := [Nat.digitChar (b.toNat / 16), Nat.digitChar (b.toNat % 16)]

def hex (bytes : List UInt8) : List Char := bytes.flatMap hexByte

end Sluice.Text

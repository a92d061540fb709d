/-!
# Message digests

SHA-1 and SHA-256, and keyed digests (HMAC) over either.  Both hash functions pad a message to
blocks of 64 bytes, read each block as 32-bit words, stretch it to a schedule, and fold the schedule
into a state.
-/

namespace Sluice.Digest

/-- A message with its padding: a one bit, zeros up to the last eight bytes of a block, and the
length in bits. -/
def padded (message : List UInt8) : List UInt8 :=
  let n := message.length
  let zeros := (119 - n % 64) % 64
  let bits := 8 * n
  message ++ 0x80 :: List.replicate zeros 0 ++
    (List.range 8).map fun i => UInt8.ofNat (bits / Nat.pow 256 (7 - i) % 256)

/-- The words of a text of bytes, the most significant byte first. -/
def wordsOf : List UInt8 → List UInt32
  | a :: b :: c :: d :: rest =>
    (a.toUInt32 <<< 24 ||| b.toUInt32 <<< 16 ||| c.toUInt32 <<< 8 ||| d.toUInt32) :: wordsOf rest
  | _ => []

def bytesOf (w : UInt32) : List UInt8 :=
  [(w >>> 24).toUInt8, (w >>> 16).toUInt8, (w >>> 8).toUInt8, w.toUInt8]

/-- Cuts a list into blocks of sixteen; a shorter rest is dropped. -/
def blocks (ws : List UInt32) : List (List UInt32) :=
  if ws.length < 16 then [] else ws.take 16 :: blocks (ws.drop 16)
termination_by ws.length
decreasing_by simp only [List.length_drop]; omega

def rotateLeft (x : UInt32) (n : UInt32) : UInt32 := (x <<< n) ||| (x >>> (32 - n))

def rotateRight (x : UInt32) (n : UInt32) : UInt32 := (x >>> n) ||| (x <<< (32 - n))

/-- Stretches a block: `next` makes each further word from those before it, the latest of which come
first. -/
def stretch (next : List UInt32 → UInt32) (block : List UInt32) (more : Nat) : List UInt32 :=
  ((List.range more).foldl (fun (ws : List UInt32) _ => next ws :: ws) block.reverse).reverse

/-- A word of the state or schedule; the lists here are long enough. -/
def word (ws : List UInt32) (i : Nat) : UInt32 := ws.getD i 0

namespace Sha1

def initial : List UInt32 := [0x67452301, 0xEFCDAB89, 0x98BADCFE, 0x10325476, 0xC3D2E1F0]

def schedule (block : List UInt32) : List UInt32 :=
  stretch (fun ws => rotateLeft (word ws 2 ^^^ word ws 7 ^^^ word ws 13 ^^^ word ws 15) 1) block 64

def round (state : List UInt32) (entry : UInt32 × Nat) : List UInt32 :=
  match state with
  | [a, b, c, d, e] =>
    let (w, i) := entry
    let (f, k) :=
      if i < 20 then ((b &&& c) ||| (~~~b &&& d), 0x5A827999)
      else if i < 40 then (b ^^^ c ^^^ d, 0x6ED9EBA1)
      else if i < 60 then ((b &&& c) ||| (b &&& d) ||| (c &&& d), 0x8F1BBCDC)
      else (b ^^^ c ^^^ d, 0xCA62C1D6)
    [rotateLeft a 5 + f + e + k + w, a, rotateLeft b 30, c, d]
  | other => other

def compress (state block : List UInt32) : List UInt32 :=
  List.zipWith (· + ·) state ((schedule block).zipIdx.foldl round state)

end Sha1

namespace Sha256

def initial : List UInt32 :=
  [0x6a09e667, 0xbb67ae85, 0x3c6ef372, 0xa54ff53a, 0x510e527f, 0x9b05688c, 0x1f83d9ab, 0x5be0cd19]

def constants : List UInt32 := [
  0x428a2f98, 0x71374491, 0xb5c0fbcf, 0xe9b5dba5, 0x3956c25b, 0x59f111f1, 0x923f82a4, 0xab1c5ed5,
  0xd807aa98, 0x12835b01, 0x243185be, 0x550c7dc3, 0x72be5d74, 0x80deb1fe, 0x9bdc06a7, 0xc19bf174,
  0xe49b69c1, 0xefbe4786, 0x0fc19dc6, 0x240ca1cc, 0x2de92c6f, 0x4a7484aa, 0x5cb0a9dc, 0x76f988da,
  0x983e5152, 0xa831c66d, 0xb00327c8, 0xbf597fc7, 0xc6e00bf3, 0xd5a79147, 0x06ca6351, 0x14292967,
  0x27b70a85, 0x2e1b2138, 0x4d2c6dfc, 0x53380d13, 0x650a7354, 0x766a0abb, 0x81c2c92e, 0x92722c85,
  0xa2bfe8a1, 0xa81a664b, 0xc24b8b70, 0xc76c51a3, 0xd192e819, 0xd6990624, 0xf40e3585, 0x106aa070,
  0x19a4c116, 0x1e376c08, 0x2748774c, 0x34b0bcb5, 0x391c0cb3, 0x4ed8aa4a, 0x5b9cca4f, 0x682e6ff3,
  0x748f82ee, 0x78a5636f, 0x84c87814, 0x8cc70208, 0x90befffa, 0xa4506ceb, 0xbef9a3f7, 0xc67178f2]

def schedule (block : List UInt32) : List UInt32 :=
  stretch (fun ws =>
    let x := word ws 14
    let y := word ws 1
    let s0 := rotateRight x 7 ^^^ rotateRight x 18 ^^^ (x >>> 3)
    let s1 := rotateRight y 17 ^^^ rotateRight y 19 ^^^ (y >>> 10)
    word ws 15 + s0 + word ws 6 + s1) block 48

def round (state : List UInt32) (entry : UInt32 × UInt32) : List UInt32 :=
  match state with
  | [a, b, c, d, e, f, g, h] =>
    let (w, k) := entry
    let s1 := rotateRight e 6 ^^^ rotateRight e 11 ^^^ rotateRight e 25
    let choice := (e &&& f) ^^^ (~~~e &&& g)
    let t1 := h + s1 + choice + k + w
    let s0 := rotateRight a 2 ^^^ rotateRight a 13 ^^^ rotateRight a 22
    let majority := (a &&& b) ^^^ (a &&& c) ^^^ (b &&& c)
    [t1 + s0 + majority, a, b, c, d + t1, e, f, g]
  | other => other

def compress (state block : List UInt32) : List UInt32 :=
  List.zipWith (· + ·) state (((schedule block).zip constants).foldl round state)

end Sha256

/-- The SHA-1 digest of a message, 20 bytes. -/
def sha1 (message : List UInt8) : List UInt8 :=
  ((blocks (wordsOf (padded message))).foldl Sha1.compress Sha1.initial).flatMap bytesOf

/-- The SHA-256 digest of a message, 32 bytes. -/
def sha256 (message : List UInt8) : List UInt8 :=
  ((blocks (wordsOf (padded message))).foldl Sha256.compress Sha256.initial).flatMap bytesOf

/-- The keyed digest of a message: a key longer than a block is hashed first, a shorter one filled
up with zeros. -/
def hmac (hash : List UInt8 → List UInt8) (key message : List UInt8) : List UInt8 :=
  let short := if 64 < key.length then hash key else key
  let block := short ++ List.replicate (64 - short.length) 0
  hash (block.map (· ^^^ 0x5c) ++ hash (block.map (· ^^^ 0x36) ++ message))

end Sluice.Digest

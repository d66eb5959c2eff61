/-
AwsSigning/Digest/Sha256.lean

The SHA-256 digest.

A message is padded with one bit, zeros and its length to whole blocks of 64
bytes.  Each block is spread into a schedule of 64 words, and 64 rounds stir
those words into eight registers, which are added to the running state.

A digest can be taken of a message that arrives in chunks (`Hasher`).  Only
the concatenation of the chunks counts, so the hasher keeps just that.
-/
import AwsSigning.Digest.Hex

namespace AwsSigning.Sha256

/-! ### Words -/

/-- Rotation of a word to the right. -/
def rotate (w : UInt32) (n : UInt32) : UInt32 := (w >>> n) ||| (w <<< (32 - n))

/-- The word spelled by four bytes, most significant first. -/
def wordOf (a b c d : UInt8) : UInt32 :=
  (a.toUInt32 <<< 24) ||| (b.toUInt32 <<< 16) ||| (c.toUInt32 <<< 8) ||| d.toUInt32

/-- The four bytes of a word, most significant first. -/
def wordBytes (w : UInt32) : Bytes :=
  [(w >>> 24).toUInt8, (w >>> 16).toUInt8, (w >>> 8).toUInt8, w.toUInt8]

/-- The words spelled by bytes, four at a time. -/
def wordsOf : Bytes → List UInt32
  | a :: b :: c :: d :: rest => wordOf a b c d :: wordsOf rest
  | _ => []

/-! ### Constants -/

/-- One word for each round. -/
def roundWords : List UInt32 :=
  [0x428a2f98, 0x71374491, 0xb5c0fbcf, 0xe9b5dba5, 0x3956c25b, 0x59f111f1, 0x923f82a4, 0xab1c5ed5,
   0xd807aa98, 0x12835b01, 0x243185be, 0x550c7dc3, 0x72be5d74, 0x80deb1fe, 0x9bdc06a7, 0xc19bf174,
   0xe49b69c1, 0xefbe4786, 0x0fc19dc6, 0x240ca1cc, 0x2de92c6f, 0x4a7484aa, 0x5cb0a9dc, 0x76f988da,
   0x983e5152, 0xa831c66d, 0xb00327c8, 0xbf597fc7, 0xc6e00bf3, 0xd5a79147, 0x06ca6351, 0x14292967,
   0x27b70a85, 0x2e1b2138, 0x4d2c6dfc, 0x53380d13, 0x650a7354, 0x766a0abb, 0x81c2c92e, 0x92722c85,
   0xa2bfe8a1, 0xa81a664b, 0xc24b8b70, 0xc76c51a3, 0xd192e819, 0xd6990624, 0xf40e3585, 0x106aa070,
   0x19a4c116, 0x1e376c08, 0x2748774c, 0x34b0bcb5, 0x391c0cb3, 0x4ed8aa4a, 0x5b9cca4f, 0x682e6ff3,
   0x748f82ee, 0x78a5636f, 0x84c87814, 0x8cc70208, 0x90befffa, 0xa4506ceb, 0xbef9a3f7, 0xc67178f2]

/-- The eight registers. -/
structure Registers where
  a : UInt32
  b : UInt32
  c : UInt32
  d : UInt32
  e : UInt32
  f : UInt32
  g : UInt32
  h : UInt32
deriving DecidableEq, Repr

/-- The registers before the first block. -/
def initial : Registers :=
  ⟨0x6a09e667, 0xbb67ae85, 0x3c6ef372, 0xa54ff53a, 0x510e527f, 0x9b05688c, 0x1f83d9ab, 0x5be0cd19⟩

/-! ### One block -/

/-- The schedule grown by `n` words; its latest word comes first. -/
def grow : Nat → List UInt32 → List UInt32
  | 0, schedule => schedule
  | n + 1, schedule =>
    let w2 := schedule.getD 1 0
    let w15 := schedule.getD 14 0
    let s0 := rotate w15 7 ^^^ rotate w15 18 ^^^ (w15 >>> 3)
    let s1 := rotate w2 17 ^^^ rotate w2 19 ^^^ (w2 >>> 10)
    grow n ((schedule.getD 15 0 + s0 + schedule.getD 6 0 + s1) :: schedule)

/-- The 64 words of a block. -/
def schedule (block : Bytes) : List UInt32 := (grow 48 (wordsOf block).reverse).reverse

/-- One round, with the sum of its constant and its schedule word. -/
def round (r : Registers) (k : UInt32) : Registers :=
  let s1 := rotate r.e 6 ^^^ rotate r.e 11 ^^^ rotate r.e 25
  let choice := (r.e &&& r.f) ^^^ ((~~~ r.e) &&& r.g)
  let t1 := r.h + s1 + choice + k
  let s0 := rotate r.a 2 ^^^ rotate r.a 13 ^^^ rotate r.a 22
  let majority := (r.a &&& r.b) ^^^ (r.a &&& r.c) ^^^ (r.b &&& r.c)
  ⟨t1 + (s0 + majority), r.a, r.b, r.c, r.d + t1, r.e, r.f, r.g⟩

/-- Registers added word by word. -/
def Registers.plus (r s : Registers) : Registers :=
  ⟨r.a + s.a, r.b + s.b, r.c + s.c, r.d + s.d, r.e + s.e, r.f + s.f, r.g + s.g, r.h + s.h⟩

/-- The registers after one block. -/
def compress (state : Registers) (block : Bytes) : Registers :=
  state.plus ((List.zipWith (· + ·) roundWords (schedule block)).foldl round state)

/-! ### Whole messages -/

/-- A message padded to whole blocks. -/
def pad (message : Bytes) : Bytes :=
  let bits := message.length * 8
  message ++ 0x80 :: List.replicate ((119 - message.length % 64) % 64) 0
    ++ wordBytes (bits / 0x100000000).toUInt32 ++ wordBytes bits.toUInt32

/-- The first `n` blocks of 64 bytes. -/
def blocks : Nat → Bytes → List Bytes
  | 0, _ => []
  | n + 1, bytes => bytes.take 64 :: blocks n (bytes.drop 64)

/-- The 32 bytes held by the registers. -/
def Registers.bytes (r : Registers) : Bytes :=
  [r.a, r.b, r.c, r.d, r.e, r.f, r.g, r.h].flatMap wordBytes

/-- The digest of a message. -/
def digest (message : Bytes) : Bytes :=
  let padded := pad message
  ((blocks (padded.length / 64) padded).foldl compress initial).bytes

/-- The digest of a message in hexadecimal. -/
def hexDigest (message : Bytes) : String := Hex.encode (digest message)

/-- The digest of the empty message in hexadecimal. -/
def hexDigestOfEmpty : String :=
  "e3b0c44298fc1c149afbf4c8996fb92427ae41e4649b934ca495991b7852b855"

/-! ### Messages in chunks -/

/-- A digest under way. -/
structure Hasher where
  /-- What has been read so far. -/
  message : Bytes := []
deriving DecidableEq, Repr

namespace Hasher

/-- One more chunk. -/
def update (h : Hasher) (chunk : Bytes) : Hasher := ⟨h.message ++ chunk⟩

/-- The digest of all chunks, in hexadecimal. -/
def finish (h : Hasher) : String := hexDigest h.message

end Hasher

end AwsSigning.Sha256

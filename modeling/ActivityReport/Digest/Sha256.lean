/-!
# SHA-256

The 256-bit digest of a byte sequence. The message is padded to whole blocks of sixteen words; each
block stretches to sixty-four words (`schedule`) and is mixed into eight chaining words (`mix`).
The digest is written as sixty-four hexadecimal digits.
-/

namespace ActivityReport.Digest.Sha256

/-- The round constants: the fractions of the cube roots of the first sixty-four primes. -/
def roundConstants : List UInt32 :=
  [0x428a2f98, 0x71374491, 0xb5c0fbcf, 0xe9b5dba5, 0x3956c25b, 0x59f111f1, 0x923f82a4, 0xab1c5ed5,
   0xd807aa98, 0x12835b01, 0x243185be, 0x550c7dc3, 0x72be5d74, 0x80deb1fe, 0x9bdc06a7, 0xc19bf174,
   0xe49b69c1, 0xefbe4786, 0x0fc19dc6, 0x240ca1cc, 0x2de92c6f, 0x4a7484aa, 0x5cb0a9dc, 0x76f988da,
   0x983e5152, 0xa831c66d, 0xb00327c8, 0xbf597fc7, 0xc6e00bf3, 0xd5a79147, 0x06ca6351, 0x14292967,
   0x27b70a85, 0x2e1b2138, 0x4d2c6dfc, 0x53380d13, 0x650a7354, 0x766a0abb, 0x81c2c92e, 0x92722c85,
   0xa2bfe8a1, 0xa81a664b, 0xc24b8b70, 0xc76c51a3, 0xd192e819, 0xd6990624, 0xf40e3585, 0x106aa070,
   0x19a4c116, 0x1e376c08, 0x2748774c, 0x34b0bcb5, 0x391c0cb3, 0x4ed8aa4a, 0x5b9cca4f, 0x682e6ff3,
   0x748f82ee, 0x78a5636f, 0x84c87814, 0x8cc70208, 0x90befffa, 0xa4506ceb, 0xbef9a3f7, 0xc67178f2]

/-- The eight chaining words. -/
structure Chain where
  a : UInt32
  b : UInt32
  c : UInt32
  d : UInt32
  e : UInt32
  f : UInt32
  g : UInt32
  h : UInt32
  deriving Repr, DecidableEq

/-- The chaining words before the first block. -/
def Chain.start : Chain :=
  ⟨0x6a09e667, 0xbb67ae85, 0x3c6ef372, 0xa54ff53a, 0x510e527f, 0x9b05688c, 0x1f83d9ab, 0x5be0cd19⟩

/-- Word-wise addition of chaining words. -/
def Chain.add (x y : Chain) : Chain :=
  ⟨x.a + y.a, x.b + y.b, x.c + y.c, x.d + y.d, x.e + y.e, x.f + y.f, x.g + y.g, x.h + y.h⟩

/-- The chaining words in order. -/
def Chain.toList (x : Chain) : List UInt32 := [x.a, x.b, x.c, x.d, x.e, x.f, x.g, x.h]

/-- Rotation of a word to the right. -/
def rotate (x n : UInt32) : UInt32 := (x >>> n) ||| (x <<< (32 - n))

/-- The word that follows sixteen consecutive words of a schedule. -/
def nextWord (window : List UInt32) : UInt32 :=
  let w1 := window.getD 1 0
  let w14 := window.getD 14 0
  let s0 := rotate w1 7 ^^^ rotate w1 18 ^^^ (w1 >>> 3)
  let s1 := rotate w14 17 ^^^ rotate w14 19 ^^^ (w14 >>> 10)
  window.getD 0 0 + s0 + window.getD 9 0 + s1

/-- The first `n` words that a block of sixteen words stretches to. -/
def schedule : Nat → List UInt32 → List UInt32
  | 0, _ => []
  | n + 1, window => window.getD 0 0 :: schedule n (window.drop 1 ++ [nextWord window])

/-- One round: the chaining words after mixing in a constant and a scheduled word. -/
def mix (x : Chain) (kw : UInt32 × UInt32) : Chain :=
  let s1 := rotate x.e 6 ^^^ rotate x.e 11 ^^^ rotate x.e 25
  let choice := (x.e &&& x.f) ^^^ (~~~ x.e &&& x.g)
  let t1 := x.h + s1 + choice + kw.1 + kw.2
  let s0 := rotate x.a 2 ^^^ rotate x.a 13 ^^^ rotate x.a 22
  let majority := (x.a &&& x.b) ^^^ (x.a &&& x.c) ^^^ (x.b &&& x.c)
  ⟨t1 + (s0 + majority), x.a, x.b, x.c, x.d + t1, x.e, x.f, x.g⟩

/-- The chaining words after one block. -/
def compress (x : Chain) (block : List UInt32) : Chain :=
  x.add ((roundConstants.zip (schedule 64 block)).foldl mix x)

/-- A number as `n` bytes, most significant first. -/
def bigEndian : Nat → Nat → List UInt8
  | 0, _ => []
  | n + 1, v => UInt8.ofNat (v >>> (8 * n)) :: bigEndian n v

/-- The message with the closing bit, zeros and its length in bits: whole blocks of 64 bytes. -/
def pad (message : List UInt8) : List UInt8 :=
  let size := message.length
  message ++ 0x80 :: List.replicate ((119 - size % 64) % 64) 0 ++ bigEndian 8 (8 * size)

/-- Bytes grouped into words of four, most significant first. -/
def words : List UInt8 → List UInt32
  | b0 :: b1 :: b2 :: b3 :: rest =>
    UInt32.ofNat (((b0.toNat * 256 + b1.toNat) * 256 + b2.toNat) * 256 + b3.toNat) :: words rest
  | _ => []

/-- Mixes `n` blocks of sixteen words in turn. -/
def absorb : Nat → Chain → List UInt32 → Chain
  | 0, x, _ => x
  | n + 1, x, ws => absorb n (compress x (ws.take 16)) (ws.drop 16)

/-- The digest of a byte sequence, as eight words. -/
def digest (message : List UInt8) : List UInt32 :=
  let ws := words (pad message)
  (absorb (ws.length / 16) Chain.start ws).toList

/-- A word as eight lower-case hexadecimal digits. -/
def hexWord (w : UInt32) : List Char :=
  (List.range 8).map fun i => Nat.digitChar ((w.toNat >>> (4 * (7 - i))) % 16)

/-- The digest of the UTF-8 bytes of a text, as sixty-four hexadecimal digits. -/
def hexDigest (s : String) : List Char :=
  (digest s.toUTF8.toList).flatMap hexWord

/-- Padding fills whole blocks. -/
theorem length_pad (message : List UInt8) : (pad message).length % 64 = 0 := by
  simp [pad, bigEndian]
  omega

/-- A digest has eight words. -/
theorem length_digest (message : List UInt8) : (digest message).length = 8 := rfl

/-- A written digest has sixty-four digits. -/
theorem length_hexDigest (s : String) : (hexDigest s).length = 64 := by
  have eight : ∀ w : UInt32, (hexWord w).length = 8 := fun w => by simp [hexWord]
  simp [hexDigest, digest, Chain.toList, eight]

end ActivityReport.Digest.Sha256

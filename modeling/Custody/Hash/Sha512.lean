import Custody.Hash.Padding

/-!
# SHA-512 and its shortened forms

The hash function of FIPS 180-4 on 64-bit words, with a 64-byte result; SHA-384 and SHA-512/256
start from other chaining values and keep the first 48 and 32 bytes.
-/

namespace Custody.Hash.Sha512

/-- The chaining value: eight words. -/
structure State where
  /-- First word. -/
  a : UInt64
  /-- Second word. -/
  b : UInt64
  /-- Third word. -/
  c : UInt64
  /-- Fourth word. -/
  d : UInt64
  /-- Fifth word. -/
  e : UInt64
  /-- Sixth word. -/
  f : UInt64
  /-- Seventh word. -/
  g : UInt64
  /-- Eighth word. -/
  h : UInt64

/-- The chaining value before the first block. -/
def initial : State :=
  ⟨0x6a09e667f3bcc908, 0xbb67ae8584caa73b, 0x3c6ef372fe94f82b, 0xa54ff53a5f1d36f1,
    0x510e527fade682d1, 0x9b05688c2b3e6c1f, 0x1f83d9abfb41bd6b, 0x5be0cd19137e2179⟩

/-- The chaining value before the first block of SHA-384. -/
def initial384 : State :=
  ⟨0xcbbb9d5dc1059ed8, 0x629a292a367cd507, 0x9159015a3070dd17, 0x152fecd8f70e5939,
    0x67332667ffc00b31, 0x8eb44a8768581511, 0xdb0c2e0d64f98fa7, 0x47b5481dbefa4fa4⟩

/-- The chaining value before the first block of SHA-512/256. -/
def initial512Trunc256 : State :=
  ⟨0x22312194fc2bf72c, 0x9f555fa3c84c64c2, 0x2393b86b6f53b151, 0x963877195940eabd,
    0x96283ee2a88effe3, 0xbe5e1e2553863992, 0x2b0199fc2c85b8aa, 0x0eb72ddc81c52ca2⟩

/-- One constant a round: the leading fractional bits of the cube roots of the first 80 primes. -/
def roundConstants : Array UInt64 := #[
  0x428a2f98d728ae22, 0x7137449123ef65cd, 0xb5c0fbcfec4d3b2f, 0xe9b5dba58189dbbc,
  0x3956c25bf348b538, 0x59f111f1b605d019, 0x923f82a4af194f9b, 0xab1c5ed5da6d8118,
  0xd807aa98a3030242, 0x12835b0145706fbe, 0x243185be4ee4b28c, 0x550c7dc3d5ffb4e2,
  0x72be5d74f27b896f, 0x80deb1fe3b1696b1, 0x9bdc06a725c71235, 0xc19bf174cf692694,
  0xe49b69c19ef14ad2, 0xefbe4786384f25e3, 0x0fc19dc68b8cd5b5, 0x240ca1cc77ac9c65,
  0x2de92c6f592b0275, 0x4a7484aa6ea6e483, 0x5cb0a9dcbd41fbd4, 0x76f988da831153b5,
  0x983e5152ee66dfab, 0xa831c66d2db43210, 0xb00327c898fb213f, 0xbf597fc7beef0ee4,
  0xc6e00bf33da88fc2, 0xd5a79147930aa725, 0x06ca6351e003826f, 0x142929670a0e6e70,
  0x27b70a8546d22ffc, 0x2e1b21385c26c926, 0x4d2c6dfc5ac42aed, 0x53380d139d95b3df,
  0x650a73548baf63de, 0x766a0abb3c77b2a8, 0x81c2c92e47edaee6, 0x92722c851482353b,
  0xa2bfe8a14cf10364, 0xa81a664bbc423001, 0xc24b8b70d0f89791, 0xc76c51a30654be30,
  0xd192e819d6ef5218, 0xd69906245565a910, 0xf40e35855771202a, 0x106aa07032bbd1b8,
  0x19a4c116b8d2d0c8, 0x1e376c085141ab53, 0x2748774cdf8eeb99, 0x34b0bcb5e19b48a8,
  0x391c0cb3c5c95a63, 0x4ed8aa4ae3418acb, 0x5b9cca4f7763e373, 0x682e6ff3d6b2b8a3,
  0x748f82ee5defb2fc, 0x78a5636f43172f60, 0x84c87814a1f0ab72, 0x8cc702081a6439ec,
  0x90befffa23631e28, 0xa4506cebde82bde9, 0xbef9a3f7b2c67915, 0xc67178f2e372532b,
  0xca273eceea26619c, 0xd186b8c721c0c207, 0xeada7dd6cde0eb1e, 0xf57d4f7fee6ed178,
  0x06f067aa72176fba, 0x0a637dc5a2c898a6, 0x113f9804bef90dae, 0x1b710b35131c471b,
  0x28db77f523047d84, 0x32caab7b40c72493, 0x3c9ebe0a15c9bebc, 0x431d67c49c100d4c,
  0x4cc5d4becb3e42b6, 0x597f299cfc657e2a, 0x5fcb6fab3ad6faec, 0x6c44198c4a475817]

/-- The 80 words that one block of 128 bytes feeds to the rounds. -/
def schedule (block : Bytes) : Array UInt64 :=
  (List.range 64).foldl
    (fun w t =>
      let x := w.getD (t + 1) 0
      let y := w.getD (t + 14) 0
      w.push (w.getD t 0 + (rotateRight64 x 1 ^^^ rotateRight64 x 8 ^^^ (x >>> 7)) +
        w.getD (t + 9) 0 + (rotateRight64 y 19 ^^^ rotateRight64 y 61 ^^^ (y >>> 6))))
    ((Bytes.chunks 8 block).map word64BE).toArray

/-- One round. -/
def round (w : Array UInt64) (s : State) (t : Nat) : State :=
  let t1 := s.h + (rotateRight64 s.e 14 ^^^ rotateRight64 s.e 18 ^^^ rotateRight64 s.e 41) +
    ((s.e &&& s.f) ^^^ (~~~s.e &&& s.g)) + roundConstants.getD t 0 + w.getD t 0
  let t2 := (rotateRight64 s.a 28 ^^^ rotateRight64 s.a 34 ^^^ rotateRight64 s.a 39) +
    ((s.a &&& s.b) ^^^ (s.a &&& s.c) ^^^ (s.b &&& s.c))
  ⟨t1 + t2, s.a, s.b, s.c, s.d + t1, s.e, s.f, s.g⟩

/-- The chaining value after one more block. -/
def compress (s : State) (block : Bytes) : State :=
  let w := schedule block
  let r := (List.range 80).foldl (round w) s
  ⟨s.a + r.a, s.b + r.b, s.c + r.c, s.d + r.d, s.e + r.e, s.f + r.f, s.g + r.g, s.h + r.h⟩

/-- The bytes of a chaining value, most significant first. -/
def State.toBytes (s : State) : Bytes :=
  bytes64BE s.a ++ bytes64BE s.b ++ bytes64BE s.c ++ bytes64BE s.d ++
    bytes64BE s.e ++ bytes64BE s.f ++ bytes64BE s.g ++ bytes64BE s.h

@[simp] theorem length_toBytes (s : State) : s.toBytes.length = 64 := by simp [State.toBytes]

/-- The bytes of the last chaining value of a message. -/
def hashFrom (start : State) (message : Bytes) : Bytes :=
  ((Bytes.chunks 128 (padded 128 16 message)).foldl compress start).toBytes

/-- The SHA-512 digest of a message. -/
def hash (message : Bytes) : Bytes := hashFrom initial message

/-- The SHA-384 digest of a message. -/
def hash384 (message : Bytes) : Bytes := (hashFrom initial384 message).take 48

/-- The SHA-512/256 digest of a message. -/
def hash512Trunc256 (message : Bytes) : Bytes := (hashFrom initial512Trunc256 message).take 32

@[simp] theorem length_hash (message : Bytes) : (hash message).length = 64 := by
  simp [hash, hashFrom]

@[simp] theorem length_hash384 (message : Bytes) : (hash384 message).length = 48 := by
  simp [hash384, hashFrom]

@[simp] theorem length_hash512Trunc256 (message : Bytes) :
    (hash512Trunc256 message).length = 32 := by
  simp [hash512Trunc256, hashFrom]

end Custody.Hash.Sha512

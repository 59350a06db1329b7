import Custody.Hash.Padding

/-!
# SHA-256

The hash function of FIPS 180-4 on 32-bit words, with a 32-byte result.
-/

namespace Custody.Hash.Sha256

/-- The chaining value: eight words. -/
structure State where
  /-- First word. -/
  a : UInt32
  /-- Second word. -/
  b : UInt32
  /-- Third word. -/
  c : UInt32
  /-- Fourth word. -/
  d : UInt32
  /-- Fifth word. -/
  e : UInt32
  /-- Sixth word. -/
  f : UInt32
  /-- Seventh word. -/
  g : UInt32
  /-- Eighth word. -/
  h : UInt32

/-- The chaining value before the first block. -/
def initial : State :=
  ⟨0x6a09e667, 0xbb67ae85, 0x3c6ef372, 0xa54ff53a, 0x510e527f,
    0x9b05688c, 0x1f83d9ab, 0x5be0cd19⟩

/-- One constant a round: the leading fractional bits of the cube roots of the first 64 primes. -/
def roundConstants : Array UInt32 := #[
  0x428a2f98, 0x71374491, 0xb5c0fbcf, 0xe9b5dba5, 0x3956c25b, 0x59f111f1, 0x923f82a4, 0xab1c5ed5,
  0xd807aa98, 0x12835b01, 0x243185be, 0x550c7dc3, 0x72be5d74, 0x80deb1fe, 0x9bdc06a7, 0xc19bf174,
  0xe49b69c1, 0xefbe4786, 0x0fc19dc6, 0x240ca1cc, 0x2de92c6f, 0x4a7484aa, 0x5cb0a9dc, 0x76f988da,
  0x983e5152, 0xa831c66d, 0xb00327c8, 0xbf597fc7, 0xc6e00bf3, 0xd5a79147, 0x06ca6351, 0x14292967,
  0x27b70a85, 0x2e1b2138, 0x4d2c6dfc, 0x53380d13, 0x650a7354, 0x766a0abb, 0x81c2c92e, 0x92722c85,
  0xa2bfe8a1, 0xa81a664b, 0xc24b8b70, 0xc76c51a3, 0xd192e819, 0xd6990624, 0xf40e3585, 0x106aa070,
  0x19a4c116, 0x1e376c08, 0x2748774c, 0x34b0bcb5, 0x391c0cb3, 0x4ed8aa4a, 0x5b9cca4f, 0x682e6ff3,
  0x748f82ee, 0x78a5636f, 0x84c87814, 0x8cc70208, 0x90befffa, 0xa4506ceb, 0xbef9a3f7, 0xc67178f2]

/-- The 64 words that one block of 64 bytes feeds to the rounds. -/
def schedule (block : Bytes) : Array UInt32 :=
  (List.range 48).foldl
    (fun w t =>
      let x := w.getD (t + 1) 0
      let y := w.getD (t + 14) 0
      w.push (w.getD t 0 + (rotateRight32 x 7 ^^^ rotateRight32 x 18 ^^^ (x >>> 3)) +
        w.getD (t + 9) 0 + (rotateRight32 y 17 ^^^ rotateRight32 y 19 ^^^ (y >>> 10))))
    ((Bytes.chunks 4 block).map word32BE).toArray

/-- One round. -/
def round (w : Array UInt32) (s : State) (t : Nat) : State :=
  let t1 := s.h + (rotateRight32 s.e 6 ^^^ rotateRight32 s.e 11 ^^^ rotateRight32 s.e 25) +
    ((s.e &&& s.f) ^^^ (~~~s.e &&& s.g)) + roundConstants.getD t 0 + w.getD t 0
  let t2 := (rotateRight32 s.a 2 ^^^ rotateRight32 s.a 13 ^^^ rotateRight32 s.a 22) +
    ((s.a &&& s.b) ^^^ (s.a &&& s.c) ^^^ (s.b &&& s.c))
  ⟨t1 + t2, s.a, s.b, s.c, s.d + t1, s.e, s.f, s.g⟩

/-- The chaining value after one more block. -/
def compress (s : State) (block : Bytes) : State :=
  let w := schedule block
  let r := (List.range 64).foldl (round w) s
  ⟨s.a + r.a, s.b + r.b, s.c + r.c, s.d + r.d, s.e + r.e, s.f + r.f, s.g + r.g, s.h + r.h⟩

/-- The bytes of a chaining value, most significant first. -/
def State.toBytes (s : State) : Bytes :=
  bytes32BE s.a ++ bytes32BE s.b ++ bytes32BE s.c ++ bytes32BE s.d ++
    bytes32BE s.e ++ bytes32BE s.f ++ bytes32BE s.g ++ bytes32BE s.h

@[simp] theorem length_toBytes (s : State) : s.toBytes.length = 32 := by simp [State.toBytes]

/-- The SHA-256 digest of a message. -/
def hash (message : Bytes) : Bytes :=
  ((Bytes.chunks 64 (padded 64 8 message)).foldl compress initial).toBytes

@[simp] theorem length_hash (message : Bytes) : (hash message).length = 32 := by simp [hash]

end Custody.Hash.Sha256

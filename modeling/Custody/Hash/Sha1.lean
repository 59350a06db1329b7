import Custody.Hash.Padding

/-!
# SHA-1

The hash function of FIPS 180-4 with a 20-byte result, kept for old data.
-/

namespace Custody.Hash.Sha1

/-- The chaining value: five words. -/
structure State where
  /-- First word. -/
  a : UInt32
  /-- Second word. -/
  b : UInt32
  /-- Third word. -/
  c : UInt32
  /-- Fourth word. -/
  d : UInt32
  /-- Fifth word. -/
  e : UInt32

/-- The chaining value before the first block. -/
def initial : State :=
  ⟨0x67452301, 0xefcdab89, 0x98badcfe, 0x10325476, 0xc3d2e1f0⟩

/-- The 80 words that one block of 64 bytes feeds to the rounds. -/
def schedule (block : Bytes) : Array UInt32 :=
  (List.range 64).foldl
    (fun w t =>
      w.push (rotateLeft32
        (w.getD (t + 13) 0 ^^^ w.getD (t + 8) 0 ^^^ w.getD (t + 2) 0 ^^^ w.getD t 0) 1))
    ((Bytes.chunks 4 block).map word32BE).toArray

/-- One round: the round function changes every 20 rounds. -/
def round (w : Array UInt32) (s : State) (t : Nat) : State :=
  let (f, k) : UInt32 × UInt32 :=
    if t < 20 then ((s.b &&& s.c) ||| (~~~s.b &&& s.d), 0x5a827999)
    else if t < 40 then (s.b ^^^ s.c ^^^ s.d, 0x6ed9eba1)
    else if t < 60 then ((s.b &&& s.c) ||| (s.b &&& s.d) ||| (s.c &&& s.d), 0x8f1bbcdc)
    else (s.b ^^^ s.c ^^^ s.d, 0xca62c1d6)
  ⟨rotateLeft32 s.a 5 + f + s.e + k + w.getD t 0, s.a, rotateLeft32 s.b 30, s.c, s.d⟩

/-- The chaining value after one more block. -/
def compress (s : State) (block : Bytes) : State :=
  let w := schedule block
  let r := (List.range 80).foldl (round w) s
  ⟨s.a + r.a, s.b + r.b, s.c + r.c, s.d + r.d, s.e + r.e⟩

/-- The SHA-1 digest of a message. -/
def hash (message : Bytes) : Bytes :=
  let s := (Bytes.chunks 64 (padded 64 8 message)).foldl compress initial
  bytes32BE s.a ++ bytes32BE s.b ++ bytes32BE s.c ++ bytes32BE s.d ++ bytes32BE s.e

@[simp] theorem length_hash (message : Bytes) : (hash message).length = 20 := by simp [hash]

end Custody.Hash.Sha1

import Custody.Bytes

/-!
# Words

Machine words as bytes, in both byte orders, and turned by some bits.
-/

namespace Custody.Hash

/-- The word whose bytes, most significant first, are given. -/
def word32BE (bytes : Bytes) : UInt32 :=
  bytes.foldl (fun word b => (word <<< 8) ||| b.toUInt32) 0

/-- The word whose bytes, most significant first, are given. -/
def word64BE (bytes : Bytes) : UInt64 :=
  bytes.foldl (fun word b => (word <<< 8) ||| b.toUInt64) 0

/-- The four bytes of a word, most significant first. -/
def bytes32BE (word : UInt32) : Bytes :=
  [(word >>> 24).toUInt8, (word >>> 16).toUInt8, (word >>> 8).toUInt8, word.toUInt8]

/-- The eight bytes of a word, most significant first. -/
def bytes64BE (word : UInt64) : Bytes :=
  bytes32BE (word >>> 32).toUInt32 ++ bytes32BE word.toUInt32

/-- The word whose bytes, least significant first, are given; missing ones are zero. -/
def word32LE (bytes : Bytes) : UInt32 :=
  bytes.foldr (fun b word => (word <<< 8) ||| b.toUInt32) 0

/-- The four bytes of a word, least significant first. -/
def bytes32LE (word : UInt32) : Bytes :=
  [word.toUInt8, (word >>> 8).toUInt8, (word >>> 16).toUInt8, (word >>> 24).toUInt8]

/-- The sixteen words of at most 64 bytes, least significant byte first, filled up with zeros. -/
def words16LE (bytes : Bytes) : Vector UInt32 16 :=
  let words := ((Bytes.chunks 4 bytes).map word32LE).toArray
  Vector.ofFn fun i : Fin 16 => words.getD i 0

/-- A word turned left by `n` bits, for `n` from 1 to 31. -/
@[inline] def rotateLeft32 (word n : UInt32) : UInt32 := (word <<< n) ||| (word >>> (32 - n))

/-- A word turned right by `n` bits, for `n` from 1 to 31. -/
@[inline] def rotateRight32 (word n : UInt32) : UInt32 := (word >>> n) ||| (word <<< (32 - n))

/-- A word turned right by `n` bits, for `n` from 1 to 63. -/
@[inline] def rotateRight64 (word n : UInt64) : UInt64 := (word >>> n) ||| (word <<< (64 - n))

@[simp] theorem length_bytes32BE (word : UInt32) : (bytes32BE word).length = 4 := rfl

@[simp] theorem length_bytes64BE (word : UInt64) : (bytes64BE word).length = 8 := rfl

@[simp] theorem length_bytes32LE (word : UInt32) : (bytes32LE word).length = 4 := rfl

end Custody.Hash

/-!
# Byte strings

A byte string is a list of bytes. What the rest of the library needs of one: a window of it, the
buffer that results from storing bytes at a position (`Bytes.patch`), numbers written with the least
or the most significant byte first, and the hexadecimal text.

`Key32` is a byte string of length 32, the size of every key, seed and shared secret here.
-/

namespace Custody

/-- A byte string. -/
abbrev Bytes := List UInt8

namespace Bytes

/-- `n` zero bytes. -/
def zeros (n : Nat) : Bytes := List.replicate n 0

/-- The `len` bytes from position `start`, or as many of them as there are. -/
def window (data : Bytes) (start len : Nat) : Bytes := (data.drop start).take len

/-- **The buffer after a store.** The bytes from position `start` on are replaced by `stored`; what
would go past the end is cut off, so the size stays. -/
def patch (buffer : Bytes) (start : Nat) (stored : Bytes) : Bytes :=
  buffer.take start ++ stored.take (buffer.length - start) ++ buffer.drop (start + stored.length)

/-- A number in `count` bytes, least significant first; higher digits are cut off. -/
def ofNatLE : Nat → Nat → Bytes
  | 0, _ => []
  | count + 1, n => UInt8.ofNat n :: ofNatLE count (n / 256)

/-- A number in `count` bytes, most significant first. -/
def ofNatBE (count n : Nat) : Bytes := (ofNatLE count n).reverse

/-- The number whose bytes, least significant first, are given. -/
def toNatLE : Bytes → Nat
  | [] => 0
  | b :: rest => b.toNat + 256 * toNatLE rest

/-- Exclusive or, position by position, as far as both reach. -/
def xor (a b : Bytes) : Bytes := List.zipWith (· ^^^ ·) a b

/-- One lowercase hexadecimal digit. -/
def hexDigit (n : Nat) : Char := Char.ofNat (if n < 10 then 0x30 + n else 0x57 + n)

/-- The lowercase hexadecimal text, two digits a byte. -/
def hex (data : Bytes) : String :=
  String.ofList (data.flatMap fun b => [hexDigit (b.toNat / 16), hexDigit (b.toNat % 16)])

/-- Cuts a byte string into pieces of `size` bytes; the last one may be shorter. -/
def chunks (size : Nat) (data : Bytes) : List Bytes :=
  (List.range ((data.length + size - 1) / size)).foldl
    (fun (done, rest) _ => (rest.take size :: done, rest.drop size)) ([], data)
    |>.1.reverse

@[simp] theorem length_zeros (n : Nat) : (zeros n).length = n := by simp [zeros]

@[simp] theorem length_patch (buffer stored : Bytes) (start : Nat) (h : start ≤ buffer.length) :
    (patch buffer start stored).length = buffer.length := by
  simp [patch]; omega

@[simp] theorem patch_nil (buffer : Bytes) (start : Nat) : patch buffer start [] = buffer := by
  simp [patch]

@[simp] theorem length_ofNatLE (count n : Nat) : (ofNatLE count n).length = count := by
  induction count generalizing n with
  | zero => rfl
  | succ count ih => simp [ofNatLE, ih]

@[simp] theorem length_ofNatBE (count n : Nat) : (ofNatBE count n).length = count := by
  simp [ofNatBE]

end Bytes

/-- A byte string of length 32. -/
structure Key32 where
  /-- The bytes. -/
  bytes : Bytes
  /-- There are 32 of them. -/
  length_eq : bytes.length = 32
  deriving DecidableEq

namespace Key32

/-- A byte string as a key, if its length is right. -/
def ofBytes? (data : Bytes) : Option Key32 :=
  if h : data.length = 32 then some ⟨data, h⟩ else none

/-- The key whose little-endian number is `n`, reduced below `2 ^ 256`. -/
def ofNat (n : Nat) : Key32 := ⟨Bytes.ofNatLE 32 n, Bytes.length_ofNatLE 32 n⟩

/-- The little-endian number of a key. -/
def toNat (k : Key32) : Nat := Bytes.toNatLE k.bytes

@[simp] theorem ofBytes?_bytes (k : Key32) : ofBytes? k.bytes = some k := by
  simp [ofBytes?, k.length_eq]

end Key32

end Custody

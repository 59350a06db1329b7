import Custody.Derive.Pbkdf2

/-!
# HKDF

Keys from key material: a mac under the salt extracts a key, and a chain of macs under that key
expands it. The chain is numbered in one byte, so at most 255 digests can be derived.
-/

namespace Custody.Derive

/-- The digests that HKDF is offered for: all but SHA-1. -/
def hkdfDigest? (name : String) : Option MacDigest :=
  (MacDigest.ofName? name).filter (· ≠ .sha1)

/-- How many bytes HKDF can derive at most. -/
def hkdfLimit (digest : MacDigest) : Nat := 255 * digest.size

/-- The links of the chain of macs that starts after `link` with number `number`. -/
def hkdfChain (digest : MacDigest) (key info : Bytes) : Nat → Nat → Bytes → Bytes
  | 0, _, _ => []
  | count + 1, number, link =>
    let next := mac digest key (link ++ info ++ [UInt8.ofNat number])
    next ++ hkdfChain digest key info count (number + 1) next

/-- The first `length` bytes that HKDF derives. -/
def hkdf (digest : MacDigest) (material salt info : Bytes) (length : Nat) : Bytes :=
  let key := mac digest salt material
  (hkdfChain digest key info ((length + digest.size - 1) / digest.size) 1 []).take length

theorem length_hkdfChain (digest : MacDigest) (key info : Bytes) (count number : Nat)
    (link : Bytes) :
    (hkdfChain digest key info count number link).length = count * digest.size := by
  induction count generalizing number link with
  | zero => simp [hkdfChain]
  | succ count ih => simp [hkdfChain, ih, Nat.succ_mul, Nat.add_comm]

@[simp] theorem length_hkdf (digest : MacDigest) (material salt info : Bytes) (length : Nat) :
    (hkdf digest material salt info length).length = length := by
  have := le_ceil_mul length digest.size digest.size_pos
  simp [hkdf, length_hkdfChain]
  omega

end Custody.Derive

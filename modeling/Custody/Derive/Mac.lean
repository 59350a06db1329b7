import Custody.Hash.Sha1
import Custody.Hash.Sha256
import Custody.Hash.Sha512
import Custody.Text.Blank

/-!
# Keyed hashing

HMAC over four of the digests. The key derivation functions are built from it.
-/

namespace Custody.Derive

/-- A digest that keyed hashing is offered for. -/
inductive MacDigest
  | sha1
  | sha256
  | sha384
  | sha512
  deriving DecidableEq, Repr

namespace MacDigest

/-- The digest that a name means; its letters may be of either case. -/
def ofName? (name : String) : Option MacDigest :=
  let raised := Text.raiseCase name
  if raised ∈ ["SHA1", "SHA-1"] then some sha1
  else if raised ∈ ["SHA256", "SHA-256"] then some sha256
  else if raised ∈ ["SHA384", "SHA-384"] then some sha384
  else if raised ∈ ["SHA512", "SHA-512"] then some sha512
  else none

/-- The length of a digest, in bytes. -/
def size : MacDigest → Nat
  | sha1 => 20
  | sha256 => 32
  | sha384 => 48
  | sha512 => 64

/-- The length of a block, in bytes. -/
def blockSize : MacDigest → Nat
  | sha1 => 64
  | sha256 => 64
  | sha384 => 128
  | sha512 => 128

/-- The digest of a message. -/
def hash : MacDigest → Bytes → Bytes
  | sha1 => Hash.Sha1.hash
  | sha256 => Hash.Sha256.hash
  | sha384 => Hash.Sha512.hash384
  | sha512 => Hash.Sha512.hash

@[simp] theorem length_hash (digest : MacDigest) (message : Bytes) :
    (digest.hash message).length = digest.size := by
  cases digest <;> simp [hash, size]

end MacDigest

/-- The key of HMAC, filled up with zeros to a block; a longer one is hashed first. -/
def macKey (digest : MacDigest) (key : Bytes) : Bytes :=
  let key := if key.length ≤ digest.blockSize then key else digest.hash key
  key ++ Bytes.zeros (digest.blockSize - key.length)

/-- The HMAC of a message under a key. -/
def mac (digest : MacDigest) (key message : Bytes) : Bytes :=
  let key := macKey digest key
  digest.hash (key.map (· ^^^ 0x5c) ++ digest.hash (key.map (· ^^^ 0x36) ++ message))

@[simp] theorem length_mac (digest : MacDigest) (key message : Bytes) :
    (mac digest key message).length = digest.size := by simp [mac]

end Custody.Derive

import Custody.Hash.Blake3
import Custody.Hash.Sha1
import Custody.Hash.Sha256
import Custody.Hash.Sha512
import Custody.Text.Blank

/-!
# The digest algorithms and their names

Six algorithms, each known by a few names whose letters may be of either case. Five have a digest of
fixed length; BLAKE3 gives as many bytes as are asked for.
-/

namespace Custody.Hash

/-- A digest algorithm. -/
inductive Algorithm
  | sha1
  | sha256
  | sha384
  | sha512
  | sha512Trunc256
  | blake3
  deriving DecidableEq, Repr

namespace Algorithm

/-- The algorithm that a name means. -/
def ofName? (name : String) : Option Algorithm :=
  let raised := Text.raiseCase name
  if raised ∈ ["SHA1", "SHA-1"] then some sha1
  else if raised ∈ ["SHA256", "SHA-256", "SHA2-256"] then some sha256
  else if raised ∈ ["SHA384", "SHA-384", "SHA2-384"] then some sha384
  else if raised ∈ ["SHA512", "SHA-512", "SHA2-512"] then some sha512
  else if raised ∈ ["SHA512-256", "SHA-512/256", "SHA2-512/256"] then some sha512Trunc256
  else if raised = "BLAKE3" then some blake3
  else none

/-- The length of the digest, if the algorithm fixes it. -/
def fixedLength? : Algorithm → Option Nat
  | sha1 => some 20
  | sha256 => some 32
  | sha384 => some 48
  | sha512 => some 64
  | sha512Trunc256 => some 32
  | blake3 => none

/-- The digest of a message. An algorithm of fixed length does not look at `length`. -/
def digest (algorithm : Algorithm) (length : Nat) (message : Bytes) : Bytes :=
  match algorithm with
  | sha1 => Sha1.hash message
  | sha256 => Sha256.hash message
  | sha384 => Sha512.hash384 message
  | sha512 => Sha512.hash message
  | sha512Trunc256 => Sha512.hash512Trunc256 message
  | blake3 => Blake3.hash message length

/-- A digest has the length that the algorithm fixes, and otherwise the length asked for. -/
theorem length_digest (algorithm : Algorithm) (length : Nat) (message : Bytes) :
    (algorithm.digest length message).length = algorithm.fixedLength?.getD length := by
  cases algorithm <;> simp [digest, fixedLength?]

end Algorithm

end Custody.Hash

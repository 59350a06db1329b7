import Custody.Held.Basic

/-!
# Digests

A digest context in the care of a registry. Finishing starts it afresh, so that one digest
serves for any number of messages, one after the other.
-/

namespace Custody.Held

/-- A digest. -/
structure Digest where
  /-- The owner of its context. -/
  owner : Owner
  /-- The name by which its algorithm was asked for. -/
  algorithm : String

namespace Digest

variable {σ : Type} (services : Services σ)

/-- A digest of an algorithm; an output length other than 0 asks for that many bytes. -/
def create (algorithm : String) (outputLength : Nat) : Work σ Digest := do
  let owner ← acquire services .digest (.digestAllocate algorithm outputLength)
  return ⟨owner, algorithm⟩

/-- The handle of the context. -/
def handle (digest : Digest) : Address := digest.owner.handle.address

/-- Feeds `len` bytes of the data from `offset` on. -/
def feedRange (digest : Digest) (data : Bytes) (offset len : Nat) : Work σ Unit :=
  ask services (services.digest.perform (.digestFeed digest.handle data offset len))

/-- Feeds bytes. -/
def feed (digest : Digest) (data : Bytes) : Work σ Unit :=
  digest.feedRange services data 0 data.length

/-- Feeds one byte. -/
def feedByte (digest : Digest) (byte : UInt8) : Work σ Unit :=
  ask services (services.digest.perform (.digestFeedByte digest.handle byte))

/-- The length of the digest. -/
def length (digest : Digest) : Work σ Nat :=
  ask services (services.digest.number (.digestLength digest.handle))

/-- The digest into a buffer of the caller: how much was written, and the buffer afterwards. -/
def finishInto (digest : Digest) (before : Bytes) : StateM (World σ) (Except Abort Nat × Bytes) :=
  native services (services.digest.fill (.digestFinish digest.handle) before)

/-- The digest of what was fed. -/
def finish (digest : Digest) : Work σ Bytes := do
  let length ← digest.length services
  fetch services services.digest (.digestFinish digest.handle) length

/-- Starts afresh. -/
def reset (digest : Digest) : Work σ Unit :=
  ask services (services.digest.perform (.digestReset digest.handle))

/-- A digest in the form of debugging output. -/
def debug (digest : Digest) (disposed : Bool) : String :=
  "Digest \x7b algorithm: " ++ Text.quoted digest.algorithm ++ ", owner: " ++
    digest.owner.debug disposed ++ " \x7d"

/-- Makes a digest for a body, and disposes of it when the body ends, early or not. -/
def within {α : Type} (algorithm : String) (body : Digest → Work σ α) : Work σ α := do
  let digest ← create services algorithm 0
  lend services digest.owner (body digest)

/-- The digest of some bytes. -/
def once (algorithm : String) (data : Bytes) : Work σ Bytes :=
  within services algorithm fun digest => do
    digest.feed services data
    digest.finish services

end Digest

end Custody.Held

import Custody.Held.KeySpec

/-!
# Signatures

Contexts that sign or check one message after the other. A context keeps a copy of its key, so
that the key may go before the context does.
-/

namespace Custody.Held

/-- Signs messages. -/
structure Signer where
  /-- The owner of its context. -/
  owner : Owner

/-- Checks the signatures of messages. -/
structure Verifier where
  /-- The owner of its context. -/
  owner : Owner

variable {σ : Type} (services : Services σ)

/-- A signature context that is prepared with a key. -/
def acquireSignature (request : Address → Address → Request) (key : KeySpec) : Work σ Owner := do
  let owner ← acquire services .signature .signatureAllocate
  prepare services owner
    (ask services (services.signature.perform (request owner.handle.address key.handle)))
  return owner

/-- Feeds `len` bytes of the data from `offset` on to the message of a context. -/
def feedMessage (owner : Owner) (data : Bytes) (offset len : Nat) : Work σ Unit :=
  ask services (services.signature.perform (.signatureFeed owner.handle.address data offset len))

namespace Signer

/-- A signer for the private half of a key. -/
def create (key : KeySpec) : Work σ Signer := do
  return ⟨← acquireSignature services .signatureInitSign key⟩

/-- Feeds a part of some data. -/
def feedRange (signer : Signer) (data : Bytes) (offset len : Nat) : Work σ Unit :=
  feedMessage services signer.owner data offset len

/-- Feeds bytes. -/
def feed (signer : Signer) (data : Bytes) : Work σ Unit :=
  signer.feedRange services data 0 data.length

/-- The signature of what was fed since the last one. -/
def sign (signer : Signer) : Work σ Bytes := do
  let handle := signer.owner.handle.address
  let length ← ask services (services.signature.number (.signatureLength handle))
  fetch services services.signature (.signatureSign handle) length

/-- A signer in the form of debugging output. -/
def debug (signer : Signer) (disposed : Bool) : String :=
  "Signer \x7b owner: " ++ signer.owner.debug disposed ++ " \x7d"

end Signer

namespace Verifier

/-- A verifier for the public half of a key. -/
def create (key : KeySpec) : Work σ Verifier := do
  return ⟨← acquireSignature services .signatureInitVerify key⟩

/-- Feeds a part of some data. -/
def feedRange (verifier : Verifier) (data : Bytes) (offset len : Nat) : Work σ Unit :=
  feedMessage services verifier.owner data offset len

/-- Feeds bytes. -/
def feed (verifier : Verifier) (data : Bytes) : Work σ Unit :=
  verifier.feedRange services data 0 data.length

/-- Whether a signature is one of what was fed since the last check. -/
def verify (verifier : Verifier) (signature : Bytes) : Work σ Bool :=
  ask services (services.signature.verify verifier.owner.handle.address signature)

/-- A verifier in the form of debugging output. -/
def debug (verifier : Verifier) (disposed : Bool) : String :=
  "Verifier \x7b owner: " ++ verifier.owner.debug disposed ++ " \x7d"

end Verifier

end Custody.Held

import Custody.Held.Basic

/-!
# Keys

A container for one key in the care of a registry, with its public half and perhaps its private
half. To a key for agreement a fresh secret can be sealed (`KeySpec.encapsulate`), and with the
private half it can be opened again (`KeySpec.decapsulate`).
-/

namespace Custody.Held

/-- A key. -/
structure KeySpec where
  /-- The owner of its container. -/
  owner : Owner

/-- A sealed secret. -/
structure Encapsulated where
  /-- What goes to the holder of the key. -/
  ciphertext : Bytes
  /-- What stays with the sender. -/
  secret : Bytes
  deriving DecidableEq

namespace KeySpec

variable {σ : Type} (services : Services σ)

/-- The handle of the container. -/
def handle (key : KeySpec) : Address := key.owner.handle.address

/-- A container that is prepared for use. -/
def create (init : KeySpec → Work σ Unit) : Work σ KeySpec := do
  let owner ← acquire services .keySpec .keyAllocate
  prepare services owner (init ⟨owner⟩)
  return ⟨owner⟩

/-- A fresh key. -/
def generate (type : KeyType) : Work σ KeySpec :=
  create services fun key => ask services (services.keySpec.perform (.keyGenerate key.handle type))

/-- A key from one encoded half. The private half brings the public half along. -/
def decode (part : KeyPart) (type : KeyType) (encoded : Bytes) : Work σ KeySpec :=
  create services fun key =>
    ask services (services.keySpec.perform (.keyDecode key.handle part type encoded))

/-- An encoded half. -/
def encode (key : KeySpec) (part : KeyPart) : Work σ Bytes := do
  let length ← ask services (services.keySpec.number (.keyEncodedLength key.handle part))
  fetch services services.keySpec (.keyEncode key.handle part) length

/-- The algorithm of the key. -/
def type (key : KeySpec) : Work σ KeyType := ask services (services.keySpec.keyType key.handle)

/-- A key in the form of debugging output. -/
def debug (key : KeySpec) (disposed : Bool) : String :=
  "KeySpec \x7b owner: " ++ key.owner.debug disposed ++ " \x7d"

/-! ## Sealed secrets -/

/-- The failure of a library whose ciphertext with its secret is shorter than the secret. -/
def lengthMismatch (total secret : Nat) : Failure :=
  .contractViolation ("encapsulation length " ++ toString total ++ " shorter than secret length " ++
    toString secret)

/-- **Seals a fresh secret.** The secret is the last part of what the library gives. -/
def encapsulate (key : KeySpec) : Work σ Encapsulated := do
  let total ← ask services (services.kem.number (.encapsulatedLength key.handle))
  let secret ← ask services (services.kem.number (.secretLength key.handle))
  if total < secret then .fail (lengthMismatch total secret)
  else
    let (result, both) ← Act.ofState
      (native services (services.kem.fill (.encapsulate key.handle) (Bytes.zeros total)))
    let _ ← Act.ofExcept result
    return ⟨both.take (total - secret), both.drop (total - secret)⟩

/-- Opens a sealed secret. -/
def decapsulate (key : KeySpec) (ciphertext : Bytes) : Work σ Bytes := do
  let length ← ask services (services.kem.number (.secretLength key.handle))
  fetch services services.kem (.decapsulate key.handle ciphertext) length

end KeySpec

end Custody.Held

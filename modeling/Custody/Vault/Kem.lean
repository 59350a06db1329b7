import Custody.Derive.Hkdf
import Custody.Text.Utf8
import Custody.Vault.Basic

/-!
# Key encapsulation in the vault

Encapsulation draws a key pair for one use, agrees on a point with the recipient and derives the
secret from it, bound to both public keys. The ciphertext is the public half of the pair.

The agreement fails where all possible points are the same, the zero point. Encapsulation has
written the ciphertext by then.
-/

namespace Custody.Vault

open Curve Derive Step

/-- The length of a ciphertext. -/
def ciphertextLength : Nat := 32

/-- The length of a secret. -/
def secretLength : Nat := 32

/-- What the derivation of a secret is bound to, apart from the keys. -/
def kemLabel : Bytes := Text.utf8 "tether x25519 kem"

/-- The secret of a shared point, if the point depends on the keys. -/
def kemSecret? (shared ciphertext recipient : Key32) : Option Bytes :=
  if shared.bytes.all (· = 0) then none
  else some (hkdf .sha256 shared.bytes [] (kemLabel ++ ciphertext.bytes ++ recipient.bytes)
    secretLength)

/-- What the diagnostics say where there is no secret. -/
def nonContributory : String := "X25519 agreement produced a non-contributory secret"

/-- The secret of a shared point, which the point has to depend on the keys for. -/
def kemSecret (shared ciphertext recipient : Key32) : Step Bytes :=
  match kemSecret? shared ciphertext recipient with
  | some secret => pure secret
  | none => failSaying .nativeError nonContributory

/-- Writes a ciphertext and its secret. The ciphertext is stored before it is known whether there is
a secret. -/
def encapsulate (seed : Option Key32) (handle : Address) (out : Option OutputWindow) :
    Step Int32 := do
  let key ← look (·.keyOfType .x25519 handle)
  unraised .int32Overflow3 .outputSizeIntOverflow
  if ← look (·.admits (ciphertextLength + secretLength) out) then
    let seed ← draw seed
    store (X25519.publicKey seed).bytes
    let secret ← kemSecret (X25519.agree seed key.publicHalf) (X25519.publicKey seed) key.publicHalf
    store secret
    return Int32.ofNat (ciphertextLength + secretLength)
  else return Int32.ofNat (ciphertextLength + secretLength)

/-- Writes the secret of a ciphertext. -/
def decapsulate (handle : Address) (window : Option InputWindow) (out : Option OutputWindow) :
    Step Int32 := do
  let key ← look (·.keyOfType .x25519 handle)
  let half ← need key.privateHalf .keySpecHasNullKey
  let data ← look (·.input window)
  let ciphertext ← need (Key32.ofBytes? data) .invalidCiphertextLen
  if ← look (·.admits secretLength out) then
    let secret ← kemSecret (X25519.agree half ciphertext) ciphertext key.publicHalf
    deliver secret
  else return Int32.ofNat secretLength

/-- Reports the length of a secret. -/
def reportSecretLength (handle : Address) : Step Int32 := do
  let _ ← look (·.keyOfType .x25519 handle)
  return Int32.ofNat secretLength

end Custody.Vault

import Custody.Vault.Basic

/-!
# Signatures in the vault

A signature context takes a copy of its key when it is prepared, and gathers the message. Signing or
checking uses the message up; a question for the length, or a failure, keeps it.
-/

namespace Custody.Vault

open Curve Step

/-- The length of a signature. -/
def signatureLength : Nat := 64

/-- Allocates a signature context that is not prepared for anything. -/
def signatureAllocate (address : Address) (slot : Bool) : Step Int32 := do
  demand slot .outputIsNull
  unraised .failedCreate2 .createFailed
  allocate address (.signature ⟨.idle, []⟩)

/-- Frees a signature context. -/
def signatureDispose (handle : Address) : Step Int32 := dispose Context.isSignature handle

/-- Prepares a context to sign. -/
def signatureInitSign (handle key : Address) : Step Int32 := do
  let _ ← look (·.signatureAt handle)
  let key ← look (·.keyOfType .ed25519 key)
  let seed ← need key.privateHalf .keySpecHasNullKey
  put handle (.signature ⟨.signing seed, []⟩)
  return 0

/-- Prepares a context to check. -/
def signatureInitVerify (handle key : Address) : Step Int32 := do
  let _ ← look (·.signatureAt handle)
  let key ← look (·.keyOfType .ed25519 key)
  put handle (.signature ⟨.checking key.publicHalf, []⟩)
  return 0

/-- Feeds bytes of the message. -/
def signatureFeed (handle : Address) (window : Option InputWindow) : Step Int32 := do
  let context ← look (·.signatureAt handle)
  demand (context.mode ≠ .idle) .notInitialized
  let data ← look (·.input window)
  put handle (.signature { context with message := context.message ++ data })
  return 0

/-- The key to sign with. -/
def SignatureMode.seed? : SignatureMode → Option Key32
  | signing seed => some seed
  | _ => none

/-- The key to check with. -/
def SignatureMode.key? : SignatureMode → Option Key32
  | checking key => some key
  | _ => none

/-- Writes the signature of the message. -/
def signatureSign (handle : Address) (out : Option OutputWindow) : Step Int32 := do
  let context ← look (·.signatureAt handle)
  let seed ← need context.mode.seed? .notInitialized
  unraised .int32Overflow3 .outputSizeIntOverflow
  if ← look (·.admits signatureLength out) then
    if ← isRaised .nativeError3 then failSaying .nativeError "Ed25519 signing failed"
    else
      unraised .lenChange1 .unexpectedSigLenChange
      let written ← deliver (Ed25519.sign seed context.message)
      put handle (.signature { context with message := [] })
      return written
  else return Int32.ofNat signatureLength

/-- Reports whether a signature is one of the message: 1 if it is, 0 if not. -/
def signatureVerify (handle : Address) (window : Option InputWindow) : Step Int32 := do
  let context ← look (·.signatureAt handle)
  let key ← need context.mode.key? .notInitialized
  let signature ← look fun vault => InputWindow.read .signature vault.raised window
  if ← isRaised .nativeError3 then failSaying .nativeError "Ed25519 verification failed"
  else
    put handle (.signature { context with message := [] })
    return if Ed25519.verify key context.message signature then 1 else 0

end Custody.Vault

import Custody.Vault.Basic

/-!
# Keys in the vault

A container holds one key or none. Generating or decoding replaces the whole key, so that the
halves in a container always belong together; a call that fails keeps the key that was there.
-/

namespace Custody.Vault

open Step

/-- Allocates a container without a key. -/
def keyAllocate (address : Address) (slot : Bool) : Step Int32 := do
  demand slot .outputIsNull
  unraised .failedCreate2 .createFailed
  allocate address (.key none)

/-- Frees a container. -/
def keyDispose (handle : Address) : Step Int32 := dispose Context.isKey handle

/-- Puts a fresh key into a container. -/
def keyGenerate (seed : Option Key32) (handle : Address) (type : Int32) : Step Int32 := do
  let _ ← look (·.containerAt handle)
  let type ← need (KeyType.ofNumber? type) .unknownKeyType
  let half ← draw seed
  put handle (.key (some (.ofPrivate type half)))
  return 0

/-- Decodes half of a key and puts the key that it makes into a container. -/
def keyDecode (make : KeyType → Key32 → KeyMaterial) (wrongLength : ErrorCode) (handle : Address)
    (type : Int32) (window : Option InputWindow) : Step Int32 := do
  let _ ← look (·.containerAt handle)
  let type ← need (KeyType.ofNumber? type) .unknownKeyType
  let data ← look (·.input window)
  let half ← need (Key32.ofBytes? data) wrongLength
  unraised .pointerChange .unexpectedPointerChange
  put handle (.key (some (make type half)))
  return 0

/-- Puts a public key into a container. -/
def keyDecodePublic : Address → Int32 → Option InputWindow → Step Int32 :=
  keyDecode .ofPublic .encodedPublicKeyLen

/-- Puts a private key into a container. -/
def keyDecodePrivate : Address → Int32 → Option InputWindow → Step Int32 :=
  keyDecode .ofPrivate .encodedPrivateKeyLen

/-- Writes half of a key. -/
def keyEncode (half : Key32) (out : Option OutputWindow) : Step Int32 := do
  unraised .int32Overflow2 .outputSizeIntOverflow
  if ← look (·.admits half.bytes.length out) then deliver half.bytes
  else return Int32.ofNat half.bytes.length

/-- Writes the public key. -/
def keyEncodePublic (handle : Address) (out : Option OutputWindow) : Step Int32 := do
  let key ← look (·.keyAt handle)
  keyEncode key.publicHalf out

/-- Writes the private key. -/
def keyEncodePrivate (handle : Address) (out : Option OutputWindow) : Step Int32 := do
  let key ← look (·.keyAt handle)
  let half ← need key.privateHalf .keySpecHasNullKey
  keyEncode half out

/-- Reports the algorithm of a key. -/
def keyType (handle : Address) : Step Int32 := do
  let key ← look (·.keyAt handle)
  return key.type.number

end Custody.Vault

import Custody.Curve.Ed25519
import Custody.Curve.X25519
import Custody.Handle
import Custody.Hash.Algorithm

/-!
# Contexts

What the native library keeps behind a handle: a digest with what was fed to it, a container for
one key, or a signature with its key and the message so far.
-/

namespace Custody

open Curve Hash

/-- The public half of a private key. -/
def KeyType.publicKey : KeyType → Key32 → Key32
  | ed25519 => Ed25519.publicKey
  | x25519 => X25519.publicKey

namespace Vault

/-- A digest in the making. -/
structure DigestContext where
  /-- The algorithm. -/
  algorithm : Algorithm
  /-- The length of the digest. -/
  length : Nat
  /-- What was fed since the last fresh start. -/
  fed : Bytes
  deriving DecidableEq

namespace DigestContext

/-- The context with more bytes fed. -/
def feed (context : DigestContext) (data : Bytes) : DigestContext :=
  { context with fed := context.fed ++ data }

/-- The context as it was allocated. -/
def fresh (context : DigestContext) : DigestContext := { context with fed := [] }

/-- The digest of what was fed. -/
def digest (context : DigestContext) : Bytes :=
  context.algorithm.digest context.length context.fed

end DigestContext

/-- A key. -/
structure KeyMaterial where
  /-- The algorithm that it is for. -/
  type : KeyType
  /-- The public half. -/
  publicHalf : Key32
  /-- The private half, if it is known. -/
  privateHalf : Option Key32
  deriving DecidableEq

namespace KeyMaterial

/-- The key of which only the public half is known. -/
def ofPublic (type : KeyType) (publicHalf : Key32) : KeyMaterial := ⟨type, publicHalf, none⟩

/-- The key with a private half. -/
def ofPrivate (type : KeyType) (privateHalf : Key32) : KeyMaterial :=
  ⟨type, type.publicKey privateHalf, some privateHalf⟩

end KeyMaterial

/-- What a signature context was prepared for. -/
inductive SignatureMode
  /-- Nothing yet. -/
  | idle
  /-- Signing with a private key. -/
  | signing (seed : Key32)
  /-- Checking with a public key. -/
  | checking (key : Key32)
  deriving DecidableEq

/-- A signature in the making. -/
structure SignatureContext where
  /-- What it was prepared for. -/
  mode : SignatureMode
  /-- The message since the last fresh start. -/
  message : Bytes
  deriving DecidableEq

/-- A native context. -/
inductive Context
  | digest (context : DigestContext)
  | key (material : Option KeyMaterial)
  | signature (context : SignatureContext)
  deriving DecidableEq

namespace Context

/-- Whether it is a digest. -/
def isDigest : Context → Bool
  | digest _ => true
  | _ => false

/-- Whether it is a container for a key. -/
def isKey : Context → Bool
  | key _ => true
  | _ => false

/-- Whether it is a signature. -/
def isSignature : Context → Bool
  | signature _ => true
  | _ => false

end Context

end Vault

end Custody

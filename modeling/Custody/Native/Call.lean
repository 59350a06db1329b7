import Custody.Native.Symbol
import Custody.Native.Window

/-!
# Calls

A call of an entry point with its arguments (`Call`), and what comes back from it (`Reply`): a
status, the address of a new context, and bytes for the window of the caller. What a call takes
from outside the library, an address for a new context and random bytes, is its `Supply`.

A name is the bytes behind the pointer; it ends at the first zero byte (`Call.nameBytes`).
-/

namespace Custody

/-- A call of the native library. -/
inductive Call
  /-- The version of the interface. -/
  | version
  /-- A digest context for the algorithm of a name; an output length other than 0 asks for that many
  bytes. Without a slot there is nowhere to put the handle. -/
  | digestAllocate (name : Option Bytes) (outputLength : Int32) (slot : Bool)
  /-- Feeds one byte to a digest. -/
  | digestFeedByte (handle : Address) (byte : UInt8)
  /-- Feeds bytes to a digest. -/
  | digestFeed (handle : Address) (data : Option InputWindow)
  /-- The length of a digest. -/
  | digestLength (handle : Address)
  /-- Writes the digest and starts the context afresh. -/
  | digestFinish (handle : Address) (out : Option OutputWindow)
  /-- Starts a digest context afresh. -/
  | digestReset (handle : Address)
  /-- Frees a digest context. -/
  | digestDispose (handle : Address)
  /-- A container for one key. -/
  | keyAllocate (slot : Bool)
  /-- Frees a key container. -/
  | keyDispose (handle : Address)
  /-- Puts a fresh key into a container. -/
  | keyGenerate (handle : Address) (type : Int32)
  /-- Puts a public key into a container. -/
  | keyDecodePublic (handle : Address) (type : Int32) (data : Option InputWindow)
  /-- Puts a private key into a container. -/
  | keyDecodePrivate (handle : Address) (type : Int32) (data : Option InputWindow)
  /-- Writes the public key. -/
  | keyEncodePublic (handle : Address) (out : Option OutputWindow)
  /-- Writes the private key. -/
  | keyEncodePrivate (handle : Address) (out : Option OutputWindow)
  /-- The algorithm of the key. -/
  | keyType (handle : Address)
  /-- Writes a ciphertext for the key and the secret that it carries. -/
  | encapsulate (handle : Address) (out : Option OutputWindow)
  /-- Writes the secret that a ciphertext carries. -/
  | decapsulate (handle : Address) (ciphertext : Option InputWindow) (out : Option OutputWindow)
  /-- The length of a secret. -/
  | secretLength (handle : Address)
  /-- A signature context. -/
  | signatureAllocate (slot : Bool)
  /-- Frees a signature context. -/
  | signatureDispose (handle : Address)
  /-- Prepares a signature context to sign with a key. -/
  | signatureInitSign (handle key : Address)
  /-- Prepares a signature context to check with a key. -/
  | signatureInitVerify (handle key : Address)
  /-- Feeds bytes of the message. -/
  | signatureFeed (handle : Address) (data : Option InputWindow)
  /-- Writes the signature of the message. -/
  | signatureSign (handle : Address) (out : Option OutputWindow)
  /-- Whether a signature is one of the message. -/
  | signatureVerify (handle : Address) (signature : Option InputWindow)
  /-- Derives a key from a password by iterated hashing. -/
  | pbkdf2 (digest : Option Bytes) (password salt : Option InputWindow) (iterations : Int32)
      (out : Option OutputWindow)
  /-- Derives a key from key material. -/
  | hkdf (digest : Option Bytes) (material salt info : Option InputWindow)
      (out : Option OutputWindow)
  /-- Derives a key from a password at a cost in memory. -/
  | scrypt (password salt : Option InputWindow) (n r p : Int32) (out : Option OutputWindow)
  /-- Whether faults can be raised. -/
  | faultsAvailable
  /-- Raises or clears a fault. -/
  | faultSet (flag on : Int32)
  /-- Clears every fault. -/
  | faultsReset
  /-- Takes the pending diagnostics; without a capacity, asks for their length. -/
  | drain (capacity : Option Nat)
  deriving DecidableEq

namespace Call

/-- The entry point that a call goes to. -/
def symbol : Call → Symbol
  | version => .version
  | digestAllocate .. => .digestAllocate
  | digestFeedByte .. => .digestFeedByte
  | digestFeed .. => .digestFeed
  | digestLength .. => .digestLength
  | digestFinish .. => .digestFinish
  | digestReset .. => .digestReset
  | digestDispose .. => .digestDispose
  | keyAllocate .. => .keyAllocate
  | keyDispose .. => .keyDispose
  | keyGenerate .. => .keyGenerate
  | keyDecodePublic .. => .keyDecodePublic
  | keyDecodePrivate .. => .keyDecodePrivate
  | keyEncodePublic .. => .keyEncodePublic
  | keyEncodePrivate .. => .keyEncodePrivate
  | keyType .. => .keyType
  | encapsulate .. => .encapsulate
  | decapsulate .. => .decapsulate
  | secretLength .. => .secretLength
  | signatureAllocate .. => .signatureAllocate
  | signatureDispose .. => .signatureDispose
  | signatureInitSign .. => .signatureInitSign
  | signatureInitVerify .. => .signatureInitVerify
  | signatureFeed .. => .signatureFeed
  | signatureSign .. => .signatureSign
  | signatureVerify .. => .signatureVerify
  | pbkdf2 .. => .pbkdf2
  | hkdf .. => .hkdf
  | scrypt .. => .scrypt
  | faultsAvailable => .faultsAvailable
  | faultSet .. => .faultSet
  | faultsReset => .faultsReset
  | drain .. => .drain

/-- The window of the caller that a call may write to, apart from that of `drain`. -/
def output? : Call → Option OutputWindow
  | digestFinish _ out | keyEncodePublic _ out | keyEncodePrivate _ out | encapsulate _ out |
    decapsulate _ _ out | signatureSign _ out | pbkdf2 _ _ _ _ out | hkdf _ _ _ _ out |
    scrypt _ _ _ _ _ out => out
  | _ => none

/-- A name without its first zero byte and what follows. -/
def nameBytes (name : Bytes) : Bytes := name.takeWhile (· ≠ 0)

end Call

/-- What a call may take from outside the library. -/
structure Supply where
  /-- The address for a new context. -/
  address : Address
  /-- Random bytes, if the system has some to give. -/
  seed : Option Key32

/-- What a call gives back. -/
structure Reply where
  /-- The status; 0 where an entry point returns nothing. -/
  status : Int32
  /-- What was put into the slot for a new handle. -/
  handle : Option Address
  /-- What was written, from the start of the caller's window on. -/
  written : Bytes
  deriving DecidableEq

/-- A reply of nothing but a status. -/
def Reply.bare (status : Int32) : Reply := ⟨status, none, []⟩

end Custody

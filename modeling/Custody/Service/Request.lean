import Custody.Failure
import Custody.Native.Call
import Custody.Text.Quoted
import Custody.Text.Utf8

/-!
# Requests

What a program asks of the native library, in its own terms: names are text, numbers are natural
numbers, and a buffer is just bytes or a size. `Request.call` puts a request into the terms of
the native interface. It never cuts anything off: a name with a zero byte in it and a number
that does not fit in 32 bits are refused, the first of them in the order of the arguments,
before any call is made.
-/

namespace Custody

/-- Half of a key. -/
inductive KeyPart
  | publicHalf
  | privateHalf
  deriving DecidableEq, Repr

/-- A request to the native library. -/
inductive Request
  /-- A digest context; an output length other than 0 asks for that many bytes. -/
  | digestAllocate (name : String) (outputLength : Nat)
  /-- Feeds one byte. -/
  | digestFeedByte (handle : Address) (byte : UInt8)
  /-- Feeds `len` bytes of the data from `offset` on. -/
  | digestFeed (handle : Address) (data : Bytes) (offset len : Nat)
  /-- The length of the digest. -/
  | digestLength (handle : Address)
  /-- The digest, into a buffer of a size. -/
  | digestFinish (handle : Address) (size : Nat)
  /-- A fresh start. -/
  | digestReset (handle : Address)
  /-- A container for a key. -/
  | keyAllocate
  /-- A fresh key. -/
  | keyGenerate (handle : Address) (type : KeyType)
  /-- A key from its encoded half. -/
  | keyDecode (handle : Address) (part : KeyPart) (type : KeyType) (data : Bytes)
  /-- The length of an encoded half. -/
  | keyEncodedLength (handle : Address) (part : KeyPart)
  /-- An encoded half, into a buffer of a size. -/
  | keyEncode (handle : Address) (part : KeyPart) (size : Nat)
  /-- The algorithm of the key. -/
  | keyType (handle : Address)
  /-- The length of a ciphertext with its secret. -/
  | encapsulatedLength (key : Address)
  /-- A ciphertext with its secret, into a buffer of a size. -/
  | encapsulate (key : Address) (size : Nat)
  /-- The secret of a ciphertext, into a buffer of a size. -/
  | decapsulate (key : Address) (ciphertext : Bytes) (size : Nat)
  /-- The length of a secret. -/
  | secretLength (key : Address)
  /-- A key from a password, into a buffer of a size. -/
  | pbkdf2 (digest : String) (password salt : Bytes) (iterations size : Nat)
  /-- A key from key material, into a buffer of a size. -/
  | hkdf (digest : String) (material salt info : Bytes) (size : Nat)
  /-- A key from a password at a cost, into a buffer of a size. -/
  | scrypt (password salt : Bytes) (n r p size : Nat)
  /-- A signature context. -/
  | signatureAllocate
  /-- Prepares a context to sign. -/
  | signatureInitSign (handle key : Address)
  /-- Prepares a context to check. -/
  | signatureInitVerify (handle key : Address)
  /-- Feeds `len` bytes of the data from `offset` on. -/
  | signatureFeed (handle : Address) (data : Bytes) (offset len : Nat)
  /-- The length of a signature. -/
  | signatureLength (handle : Address)
  /-- The signature, into a buffer of a size. -/
  | signatureSign (handle : Address) (size : Nat)
  /-- Whether a signature is one of the message. -/
  | signatureVerify (handle : Address) (signature : Bytes)
  deriving DecidableEq

namespace Request

/-! ## Arguments -/

/-- A name as the native interface takes it. -/
def nameArgument (name : String) : Except Failure Bytes :=
  if '\x00' ∈ name.toList then
    .error (.invalidArgument ("name " ++ Text.quoted name ++ " contains a NUL byte"))
  else .ok (Text.utf8 name)

/-- A number as the native interface takes it; `what` names it in the failure with this code. -/
def numberArgument (code : ErrorCode) (what : String) (n : Nat) : Except Failure Int32 :=
  if n < wordLimit then .ok (Int32.ofNat n)
  else .error ((Failure.ofCode code).withContext (what ++ " " ++ toString n ++ " exceeds i32"))

/-- A number that is an input. -/
def inputNumber : String → Nat → Except Failure Int32 := numberArgument .inputTooLongInt32

/-- A window into the data. -/
def partArgument (data : Bytes) (offset len : Nat) : Except Failure InputWindow := do
  let offset ← inputNumber "input offset" offset
  let len ← inputNumber "input length" len
  return ⟨data, offset, len⟩

/-- The data from end to end. -/
def wholeArgument (data : Bytes) : Except Failure InputWindow := partArgument data 0 data.length

/-- A buffer of a size, to be written from end to end. -/
def outputArgument (size : Nat) : Except Failure OutputWindow := do
  let len ← numberArgument .outputTooLongInt32 "output length" size
  return ⟨size, 0, len⟩

/-! ## Calls -/

/-- The native call for half of a key to be decoded. -/
def decodeCall (handle : Address) (type : Int32) (data : InputWindow) : KeyPart → Call
  | .publicHalf => .keyDecodePublic handle type data
  | .privateHalf => .keyDecodePrivate handle type data

/-- The native call for half of a key to be encoded. -/
def encodeCall (handle : Address) (out : Option OutputWindow) : KeyPart → Call
  | .publicHalf => .keyEncodePublic handle out
  | .privateHalf => .keyEncodePrivate handle out

/-- **The native call that a request stands for**, or the failure of the first argument that has
no form in the native interface. -/
def call : Request → Except Failure Call
  | digestAllocate name outputLength => do
    let name ← nameArgument name
    let length ← inputNumber "XOF length" outputLength
    return .digestAllocate name length true
  | digestFeedByte handle byte => return .digestFeedByte handle byte
  | digestFeed handle data offset len => return .digestFeed handle (← partArgument data offset len)
  | digestLength handle => return .digestLength handle
  | digestFinish handle size => return .digestFinish handle (← outputArgument size)
  | digestReset handle => return .digestReset handle
  | keyAllocate => return .keyAllocate true
  | keyGenerate handle type => return .keyGenerate handle type.number
  | keyDecode handle part type data =>
    return decodeCall handle type.number (← wholeArgument data) part
  | keyEncodedLength handle part => return encodeCall handle none part
  | keyEncode handle part size => return encodeCall handle (← outputArgument size) part
  | keyType handle => return .keyType handle
  | encapsulatedLength key => return .encapsulate key none
  | encapsulate key size => return .encapsulate key (← outputArgument size)
  | decapsulate key ciphertext size => do
    let ciphertext ← wholeArgument ciphertext
    return .decapsulate key ciphertext (← outputArgument size)
  | secretLength key => return .secretLength key
  | pbkdf2 digest password salt iterations size => do
    let digest ← nameArgument digest
    let iterations ← inputNumber "iterations" iterations
    let password ← wholeArgument password
    let salt ← wholeArgument salt
    return .pbkdf2 digest password salt iterations (← outputArgument size)
  | hkdf digest material salt info size => do
    let digest ← nameArgument digest
    let material ← wholeArgument material
    let salt ← wholeArgument salt
    let info ← wholeArgument info
    return .hkdf digest material salt info (← outputArgument size)
  | scrypt password salt n r p size => do
    let n ← inputNumber "scrypt N" n
    let r ← inputNumber "scrypt r" r
    let p ← inputNumber "scrypt p" p
    let password ← wholeArgument password
    let salt ← wholeArgument salt
    return .scrypt password salt n r p (← outputArgument size)
  | signatureAllocate => return .signatureAllocate true
  | signatureInitSign handle key => return .signatureInitSign handle key
  | signatureInitVerify handle key => return .signatureInitVerify handle key
  | signatureFeed handle data offset len =>
    return .signatureFeed handle (← partArgument data offset len)
  | signatureLength handle => return .signatureSign handle none
  | signatureSign handle size => return .signatureSign handle (← outputArgument size)
  | signatureVerify handle signature => return .signatureVerify handle (← wholeArgument signature)

/-- What the failure of a native call says was attempted. -/
def context? : Request → Option String
  | digestAllocate name _ => some ("digest \"" ++ name ++ "\"")
  | keyAllocate => some "key spec allocation"
  | keyGenerate _ type => some ("generate " ++ type.name)
  | pbkdf2 digest .. => some ("PBKDF2 \"" ++ digest ++ "\"")
  | hkdf digest .. => some ("HKDF \"" ++ digest ++ "\"")
  | scrypt _ _ n r p _ =>
    some ("scrypt N=" ++ toString n ++ " r=" ++ toString r ++ " p=" ++ toString p)
  | signatureAllocate => some "signature context allocation"
  | _ => none

/-- What a request that allocates calls its object. -/
def domain : Request → String
  | digestAllocate .. => "digest"
  | keyAllocate => "key spec"
  | _ => "signature"

end Request

end Custody

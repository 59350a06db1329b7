import Custody.Native.Call

/-!
# Arguments

What an entry point sees of a call. It sees its arguments and not the name under which it was
called, and several entry points take arguments of one kind, so that a call that reaches the wrong
one of these is answered all the same, as if it had been meant for it (`Symbol.call?`).
-/

namespace Custody

/-- The arguments of a call. -/
inductive Arguments
  /-- None. -/
  | nothing
  /-- Those of a digest context to be made. -/
  | algorithm (name : Option Bytes) (outputLength : Int32) (slot : Bool)
  /-- A slot for a new handle. -/
  | slot (slot : Bool)
  /-- A handle. -/
  | handle (handle : Address)
  /-- A handle with a byte. -/
  | byte (handle : Address) (byte : UInt8)
  /-- A handle with a window to read from. -/
  | input (handle : Address) (data : Option InputWindow)
  /-- A handle with a window to write to. -/
  | output (handle : Address) (out : Option OutputWindow)
  /-- A handle with a window of either kind. -/
  | throughput (handle : Address) (data : Option InputWindow) (out : Option OutputWindow)
  /-- A handle with the number of a key algorithm. -/
  | type (handle : Address) (type : Int32)
  /-- A handle with the number of a key algorithm and a window to read from. -/
  | typed (handle : Address) (type : Int32) (data : Option InputWindow)
  /-- Two handles. -/
  | pair (handle key : Address)
  /-- A password with a number of rounds. -/
  | rounds (digest : Option Bytes) (password salt : Option InputWindow) (iterations : Int32)
      (out : Option OutputWindow)
  /-- Key material. -/
  | material (digest : Option Bytes) (material salt info : Option InputWindow)
      (out : Option OutputWindow)
  /-- A password with a cost in memory. -/
  | cost (password salt : Option InputWindow) (n r p : Int32) (out : Option OutputWindow)
  /-- The number of a fault with its new state. -/
  | fault (flag on : Int32)
  /-- The capacity of a buffer. -/
  | capacity (capacity : Option Nat)
  deriving DecidableEq

/-- The arguments of a call. -/
def Call.arguments : Call → Arguments
  | version | faultsAvailable | faultsReset => .nothing
  | digestAllocate name outputLength slot => .algorithm name outputLength slot
  | keyAllocate slot | signatureAllocate slot => .slot slot
  | digestLength handle | digestReset handle | digestDispose handle | keyDispose handle |
    keyType handle | secretLength handle | signatureDispose handle => .handle handle
  | digestFeedByte handle byte => .byte handle byte
  | digestFeed handle data | signatureFeed handle data | signatureVerify handle data =>
    .input handle data
  | digestFinish handle out | keyEncodePublic handle out | keyEncodePrivate handle out |
    encapsulate handle out | signatureSign handle out => .output handle out
  | decapsulate handle ciphertext out => .throughput handle ciphertext out
  | keyGenerate handle type => .type handle type
  | keyDecodePublic handle type data | keyDecodePrivate handle type data => .typed handle type data
  | signatureInitSign handle key | signatureInitVerify handle key => .pair handle key
  | pbkdf2 digest password salt iterations out => .rounds digest password salt iterations out
  | hkdf digest material salt info out => .material digest material salt info out
  | scrypt password salt n r p out => .cost password salt n r p out
  | faultSet flag on => .fault flag on
  | drain capacity => .capacity capacity

/-- **The call that an entry point takes its arguments for.** Arguments of another kind than its own
mean nothing to it. -/
def Symbol.call? : Symbol → Arguments → Option Call
  | version, .nothing => some .version
  | digestAllocate, .algorithm name outputLength slot =>
    some (.digestAllocate name outputLength slot)
  | digestFeedByte, .byte handle byte => some (.digestFeedByte handle byte)
  | digestFeed, .input handle data => some (.digestFeed handle data)
  | digestLength, .handle handle => some (.digestLength handle)
  | digestFinish, .output handle out => some (.digestFinish handle out)
  | digestReset, .handle handle => some (.digestReset handle)
  | digestDispose, .handle handle => some (.digestDispose handle)
  | keyAllocate, .slot slot => some (.keyAllocate slot)
  | keyDispose, .handle handle => some (.keyDispose handle)
  | keyGenerate, .type handle type => some (.keyGenerate handle type)
  | keyDecodePublic, .typed handle type data => some (.keyDecodePublic handle type data)
  | keyDecodePrivate, .typed handle type data => some (.keyDecodePrivate handle type data)
  | keyEncodePublic, .output handle out => some (.keyEncodePublic handle out)
  | keyEncodePrivate, .output handle out => some (.keyEncodePrivate handle out)
  | keyType, .handle handle => some (.keyType handle)
  | encapsulate, .output handle out => some (.encapsulate handle out)
  | decapsulate, .throughput handle ciphertext out => some (.decapsulate handle ciphertext out)
  | secretLength, .handle handle => some (.secretLength handle)
  | signatureAllocate, .slot slot => some (.signatureAllocate slot)
  | signatureDispose, .handle handle => some (.signatureDispose handle)
  | signatureInitSign, .pair handle key => some (.signatureInitSign handle key)
  | signatureInitVerify, .pair handle key => some (.signatureInitVerify handle key)
  | signatureFeed, .input handle data => some (.signatureFeed handle data)
  | signatureSign, .output handle out => some (.signatureSign handle out)
  | signatureVerify, .input handle data => some (.signatureVerify handle data)
  | pbkdf2, .rounds digest password salt iterations out =>
    some (.pbkdf2 digest password salt iterations out)
  | hkdf, .material digest material salt info out => some (.hkdf digest material salt info out)
  | scrypt, .cost password salt n r p out => some (.scrypt password salt n r p out)
  | faultsAvailable, .nothing => some .faultsAvailable
  | faultSet, .fault flag on => some (.faultSet flag on)
  | faultsReset, .nothing => some .faultsReset
  | drain, .capacity capacity => some (.drain capacity)
  | _, _ => none

/-- A call that reaches the entry point that it is for is taken for what it is. -/
@[simp] theorem Symbol.call?_arguments (call : Call) :
    call.symbol.call? call.arguments = some call := by
  cases call <;> rfl

end Custody

import Custody.Vault.Basic

/-!
# Digests in the vault

Allocation by the name of an algorithm, feeding, and finishing. Finishing writes the digest of
what was fed and starts the context afresh; without an output it only reports the length.
-/

namespace Custody.Vault

open Hash Step

/-- The length of a digest where the caller did not ask for one. -/
def defaultLength : Nat := 32

/-- The output length of a new context. Only an extendable algorithm takes a length from the
caller. -/
def digestLengthFor (name : String) (algorithm : Algorithm) (asked : Int32) : Step Nat :=
  match algorithm.fixedLength? with
  | some length =>
    if asked ≠ 0 then failSaying .setParamFailed (name ++ " is not an XOF, output length is fixed")
    else return length
  | none => do
    if ← isRaised .failedSet1 then failSaying .setParamFailed "unable to set XOF output length"
    else return if asked = 0 then defaultLength else asked.toInt.toNat

/-- Allocates a digest context. -/
def digestAllocate (address : Address) (name : Option Bytes) (asked : Int32) (slot : Bool) :
    Step Int32 := do
  demand slot .outputIsNull
  let name ← look (·.readName name)
  let algorithm ← need (Algorithm.ofName? name) .nameNotFound
  demand (0 ≤ asked) .xofLenInvalid
  unraised .failedCreate1 .createFailed
  unraised .failedInit1 .initFailed
  let length ← digestLengthFor name algorithm asked
  allocate address (.digest ⟨algorithm, length, []⟩)

/-- Feeds bytes that were read already. -/
def digestFeedBytes (handle : Address) (context : DigestContext) (data : Bytes) : Step Int32 := do
  if ← isRaised .nativeError1 then failSaying .nativeError "digest update failed"
  else
    put handle (.digest (context.feed data))
    return 0

/-- Feeds one byte. -/
def digestFeedByte (handle : Address) (byte : UInt8) : Step Int32 := do
  let context ← look (·.digestAt handle)
  digestFeedBytes handle context [byte]

/-- Feeds the bytes of a window. -/
def digestFeed (handle : Address) (window : Option InputWindow) : Step Int32 := do
  let context ← look (·.digestAt handle)
  let data ← look (·.input window)
  digestFeedBytes handle context data

/-- The length of a digest, as a status. -/
def reportedLength (vault : Vault) (context : DigestContext) : Check Int32 := do
  Check.demand (!vault.raised .int32Overflow1) .outputTooLongInt32
  Check.demand (context.length < wordLimit) .outputTooLongInt32
  return Int32.ofNat context.length

/-- Reports the length of a digest. -/
def digestLength (handle : Address) : Step Int32 := do
  let context ← look (·.digestAt handle)
  look (·.reportedLength context)

/-- Writes the digest and starts the context afresh. -/
def digestFinish (handle : Address) (out : Option OutputWindow) : Step Int32 := do
  let context ← look (·.digestAt handle)
  let length ← look (·.reportedLength context)
  if ← look (·.admits context.length out) then
    if ← isRaised .nativeError2 then failSaying .nativeError "digest finalize failed"
    else
      let written ← deliver context.digest
      put handle (.digest context.fresh)
      return written
  else return length

/-- Starts a context afresh. -/
def digestReset (handle : Address) : Step Int32 := do
  let context ← look (·.digestAt handle)
  put handle (.digest context.fresh)
  return 0

/-- Frees a digest context. -/
def digestDispose (handle : Address) : Step Int32 := dispose Context.isDigest handle

end Custody.Vault

import Custody.Native.Call
import Custody.Text.Utf8
import Custody.Vault.Context
import Custody.Vault.Heap

/-!
# The vault

The state of the native library: contexts by address, raised faults, and diagnostics that nobody
has taken yet.

An entry point works on this state in place. It is a chain of steps (`Step`), each of which looks
at the library or changes it, stores bytes in the caller's window, or puts an address into the
caller's slot. A step that fails ends the call with a code. Nothing is undone then: the state of
the call is what the steps before have made of it, and with this state the call ends
(`Step.exec`). So it is for each entry point to do what can fail before it changes anything.

What a step looks at without changing it is read by a check (`Check`), a function of the library
that passes with a value or fails with a code.
-/

namespace Custody

/-- The state of the native library. -/
structure Vault where
  /-- The contexts. -/
  contexts : Heap Vault.Context
  /-- Which faults are raised. -/
  raised : FaultFlag → Bool
  /-- The diagnostics that nobody has taken, the oldest first. -/
  diagnostics : List String

namespace Vault

/-- The library before its first call. -/
def empty : Vault := ⟨Heap.empty, fun _ => false, []⟩

/-- The library with a context in place of the one at an address. -/
def set (vault : Vault) (address : Address) (context : Context) : Vault :=
  { vault with contexts := vault.contexts.put address context }

/-- The library without the context at an address. -/
def free (vault : Vault) (address : Address) : Vault :=
  { vault with contexts := vault.contexts.erase address }

/-- The library with one more line of diagnostics. -/
def push (vault : Vault) (line : String) : Vault :=
  { vault with diagnostics := vault.diagnostics ++ [line] }

/-! ## Checks -/

/-- What passes with a value, or fails with a code. -/
abbrev Check := Except ErrorCode

namespace Check

/-- Fails with a code unless a condition holds. -/
def demand (condition : Bool) (code : ErrorCode) : Check Unit :=
  if condition then .ok () else .error code

/-- A value that has to be there. -/
def need {α : Type} (value : Option α) (code : ErrorCode) : Check α :=
  match value with
  | some a => .ok a
  | none => .error code

end Check

open Check

/-- The digest context behind a handle. -/
def digestAt (vault : Vault) (handle : Address) : Check DigestContext :=
  match vault.contexts.get? handle with
  | some (.digest context) => .ok context
  | _ => .error .invalidHandle

/-- The key container behind a handle. -/
def containerAt (vault : Vault) (handle : Address) : Check (Option KeyMaterial) :=
  match vault.contexts.get? handle with
  | some (.key material) => .ok material
  | _ => .error .invalidHandle

/-- The key in the container behind a handle. -/
def keyAt (vault : Vault) (handle : Address) : Check KeyMaterial := do
  need (← vault.containerAt handle) .keySpecHasNullKey

/-- The key behind a handle, which has to be of one type. -/
def keyOfType (vault : Vault) (type : KeyType) (handle : Address) : Check KeyMaterial := do
  let key ← vault.keyAt handle
  demand (key.type = type) .incorrectKeyType
  return key

/-- The signature context behind a handle. -/
def signatureAt (vault : Vault) (handle : Address) : Check SignatureContext :=
  match vault.contexts.get? handle with
  | some (.signature context) => .ok context
  | _ => .error .invalidHandle

/-- The bytes that are to be processed. -/
def input (vault : Vault) (window : Option InputWindow) : Check Bytes :=
  InputWindow.read .data vault.raised window

/-- Whether `needed` bytes are to be written, or their number is only asked for. -/
def admits (vault : Vault) (needed : Nat) (out : Option OutputWindow) : Check Bool :=
  OutputWindow.admits vault.raised needed out

/-- How many bytes are to be written. -/
def span (vault : Vault) (out : Option OutputWindow) : Check Nat :=
  OutputWindow.span vault.raised out

/-- The name behind a pointer. A name that is no text is not found. -/
def readName (vault : Vault) (name : Option Bytes) : Check String := do
  let bytes ← need name .nameIsNull
  demand (!vault.raised .failedAccess3) .nameAccessFailed
  need (Text.utf8Decode? (Call.nameBytes bytes)) .nameNotFound

/-! ## Steps -/

/-- The state of a call under way: the library, and what the caller was given so far. -/
structure CallState where
  /-- The library. -/
  vault : Vault
  /-- The address that was put into the caller's slot. -/
  handle : Option Address
  /-- The bytes that were stored, from the start of the caller's window on. -/
  written : Bytes

/-- The state in which a call begins. -/
def CallState.start (vault : Vault) : CallState := ⟨vault, none, []⟩

/-- **A step of a call.** It works on the state in place, and may fail with a code. -/
abbrev Step := ExceptT ErrorCode (StateM CallState)

namespace Step

variable {α : Type}

/-- How a step ends, and the state in which it leaves the call. -/
def exec (step : Step α) (state : CallState) : Check α × CallState := (ExceptT.run step).run state

/-- Looks at the library. -/
def look (check : Vault → Check α) : Step α := fun state => (check state.vault, state)

/-- Fails with a code unless a condition holds. -/
def demand (condition : Bool) (code : ErrorCode) : Step Unit :=
  look fun _ => Check.demand condition code

/-- A value that has to be there; else the call fails with a code. -/
def need (value : Option α) (code : ErrorCode) : Step α := look fun _ => Check.need value code

/-- Whether a fault is raised. -/
def isRaised (flag : FaultFlag) : Step Bool := look fun vault => .ok (vault.raised flag)

/-- Fails with a code where a fault is raised. -/
def unraised (flag : FaultFlag) (code : ErrorCode) : Step Unit :=
  look fun vault => Check.demand (!vault.raised flag) code

/-- Changes the library. -/
def change (f : Vault → Vault) : Step Unit :=
  fun state => (.ok (), { state with vault := f state.vault })

/-- Puts a context in place of the one at an address. -/
def put (address : Address) (context : Context) : Step Unit := change (·.set address context)

/-- Fails with a code. -/
def fail (code : ErrorCode) : Step α := fun state => (.error code, state)

/-- Fails with a code, and leaves a line in the diagnostics. -/
def failSaying (code : ErrorCode) (line : String) : Step α := do
  change (·.push line)
  fail code

/-- Stores bytes in the caller's window, after those that were stored before. -/
def store (bytes : Bytes) : Step Unit :=
  fun state => (.ok (), { state with written := state.written ++ bytes })

/-- Puts an address into the caller's slot. -/
def handOut (address : Address) : Step Unit :=
  fun state => (.ok (), { state with handle := some address })

/-- Writes bytes to the caller's window, and reports how many there are. -/
def deliver (bytes : Bytes) : Step Int32 := do
  store bytes
  return Int32.ofNat bytes.length

/-- Makes a context at an address, which the caller is given. -/
def allocate (address : Address) (context : Context) : Step Int32 := do
  put address context
  handOut address
  return 0

/-- Frees the context behind a handle, if it is of the right kind. Any other handle is passed
over. -/
def dispose (own : Context → Bool) (handle : Address) : Step Int32 := do
  change fun vault => if (vault.contexts.get? handle).any own then vault.free handle else vault
  return 0

/-- Random bytes of the system, which may have none to give. -/
def draw (seed : Option Key32) : Step Key32 :=
  match seed with
  | some seed => pure seed
  | none => failSaying .nativeError "system random source failed"

end Step

end Vault

end Custody

import Custody.Native.Backend
import Custody.Service.Request

/-!
# Services

The native library as a program uses it. A request is put into a native call, made, and its
status given a meaning (`Backend.exchange`); the functions after that read the different kinds
of result out of the exchange. `Services` hands the domains of one backend to the program.
-/

namespace Custody

/-- What came of a request. -/
structure Exchange where
  /-- The meaning of the status, or why there is none. -/
  outcome : Except Abort Nat
  /-- What was put into the slot for a new handle. -/
  handle : Option Address
  /-- What was written to the buffer of the request. -/
  written : Bytes

namespace Backend

variable {σ : Type}

/-- The meaning of the status of a request's call. -/
def checkFor (backend : Backend σ) (request : Request) (status : Int32) : Act σ Nat :=
  match request.context? with
  | none => backend.check status
  | some context => (backend.check status).during context

/-- **Makes a request.** A request that has no form in the native interface makes no call at all. -/
def exchange (backend : Backend σ) (request : Request) : StateM σ Exchange :=
  match request.call with
  | .error failure => pure ⟨.error (.failed failure), none, []⟩
  | .ok call => do
    let reply ← backend.submit call
    let outcome ← (backend.checkFor request reply.status).outcome
    return ⟨outcome, reply.handle, reply.written⟩

/-- A request for a number. -/
def number (backend : Backend σ) (request : Request) : Act σ Nat := do
  let exchange ← Act.ofState (backend.exchange request)
  .ofExcept exchange.outcome

/-- A request for nothing but that it be done. -/
def perform (backend : Backend σ) (request : Request) : Act σ Unit := do
  let _ ← backend.number request

/-- A request for a new context. A success without a handle breaks the contract. -/
def allocate (backend : Backend σ) (request : Request) : Act σ Handle := do
  let exchange ← Act.ofState (backend.exchange request)
  let _ ← Act.ofExcept exchange.outcome
  match Handle.ofAddress? (exchange.handle.getD 0) with
  | some handle => return handle
  | none => .fail (.contractViolation
      (request.domain ++ " allocation reported success without a handle"))

/-- A request for bytes, with the buffer before the call. The buffer shows what was written
whatever the outcome. -/
def fill (backend : Backend σ) (request : Nat → Request) (before : Bytes) :
    StateM σ (Except Abort Nat × Bytes) := do
  let exchange ← backend.exchange (request before.length)
  return (exchange.outcome, before.patch 0 exchange.written)

/-- A request for the algorithm of a key. -/
def keyType (backend : Backend σ) (handle : Address) : Act σ KeyType := do
  let raw ← backend.number (.keyType handle)
  match KeyType.ofNumber? (Int32.ofNat raw) with
  | some type => return type
  | none => .fail (.contractViolation ("unknown key type " ++ toString raw))

/-- A request for the truth about a signature. -/
def verify (backend : Backend σ) (handle : Address) (signature : Bytes) : Act σ Bool := do
  match ← backend.number (.signatureVerify handle signature) with
  | 0 => return false
  | 1 => return true
  | other => .fail (.contractViolation
      ("verify returned " ++ toString other ++ ", expected 0 or 1"))

/-- Frees a context by the entry point for its domain. -/
def dispose (backend : Backend σ) (call : Address → Call) (handle : Address) : StateM σ Unit := do
  let _ ← backend.submit (call handle)

/-- Whether faults can be raised. -/
def faultsAvailable (backend : Backend σ) : StateM σ Bool := do
  return (← backend.submit .faultsAvailable).status ≠ 0

/-- What is missing where faults cannot be raised. -/
def noFaults : Failure := .backendUnavailable "native library built without fault injection"

/-- Raises or clears a fault. -/
def setFault (backend : Backend σ) (flag : FaultFlag) (on : Bool) : Act σ Unit := do
  if ← Act.ofState backend.faultsAvailable then
    let reply ← Act.ofState (backend.submit (.faultSet flag.number (if on then 1 else 0)))
    let _ ← backend.check reply.status
  else .fail noFaults

/-- Clears every fault. -/
def resetFaults (backend : Backend σ) : StateM σ Unit := do
  let _ ← backend.submit .faultsReset

end Backend

/-- The domains of the native library, each reached through a backend. -/
structure Services (σ : Type) where
  /-- How the backend was reached. -/
  kind : BackendKind
  /-- Digests. -/
  digest : Backend σ
  /-- Keys. -/
  keySpec : Backend σ
  /-- Key encapsulation. -/
  kem : Backend σ
  /-- Key derivation. -/
  kdf : Backend σ
  /-- Signatures. -/
  signature : Backend σ
  /-- Faults. -/
  faults : Backend σ

namespace Services

variable {σ : Type}

/-- All domains through one backend. -/
def ofBackend (backend : Backend σ) : Services σ :=
  ⟨backend.kind, backend, backend, backend, backend, backend, backend⟩

/-- The services in the form of debugging output. -/
def debug (services : Services σ) : String :=
  "Services \x7b kind: " ++ services.kind.debug ++ " \x7d"

end Services

end Custody

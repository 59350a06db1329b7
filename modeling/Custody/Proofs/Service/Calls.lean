import Custody.Proofs.Service.Diagnostics

/-!
# Service calls with all that comes of them

A service call gives back a value of one kind or another, unless it ends early, and the buffer of
the caller as it is then (`ServiceCall.serve`). Whatever the kind, a call that makes a request
leaves the library as the exchange of that request does (`ServiceCall.serve_snd`), and ends early
where the exchange does.

Of the library an exchange asks one native call, and no other calls but for diagnostics
(`Backend.log_exchange`).

A call that frees a context, sets a fault or fetches the diagnostics makes no request, and is the
native call that it is named after. For the others there is the exchange, with the one equation by
which a chain goes on after it, or does not.
-/

namespace Custody

variable {σ : Type}

/-! ## Calls -/

/-- What a service call gives back, unless it ends early. -/
inductive Yield
  /-- Nothing. -/
  | nothing
  /-- A number. -/
  | number (n : Nat)
  /-- The handle of a new context. -/
  | handle (handle : Handle)
  /-- The algorithm of a key. -/
  | type (type : KeyType)
  /-- A truth value. -/
  | truth (truth : Bool)
  /-- A text. -/
  | text (text : String)
  deriving DecidableEq

/-- What comes of a service call. -/
structure Served where
  /-- What it gives back, or why it ended early. -/
  outcome : Except Abort Yield
  /-- The buffer of the caller afterwards; there is none but for a request for bytes. -/
  buffer : Bytes

namespace ServiceCall

/-- The buffer of the caller before the call. -/
def buffer : ServiceCall → Bytes
  | fill _ before => before
  | _ => []

/-- **Makes a service call**, with all that comes of it. -/
def serve (backend : Backend σ) : ServiceCall → StateM σ Served
  | number request => do return ⟨(← (backend.number request).outcome).map .number, []⟩
  | perform request => do return ⟨(← (backend.perform request).outcome).map fun _ => .nothing, []⟩
  | allocate request => do return ⟨(← (backend.allocate request).outcome).map .handle, []⟩
  | fill request before => do
    let (outcome, after) ← backend.fill request before
    return ⟨outcome.map .number, after⟩
  | keyType handle => do return ⟨(← (backend.keyType handle).outcome).map .type, []⟩
  | verify handle signature => do
    return ⟨(← (backend.verify handle signature).outcome).map .truth, []⟩
  | dispose domain handle => do
    backend.dispose domain.disposal handle
    return ⟨.ok .nothing, []⟩
  | faultsAvailable => do return ⟨.ok (.truth (← backend.faultsAvailable)), []⟩
  | setFault flag on => do
    return ⟨(← (backend.setFault flag on).outcome).map fun _ => .nothing, []⟩
  | resetFaults => do
    backend.resetFaults
    return ⟨.ok .nothing, []⟩
  | takeDiagnostics => do return ⟨.ok (.text (← backend.takeDiagnostics)), []⟩

end ServiceCall

namespace Backend

variable (backend : Backend σ) {request : Request} {state : σ} {abort : Abort}

/-! ## Values read out of a number -/

/-- An operation on a number leaves the library as the request for the number does, if it does
nothing more with the library. -/
theorem snd_number_bind {α : Type} {rest : Nat → Act σ α} (hrest : ∀ n s, (rest n s).2 = s) :
    (backend.number request >>= rest : Act σ α) state
      = (((backend.number request >>= rest : Act σ α) state).1,
        (backend.exchange request state).2) := by
  have hnumber : backend.number request state = _ := backend.number_eq
  refine Prod.ext rfl ?_
  cases houtcome : (backend.exchange request state).1.outcome with
  | ok n =>
    rw [houtcome] at hnumber
    rw [Act.bind_of_ok hnumber]
    exact hrest n _
  | error abort =>
    rw [houtcome] at hnumber
    rw [Act.bind_of_error hnumber]

/-- It ends early where the request does. -/
theorem fst_number_bind {α : Type} {rest : Nat → Act σ α}
    (h : (backend.exchange request state).1.outcome = .error abort) :
    ((backend.number request >>= rest : Act σ α) state).1 = .error abort := by
  have hnumber : backend.number request state = _ := backend.number_eq
  rw [h] at hnumber
  rw [Act.bind_of_error hnumber]

theorem snd_keyType (handle : Address) :
    (backend.keyType handle state).2 = (backend.exchange (.keyType handle) state).2 := by
  refine congrArg Prod.snd (backend.snd_number_bind fun n s => ?_)
  cases KeyType.ofNumber? (Int32.ofNat n) with
  | some type => rfl
  | none => rfl

theorem snd_verify (handle : Address) (signature : Bytes) :
    (backend.verify handle signature state).2
      = (backend.exchange (.signatureVerify handle signature) state).2 := by
  refine congrArg Prod.snd (backend.snd_number_bind fun n s => ?_)
  split
  · rfl
  · rfl
  · rfl

/-! ## Native calls -/

/-- Taking diagnostics asks for nothing but diagnostics. -/
theorem log_takeDiagnostics (recorded : Recorded σ) : ∃ drains : List (Note σ),
    (backend.recorded.takeDiagnostics recorded).2.log = recorded.log ++ drains
      ∧ ∀ note ∈ drains, note.call.symbol = .drain := by
  let pending : Reply × Recorded σ := backend.recorded.submit (.drain none) recorded
  let size := pending.1.status.toInt.toNat
  have hlog : pending.2.log
      = recorded.log ++ [⟨recorded.state, .drain none, pending.1⟩] := rfl
  by_cases hnone : pending.1.status ≤ 0
  · refine ⟨[⟨recorded.state, .drain none, pending.1⟩], ?_, by simp [Call.symbol]⟩
    rw [← hlog, Backend.takeDiagnostics_eq]
    exact congrArg (fun taken : String × Recorded σ => taken.2.log) (if_pos hnone)
  · let taken : Reply × Recorded σ := backend.recorded.submit (.drain (some size)) pending.2
    refine ⟨[⟨recorded.state, .drain none, pending.1⟩,
      ⟨pending.2.state, .drain (some size), taken.1⟩], ?_, by simp [Call.symbol]⟩
    rw [← List.singleton_append, ← List.append_assoc, ← hlog, Backend.takeDiagnostics_eq]
    exact congrArg (fun taken : String × Recorded σ => taken.2.log) (if_neg hnone)

/-- **An exchange asks one native call of the library**, and no other but for diagnostics, and
these only where the native call fails. -/
theorem log_exchange {native : Call} (hcall : request.call = .ok native) (recorded : Recorded σ) :
    ∃ drains : List (Note σ), (backend.recorded.exchange request recorded).2.log = recorded.log
        ++ ⟨recorded.state, native, (backend.submit native recorded.state).1⟩ :: drains
      ∧ (∀ note ∈ drains, note.call.symbol = .drain)
      ∧ (0 ≤ (backend.submit native recorded.state).1.status → drains = []) := by
  let made : Reply × Recorded σ := backend.recorded.submit native recorded
  have hlog : made.2.log = recorded.log
      ++ [⟨recorded.state, native, (backend.submit native recorded.state).1⟩] := rfl
  by_cases hstatus : 0 ≤ made.1.status
  · refine ⟨[], ?_, List.forall_mem_nil _, fun _ => rfl⟩
    rw [backend.recorded.exchange_of_nonneg hcall hstatus]
    exact hlog
  · obtain ⟨drains, htaken, hdrains⟩ := backend.log_takeDiagnostics made.2
    refine ⟨drains, ?_, hdrains, fun h => absurd h hstatus⟩
    rw [backend.recorded.exchange_of_neg hcall (Int32.not_le.mp hstatus)]
    show (backend.recorded.takeDiagnostics made.2).2.log = _
    rw [htaken, hlog, List.append_assoc, List.singleton_append]

end Backend

namespace ServiceCall

variable (backend : Backend σ) {call : ServiceCall} {request : Request} {state state' : σ}
  {abort : Abort}

/-- **A service call that makes a request** leaves the library as the exchange does. -/
theorem serve_snd (hasks : call.asks = .inl request) :
    (call.serve backend state).2 = (backend.exchange request state).2 := by
  cases call <;> cases hasks
  case number => rfl
  case perform => exact congrArg Prod.snd backend.perform_eq
  case allocate => exact congrArg Prod.snd (Library.allocate_eq backend request state)
  case fill => rfl
  case keyType handle => exact backend.snd_keyType handle
  case verify handle signature => exact backend.snd_verify handle signature

/-- Where an exchange ends early that has written nothing, so does the service call, and the buffer
of the caller is as it was. -/
theorem serve_of_error (hasks : call.asks = .inl request)
    (h : backend.exchange request state = (⟨.error abort, none, []⟩, state')) :
    call.serve backend state = (⟨.error abort, call.buffer⟩, state') := by
  have houtcome : (backend.exchange request state).1.outcome = .error abort := by rw [h]
  refine Prod.ext ?_ ((serve_snd backend hasks).trans (by rw [h]))
  cases call <;> cases hasks
  case number =>
    show Served.mk ((backend.exchange request state).1.outcome.map _) [] = _
    rw [houtcome]
    rfl
  case perform =>
    show Served.mk ((backend.perform request state).1.map _) [] = _
    rw [backend.perform_eq, houtcome]
    rfl
  case allocate =>
    show Served.mk ((backend.allocate request state).1.map _) [] = _
    rw [Library.allocate_eq, houtcome]
    rfl
  case fill requests before =>
    show Served.mk ((backend.exchange (requests before.length) state).1.outcome.map _)
      (before.patch 0 (backend.exchange (requests before.length) state).1.written) = _
    rw [h, Bytes.patch_nil]
    rfl
  case keyType handle =>
    have hfst : (backend.keyType handle state).1 = .error abort := backend.fst_number_bind houtcome
    show Served.mk ((backend.keyType handle state).1.map _) [] = _
    rw [hfst]
    rfl
  case verify handle signature =>
    have hfst : (backend.verify handle signature state).1 = .error abort :=
      backend.fst_number_bind houtcome
    show Served.mk ((backend.verify handle signature state).1.map _) [] = _
    rw [hfst]
    rfl

end ServiceCall

end Custody

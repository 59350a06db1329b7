import Custody.Proofs.Held.Library

/-!
# What a request asks of a library

A request is put into a native call that is made with the contexts that the request names
(`Request.targets_call`). Around that call the library may be asked for its diagnostics, which
touches no context. So every request but one that allocates leaves the contexts as they are
(`Library.Uses`), and one that allocates makes at most one context, which it hands out unless
its address is zero (`Library.allocate_cases`).

A call is told apart from another by what it makes, what it frees and what it is made with, and
nothing else of it matters here. A request is compared with its call in these three respects
(`Request.agrees_call`), one case a request. What the diagnostics say is never looked at, and a
library that replies at random to all else is as good as any.
-/

namespace Custody

open Held

variable {σ α β : Type}

namespace Request

/-- The kind of context that a request allocates. -/
def makes? : Request → Option Domain
  | digestAllocate .. => some .digest
  | keyAllocate => some .keySpec
  | signatureAllocate => some .signature
  | _ => none

/-- **The contexts that a request is made with**, each with the kind that it has to be of. -/
def targets : Request → List (Address × Domain)
  | digestFeedByte handle _ | digestFeed handle _ _ _ | digestLength handle |
    digestFinish handle _ | digestReset handle => [(handle, .digest)]
  | keyGenerate handle _ | keyDecode handle _ _ _ | keyEncodedLength handle _ |
    keyEncode handle _ _ | keyType handle | encapsulatedLength handle | encapsulate handle _ |
    decapsulate handle _ _ | secretLength handle => [(handle, .keySpec)]
  | signatureFeed handle _ _ _ | signatureLength handle | signatureSign handle _ |
    signatureVerify handle _ => [(handle, .signature)]
  | signatureInitSign handle key | signatureInitVerify handle key =>
    [(handle, .signature), (key, .keySpec)]
  | _ => []

/-- A request that allocates is made without a context. -/
theorem targets_of_makes? {request : Request} {domain : Domain} (h : request.makes? = some domain) :
    request.targets = [] := by
  cases request <;> first | rfl | cases h

/-- What a call does to contexts: what it makes, what it frees and what it is made with. -/
def Agrees (request : Request) (call : Call) : Prop :=
  call.makes? = request.makes? ∧ call.frees? = none ∧ call.targets = request.targets

/-- The arguments that are checked before the call is made have no part in what it does to
contexts. -/
theorem agrees_bind {γ : Type} {request : Request} {call : Call} {argument : Except Failure γ}
    {rest : γ → Except Failure Call} (h : (argument >>= rest) = .ok call)
    (hrest : ∀ a, rest a = .ok call → request.Agrees call) : request.Agrees call := by
  cases argument with
  | error failure => cases h
  | ok a => exact hrest a h

theorem agrees_of_ok {request : Request} {call call' : Call}
    (h : (.ok call' : Except Failure Call) = .ok call)
    (hagrees : request.Agrees call') : request.Agrees call := by
  cases h
  exact hagrees

/-- **The call of a request does to contexts what the request says.** -/
theorem agrees_call {request : Request} {call : Call} (h : request.call = .ok call) :
    request.Agrees call := by
  cases request with
  | digestAllocate | pbkdf2 | hkdf | scrypt | decapsulate =>
    repeat refine agrees_bind h fun a h => ?_
    exact agrees_of_ok h ⟨rfl, rfl, rfl⟩
  | digestFeed | digestFinish | encapsulate | signatureFeed | signatureSign | signatureVerify =>
    exact agrees_bind h fun _ h => agrees_of_ok h ⟨rfl, rfl, rfl⟩
  | keyDecode handle part =>
    refine agrees_bind h fun _ h => agrees_of_ok h ?_
    cases part <;> exact ⟨rfl, rfl, rfl⟩
  | keyEncodedLength handle part =>
    refine agrees_of_ok h ?_
    cases part <;> exact ⟨rfl, rfl, rfl⟩
  | keyEncode handle part =>
    refine agrees_bind h fun _ h => agrees_of_ok h ?_
    cases part <;> exact ⟨rfl, rfl, rfl⟩
  | _ => exact agrees_of_ok h ⟨rfl, rfl, rfl⟩

end Request

namespace Library

variable (library : Library σ)

/-! ## Contexts that stay as they are -/

/-- A call that made and freed nothing, and was made with some contexts only. -/
structure Idle (targets : List (Address × Domain)) (note : Note σ) : Prop where
  /-- It made nothing. -/
  granted : note.granted? = none
  /-- It freed nothing. -/
  frees : note.call.frees? = none
  /-- It was made with these contexts. -/
  within : note.call.targets ⊆ targets

/-- **Calls that leave the contexts as they are** and are made with some of them. -/
inductive Tends (targets : List (Address × Domain)) (recorded : Recorded σ) : Recorded σ → Prop
  | refl : Tends targets recorded recorded
  | call {recorded' : Recorded σ} (call : Call) (before : Tends targets recorded recorded')
      (idle : Idle targets (library.note recorded'.state call)) :
      Tends targets recorded (library.after recorded' call)

/-- **An action that leaves the contexts as they are**, and whose calls are made with some of
them. -/
def Uses (targets : List (Address × Domain)) (act : StateM (Recorded σ) α) : Prop :=
  ∀ recorded, library.Tends targets recorded (act recorded).2

variable {library} {targets targets' : List (Address × Domain)}
  {recorded recorded' recorded'' : Recorded σ}

namespace Tends

/-- One stretch of calls after another. -/
theorem trans (h : library.Tends targets recorded recorded')
    (h' : library.Tends targets recorded' recorded'') :
    library.Tends targets recorded recorded'' := by
  induction h' with
  | refl => exact h
  | call call _ idle ih => exact .call call ih idle

/-- No context comes and none goes. -/
theorem recordedAt (h : library.Tends targets recorded recorded') (address : Address) :
    library.recordedAt recorded' address = library.recordedAt recorded address := by
  induction h with
  | refl => rfl
  | call call _ idle ih =>
    rw [recordedAt_after, ← ih]
    refine Call.kindAfter_of_ne (fun domain h => ?_) fun domain h => ?_
    · cases idle.granted.symm.trans h
    · cases idle.frees.symm.trans h

/-- If the contexts are there, every call is made with contexts that are there. -/
theorem proper (h : library.Tends targets recorded recorded')
    (hthere : ∀ target ∈ targets, library.recordedAt recorded target.1 = some target.2)
    (hproper : library.Proper recorded.log) : library.Proper recorded'.log := by
  induction h with
  | refl => exact hproper
  | call call before idle ih =>
    rw [log_after, proper_append, proper_singleton]
    exact ⟨ih,
      fun target hmem => (before.recordedAt target.1).trans (hthere target (idle.within hmem))⟩

/-- Whatever was done was done by calls. -/
theorem exists_afterAll (h : library.Tends targets recorded recorded') :
    ∃ calls, recorded' = library.afterAll recorded calls := by
  induction h with
  | refl => exact ⟨[], rfl⟩
  | call call _ _ ih =>
    obtain ⟨calls, rfl⟩ := ih
    exact ⟨calls ++ [call], (library.afterAll_append recorded calls [call]).symm⟩

end Tends

/-! ## Actions put together -/

namespace Uses

theorem pure (a : α) : library.Uses targets (Pure.pure a) := fun _ => .refl

/-- One action after another, for the same contexts. -/
theorem bind {act : StateM (Recorded σ) α} {rest : α → StateM (Recorded σ) β}
    (h : library.Uses targets act) (hrest : ∀ a, library.Uses targets (rest a)) :
    library.Uses targets (act >>= rest) := fun recorded => (h recorded).trans (hrest _ _)

/-- An action that ends early leaves the rest undone. -/
theorem andThen {act : Act (Recorded σ) α} {rest : α → Act (Recorded σ) β}
    (h : library.Uses targets act) (hrest : ∀ a, library.Uses targets (rest a)) :
    library.Uses targets (act >>= rest : Act (Recorded σ) β) := by
  have hcont : ∀ result : Except Abort α, library.Uses targets (ExceptT.bindCont rest result) := by
    intro result
    cases result with
    | ok a => exact hrest a
    | error abort => exact fun _ => .refl
  exact fun recorded => (h recorded).trans (hcont _ _)

theorem ofState {act : StateM (Recorded σ) α} (h : library.Uses targets act) :
    library.Uses targets (Act.ofState act) := h

theorem ofExcept (result : Except Abort α) : library.Uses targets (Act.ofExcept result) :=
  fun _ => .refl

theorem fail (failure : Failure) : library.Uses targets (Act.fail failure : Act (Recorded σ) α) :=
  ofExcept _

/-- A failure that is told with what was attempted. -/
theorem during {act : Act (Recorded σ) α} (h : library.Uses targets act) (context : String) :
    library.Uses targets (act.during context) := by
  intro recorded
  have hact := h recorded
  unfold Act.during
  split
  · rename_i heq
    rwa [heq] at hact
  · rename_i heq
    rwa [heq] at hact

/-- A call that neither makes nor frees a context. -/
theorem submit {call : Call} (hmakes : call.makes? = none) (hfrees : call.frees? = none)
    (hwithin : call.targets ⊆ targets) :
    library.Uses targets (library.backend.recorded.submit call) := fun _ =>
  .call call .refl ⟨Call.granted?_of_makes? hmakes _, hfrees, hwithin⟩

/-! ## The parts of a request -/

/-- The diagnostics have nothing to do with contexts. -/
theorem takeDiagnostics : library.Uses targets library.backend.recorded.takeDiagnostics := by
  refine bind (submit rfl rfl (List.nil_subset _)) fun pending => ?_
  split
  · exact pure _
  · exact bind (submit rfl rfl (List.nil_subset _)) fun _ => pure _

/-- On a negative status the diagnostics are fetched, and else nothing is done. -/
theorem check (status : Int32) : library.Uses targets (library.backend.recorded.check status) := by
  unfold Backend.check
  split
  · exact ofExcept _
  · exact andThen (ofState takeDiagnostics) fun _ => ofExcept _

theorem checkFor (request : Request) (status : Int32) :
    library.Uses targets (library.backend.recorded.checkFor request status) := by
  unfold Backend.checkFor
  split
  · exact check status
  · exact during (check status) _

/-- **A request that does not allocate** leaves the contexts as they are. -/
theorem exchange {request : Request} (hmakes : request.makes? = none) :
    library.Uses request.targets (library.backend.recorded.exchange request) := by
  unfold Backend.exchange
  split
  · exact pure _
  · rename_i call hcall
    obtain ⟨hcallMakes, hfrees, htargets⟩ := Request.agrees_call hcall
    refine bind (submit (hcallMakes.trans hmakes) hfrees (fun _ h => htargets ▸ h)) fun reply => ?_
    exact bind (checkFor request reply.status) fun _ => pure _

/-- A request for a number uses the contexts that it names. -/
theorem number {request : Request} (hmakes : request.makes? = none) :
    library.Uses request.targets (library.backend.recorded.number request) :=
  andThen (ofState (exchange hmakes)) fun _ => ofExcept _

/-- A request that is only to be carried out uses the contexts that it names. -/
theorem perform {request : Request} (hmakes : request.makes? = none) :
    library.Uses request.targets (library.backend.recorded.perform request) :=
  andThen (number hmakes) fun _ => pure _

/-- A request that fills a buffer uses the contexts that it names. -/
theorem fill {request : Nat → Request} {before : Bytes}
    (hmakes : (request before.length).makes? = none) :
    library.Uses (request before.length).targets (library.backend.recorded.fill request before) :=
  bind (exchange hmakes) fun _ => pure _

/-- The type of a key is asked of its container. -/
theorem keyType (handle : Address) :
    library.Uses [(handle, .keySpec)] (library.backend.recorded.keyType handle) := by
  have hnumber : library.Uses (Request.keyType handle).targets
      (library.backend.recorded.number (.keyType handle)) := number rfl
  refine andThen hnumber fun raw => ?_
  split
  · exact pure _
  · exact fail _

/-- A verdict is asked of the signature context. -/
theorem verify (handle : Address) (signature : Bytes) :
    library.Uses [(handle, .signature)] (library.backend.recorded.verify handle signature) := by
  have hnumber : library.Uses (Request.signatureVerify handle signature).targets
      (library.backend.recorded.number (.signatureVerify handle signature)) := number rfl
  refine andThen hnumber fun truth => ?_
  split
  · exact pure _
  · exact pure _
  · exact fail _

theorem faultsAvailable : library.Uses targets library.backend.recorded.faultsAvailable :=
  bind (submit rfl rfl (List.nil_subset _)) fun _ => pure _

theorem setFault (flag : FaultFlag) (on : Bool) :
    library.Uses targets (library.backend.recorded.setFault flag on) := by
  refine andThen (ofState faultsAvailable) fun available => ?_
  split
  · refine andThen (ofState (submit rfl rfl (List.nil_subset _))) fun reply => ?_
    exact andThen (check reply.status) fun _ => pure _
  · exact fail _

theorem resetFaults : library.Uses targets library.backend.recorded.resetFaults :=
  bind (submit rfl rfl (List.nil_subset _)) fun _ => pure _

end Uses

/-! ## Requests that allocate -/

section Allocate

variable (backend : Backend σ) (request : Request) (state : σ)

/-- A success needs no diagnostics. -/
theorem checkFor_of_nonneg {status : Int32} (h : 0 ≤ status) :
    backend.checkFor request status state = (.ok status.toInt.toNat, state) := by
  have hcheck : backend.check status state = (.ok status.toInt.toNat, state) := by
    rw [Backend.check, if_pos h, statusMeaning, if_pos h]
    rfl
  unfold Backend.checkFor
  cases request.context? with
  | none => exact hcheck
  | some context =>
    show Act.during context _ state = _
    rw [Act.during, hcheck]

/-- **A request without a form makes no call.** -/
theorem exchange_of_error {failure : Failure} (h : request.call = .error failure) :
    backend.exchange request state = (⟨.error (.failed failure), none, []⟩, state) := by
  rw [Backend.exchange, h]
  rfl

/-- **A request with a form makes its call**, and its status is checked. -/
theorem exchange_of_ok {call : Call} (h : request.call = .ok call) :
    backend.exchange request state
      = let reply := backend.submit call state
        let outcome := backend.checkFor request reply.1.status reply.2
        (⟨outcome.1, reply.1.handle, reply.1.written⟩, outcome.2) := by
  rw [Backend.exchange, h]
  rfl

/-- What comes of a request that allocates depends on the outcome and on the handle that comes
with it. -/
theorem allocate_eq : backend.allocate request state
    = (match (backend.exchange request state).1.outcome with
      | .error abort => .error abort
      | .ok _ =>
        match Handle.ofAddress? ((backend.exchange request state).1.handle.getD 0) with
        | some handle => .ok handle
        | none => .error (.failed (.contractViolation
            (request.domain ++ " allocation reported success without a handle"))),
      (backend.exchange request state).2) := by
  unfold Backend.allocate
  simp only [bind, ExceptT.bind, ExceptT.mk, StateT.bind, Act.ofState, ExceptT.bindCont]
  generalize backend.exchange request state = result
  obtain ⟨⟨outcome, handle, written⟩, after⟩ := result
  cases outcome with
  | error abort => rfl
  | ok n =>
    -- Only a success looks at the handle.
    simp only
    cases Handle.ofAddress? (handle.getD 0) with
    | none => rfl
    | some handle => rfl

end Allocate

section Grants

variable {request : Request} {call : Call} {domain : Domain}

/-- A request whose call makes a context succeeds. -/
theorem exchange_of_granted (hcall : request.call = .ok call) {made : Address × Domain}
    (hgranted : (library.note recorded.state call).granted? = some made) :
    (∃ n, (library.backend.recorded.exchange request recorded).1.outcome = .ok n)
      ∧ (library.backend.recorded.exchange request recorded).2 = library.after recorded call := by
  have hstatus := library.announced call recorded.state made hgranted
  have hcheck :=
    checkFor_of_nonneg library.backend.recorded request (library.after recorded call) hstatus
  rw [exchange_of_ok _ _ _ hcall]
  exact ⟨⟨_, congrArg Prod.fst hcheck⟩, congrArg Prod.snd hcheck⟩

/-- A request whose call makes no context leaves the contexts as they are. -/
theorem tends_exchange_of_not_granted (hcall : request.call = .ok call)
    (htargets : call.targets = []) (hfrees : call.frees? = none)
    (hgranted : (library.note recorded.state call).granted? = none) :
    library.Tends [] recorded (library.backend.recorded.exchange request recorded).2 := by
  have hidle : Idle [] (library.note recorded.state call) :=
    ⟨hgranted, hfrees, fun _ h => htargets ▸ h⟩
  rw [exchange_of_ok _ _ _ hcall]
  exact (Tends.call call .refl hidle).trans (Uses.checkFor request _ _)

/-- The handle that comes back is that of the reply. -/
theorem handle_exchange (hcall : request.call = .ok call) :
    (library.backend.recorded.exchange request recorded).1.handle
      = (library.note recorded.state call).reply.handle := by
  rw [exchange_of_ok _ _ _ hcall]
  rfl

/-- **What a request that allocates comes to.** Either it fails and no context is made, or one
call makes a context of the kind that was asked for, and unless its address is zero the request
hands it out. -/
theorem allocate_cases (hmakes : request.makes? = some domain) (recorded : Recorded σ) :
    ((∃ abort, (library.backend.recorded.allocate request recorded).1 = .error abort)
      ∧ library.Tends [] recorded (library.backend.recorded.allocate request recorded).2)
    ∨ ∃ call address, call.targets = [] ∧ call.frees? = none
      ∧ (library.note recorded.state call).granted? = some (address, domain)
      ∧ (library.backend.recorded.allocate request recorded).2 = library.after recorded call
      ∧ ∀ hne : address ≠ 0,
        (library.backend.recorded.allocate request recorded).1 = .ok ⟨address, hne⟩ := by
  rw [allocate_eq]
  cases hcall : request.call with
  | error failure =>
    rw [exchange_of_error _ _ _ hcall]
    exact .inl ⟨⟨_, rfl⟩, .refl⟩
  | ok call =>
    obtain ⟨hcallMakes, hfrees, htargets⟩ := Request.agrees_call hcall
    rw [hmakes] at hcallMakes
    rw [Request.targets_of_makes? hmakes] at htargets
    have hgrant : (library.note recorded.state call).granted?
        = (library.note recorded.state call).reply.handle.map (·, domain) := by
      rw [Note.granted?, Call.granted?,
        show (library.note recorded.state call).call.makes? = _ from hcallMakes]
      rfl
    rw [handle_exchange hcall]
    cases hhandle : (library.note recorded.state call).reply.handle with
    | none =>
      -- Without an address there is a failure, also where the status was none.
      rw [hhandle] at hgrant
      refine .inl ⟨?_, tends_exchange_of_not_granted hcall htargets hfrees hgrant⟩
      split
      · exact ⟨_, rfl⟩
      · exact ⟨_, rfl⟩
    | some address =>
      rw [hhandle] at hgrant
      obtain ⟨⟨n, houtcome⟩, hstate⟩ := exchange_of_granted hcall hgrant
      refine .inr ⟨call, address, htargets, hfrees, hgrant, hstate, fun hne => ?_⟩
      rw [houtcome]
      show (match Handle.ofAddress? address with
        | some handle => _
        | none => _) = _
      rw [Handle.ofAddress?, dif_pos hne]

end Grants

end Library

end Custody

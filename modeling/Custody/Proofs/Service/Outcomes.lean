import Custody.Proofs.Held.Requests

/-!
# Outcomes of requests

A request without a form in the native interface fails before any call is made. Otherwise there is
one call, and the sign of its status decides: a status that is not negative is the outcome, and on a
negative one the diagnostics are taken and the outcome is the reason that they and the status give
(`Abort.ofStatus`), with what was attempted in front (`Request.explain`).

The equations are what later modules use of the service layer: they say of an exchange which state
it leaves and what it reports, by the sign of one status, and no proof about an operation looks
further into how the exchange is written.
-/

namespace Custody

variable {σ α β : Type}

/-- **What ends with a value fails with nothing.** -/
theorem forall_error_of_ok {ε : Type} {p : ε → Prop} (a : α) :
    ∀ setback, (Except.ok a : Except ε α) = .error setback → p setback := by
  rintro _ ⟨⟩

/-! ## Chains -/

namespace Act

section Chains

variable {ε : Type} {act : ExceptT ε (StateM σ) α} {rest : α → ExceptT ε (StateM σ) β} {s s' : σ}

/-- An operation that ends with a value is followed by the next one. -/
theorem bind_of_ok {a : α} (h : act s = (.ok a, s')) :
    (act >>= rest : ExceptT ε (StateM σ) β) s = rest a s' := by
  show ExceptT.bindCont rest (act s).1 (act s).2 = _
  rw [h]
  rfl

/-- An operation that ends early is the last one. -/
theorem bind_of_error {setback : ε} (h : act s = (.error setback, s')) :
    (act >>= rest : ExceptT ε (StateM σ) β) s = (.error setback, s') := by
  show ExceptT.bindCont rest (act s).1 (act s).2 = _
  rw [h]
  rfl

end Chains

/-- **A chain ends with a value** only if each operation in it does. -/
theorem exists_of_bind_ok {act : Act σ α} {rest : α → Act σ β} {s : σ} {b : β}
    (h : ((act >>= rest : Act σ β) s).1 = .ok b) :
    ∃ a, (act s).1 = .ok a ∧ (act >>= rest : Act σ β) s = rest a (act s).2 := by
  cases hact : (act s).1 with
  | ok a => exact ⟨a, rfl, bind_of_ok (Prod.ext hact rfl)⟩
  | error abort =>
    rw [bind_of_error (Prod.ext hact rfl)] at h
    cases h

end Act

/-! ## Statuses -/

/-- **Why an operation ends on a negative status**, given the text of the native library. -/
def Abort.ofStatus (status : Int32) (diagnostics : String) : Abort :=
  match ErrorCode.ofStatus? status with
  | some code => .failed (.native code.kind code (code.detail diagnostics))
  | none => .panicked
      ("unmapped native status code " ++ toString status.toInt ++ ": native contract mismatch")

/-- A reason with what a request attempted in front, where that is told. -/
def Request.explain (request : Request) (abort : Abort) : Abort :=
  match request.context? with
  | none => abort
  | some context => abort.withContext context

/-- The status of a code stands for a failure with that code. -/
@[simp] theorem Abort.ofStatus_status (code : ErrorCode) (diagnostics : String) :
    ofStatus code.status diagnostics
      = .failed (.native code.kind code (code.detail diagnostics)) := by
  rw [ofStatus, ErrorCode.ofStatus?_status]

/-- A failure that does not ask for the text of the library has the words of its code. -/
theorem ErrorCode.detail_of_not_wants {code : ErrorCode} (h : code.wantsDiagnostics = false)
    (text : String) : code.detail text = code.message := by
  rw [detail, h]
  rfl

/-- A failure that asks for the text of the library has it behind the words of its code. -/
theorem ErrorCode.detail_of_wants {code : ErrorCode} {text : String}
    (h : code.wantsDiagnostics = true) (htext : text ≠ "") :
    code.detail text = code.message ++ ": " ++ text := by
  rw [detail, h, String.isEmpty_eq_false_iff.mpr htext]
  rfl

/-- A negative status means that the operation ends. -/
theorem statusMeaning_of_neg {status : Int32} (h : status < 0) (diagnostics : String) :
    statusMeaning status diagnostics = .error (.ofStatus status diagnostics) := by
  rw [statusMeaning, if_neg (Int32.not_le.mpr h), Abort.ofStatus]
  cases ErrorCode.ofStatus? status with
  | none => rfl
  | some code => rfl

namespace Backend

variable (backend : Backend σ) {request : Request} {state : σ} {call : Call} {status : Int32}

/-! ## Taking the diagnostics -/

/-- **The two calls that take the diagnostics**, as the library answers them. The second one is made
only if the first announces a text. -/
theorem takeDiagnostics_eq (state : σ) : backend.takeDiagnostics state
    = let pending := backend.submit (.drain none) state
      let size := pending.1.status.toInt.toNat
      let taken := backend.submit (.drain (some size)) pending.2
      if pending.1.status ≤ 0 then ("", pending.2)
      else (Text.utf8DecodeLossy ((Bytes.zeros (min size taken.1.status.toInt.toNat)).patch 0
        taken.1.written), taken.2) := by
  show (if (backend.submit (.drain none) state).1.status ≤ 0 then
      (pure "" : StateM σ String) else _) (backend.submit (.drain none) state).2 = _
  dsimp only
  split
  · rfl
  · rfl

/-! ## Checks -/

/-- **A negative status** takes the diagnostics, and ends the operation. -/
theorem check_of_neg (h : status < 0) : backend.check status state
    = (.error (.ofStatus status (backend.takeDiagnostics state).1),
        (backend.takeDiagnostics state).2) := by
  have htaken : Act.ofState backend.takeDiagnostics state
      = (.ok (backend.takeDiagnostics state).1, (backend.takeDiagnostics state).2) := rfl
  rw [check, if_neg (Int32.not_le.mpr h), Act.bind_of_ok htaken, Act.ofExcept,
    statusMeaning_of_neg h]

/-- On a negative status the diagnostics are fetched, and the failure tells of the request. -/
theorem checkFor_of_neg (h : status < 0) : backend.checkFor request status state
    = (.error (request.explain (.ofStatus status (backend.takeDiagnostics state).1)),
        (backend.takeDiagnostics state).2) := by
  unfold checkFor Request.explain
  cases request.context? with
  | none => exact backend.check_of_neg h
  | some context =>
    show Act.during context _ state = _
    rw [Act.during, backend.check_of_neg h]

/-! ## Exchanges -/

/-- **A call that succeeds** gives its status, with the handle and the bytes of the reply. -/
theorem exchange_of_nonneg (hcall : request.call = .ok call)
    (h : 0 ≤ (backend.submit call state).1.status) : backend.exchange request state
      = (⟨.ok (backend.submit call state).1.status.toInt.toNat,
          (backend.submit call state).1.handle, (backend.submit call state).1.written⟩,
        (backend.submit call state).2) := by
  rw [Library.exchange_of_ok _ _ _ hcall]
  simp only [Library.checkFor_of_nonneg backend request _ h]

/-- **A call that fails** gives its reason, with the handle and the bytes all the same. -/
theorem exchange_of_neg (hcall : request.call = .ok call)
    (h : (backend.submit call state).1.status < 0) : backend.exchange request state
      = (⟨.error (request.explain (.ofStatus (backend.submit call state).1.status
            (backend.takeDiagnostics (backend.submit call state).2).1)),
          (backend.submit call state).1.handle, (backend.submit call state).1.written⟩,
        (backend.takeDiagnostics (backend.submit call state).2).2) := by
  rw [Library.exchange_of_ok _ _ _ hcall]
  simp only [backend.checkFor_of_neg h]

/-- **A request succeeds** where its call is made and reports success. -/
theorem exchange_of_outcome {n : Nat} (h : (backend.exchange request state).1.outcome = .ok n) :
    ∃ call, request.call = .ok call ∧ 0 ≤ (backend.submit call state).1.status
      ∧ (backend.submit call state).1.status.toInt.toNat = n := by
  cases hcall : request.call with
  | error failure =>
    rw [Library.exchange_of_error _ _ _ hcall] at h
    cases h
  | ok call =>
    refine ⟨call, rfl, ?_⟩
    by_cases hstatus : 0 ≤ (backend.submit call state).1.status
    · rw [backend.exchange_of_nonneg hcall hstatus] at h
      exact ⟨hstatus, Except.ok.inj h⟩
    · rw [backend.exchange_of_neg hcall (Int32.not_le.mp hstatus)] at h
      cases h

/-! ## What is read out of an exchange -/

/-- A request for a number gives the outcome of the exchange. -/
theorem number_eq : backend.number request state
    = ((backend.exchange request state).1.outcome, (backend.exchange request state).2) := rfl

/-- A request that is only to be carried out gives no more than that it was. -/
theorem perform_eq : backend.perform request state
    = ((backend.exchange request state).1.outcome.map fun _ => (),
        (backend.exchange request state).2) := by
  have hnumber : backend.number request state = _ := backend.number_eq
  cases houtcome : (backend.exchange request state).1.outcome with
  | ok n =>
    rw [houtcome] at hnumber
    exact Act.bind_of_ok hnumber
  | error abort =>
    rw [houtcome] at hnumber
    exact Act.bind_of_error hnumber

/-- A request that fills a buffer gives the buffer with what was written, whatever the outcome. -/
theorem fill_eq {requests : Nat → Request} {before : Bytes} : backend.fill requests before state
    = (((backend.exchange (requests before.length) state).1.outcome,
        before.patch 0 (backend.exchange (requests before.length) state).1.written),
      (backend.exchange (requests before.length) state).2) := rfl

end Backend

end Custody

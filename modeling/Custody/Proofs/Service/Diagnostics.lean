import Custody.Proofs.Service.Outcomes
import Custody.Proofs.Vault.History
import Custody.Proofs.Vault.Messages

/-!
# Diagnostics reach the failure that they belong to

The diagnostics of the vault are a queue of lines that a later call could find there. A call of the
service layer (`ServiceCall`) takes them on every negative status, so that it leaves the queue
empty when it found it empty, and a failure carries the line of its own native call or none
(`ServiceCall.Told`). Hence no line is ever stale, and none is missing, whatever the run of calls
(`ServiceCall.diagnostics_told`).

The invariant of a run is as small as it can be: the queue is empty between any two calls. It holds
because the one thing that puts a line into the queue is a native call that fails with a code of its
kind, and after a call that fails the service layer takes whatever is there before it does anything
else. For every method there is a lemma that its call is `Told`, and the run is an induction over
its calls.
-/

namespace Custody

variable {σ α : Type}

/-! ## Calls of the service layer -/

/-- A call of the service layer. -/
inductive ServiceCall
  /-- A request for a number. -/
  | number (request : Request)
  /-- A request for nothing but that it be done. -/
  | perform (request : Request)
  /-- A request for a new context. -/
  | allocate (request : Request)
  /-- A request for bytes, with the buffer before the call. -/
  | fill (request : Nat → Request) (before : Bytes)
  /-- A request for the algorithm of a key. -/
  | keyType (handle : Address)
  /-- A request for the truth about a signature. -/
  | verify (handle : Address) (signature : Bytes)
  /-- Frees a context. -/
  | dispose (domain : Held.Domain) (handle : Address)
  /-- Asks whether faults can be raised. -/
  | faultsAvailable
  /-- Raises or clears a fault. -/
  | setFault (flag : FaultFlag) (on : Bool)
  /-- Clears every fault. -/
  | resetFaults
  /-- Takes the pending diagnostics. -/
  | takeDiagnostics

/-- Why there is no result, if there is none. -/
def Abort.of? : Except Abort α → Option Abort
  | .ok _ => none
  | .error abort => some abort

namespace ServiceCall

/-- **Makes a service call.** What is told of it is how it ended early, if it did. -/
def make (backend : Backend σ) : ServiceCall → StateM σ (Option Abort)
  | number request => do return Abort.of? (← (backend.number request).outcome)
  | perform request => do return Abort.of? (← (backend.perform request).outcome)
  | allocate request => do return Abort.of? (← (backend.allocate request).outcome)
  | fill request before => do return Abort.of? (← backend.fill request before).1
  | keyType handle => do return Abort.of? (← (backend.keyType handle).outcome)
  | verify handle signature => do return Abort.of? (← (backend.verify handle signature).outcome)
  | dispose domain handle => do
    backend.dispose domain.disposal handle
    return none
  | faultsAvailable => do
    let _ ← backend.faultsAvailable
    return none
  | setFault flag on => do return Abort.of? (← (backend.setFault flag on).outcome)
  | resetFaults => do
    backend.resetFaults
    return none
  | takeDiagnostics => do
    let _ ← backend.takeDiagnostics
    return none

/-- What a service call asks of the library: a request, or a native call as it stands. -/
def asks : ServiceCall → Request ⊕ Call
  | number request | perform request | allocate request => .inl request
  | fill request before => .inl (request before.length)
  | keyType handle => .inl (.keyType handle)
  | verify handle signature => .inl (.signatureVerify handle signature)
  | dispose domain handle => .inr (domain.disposal handle)
  | faultsAvailable => .inr .faultsAvailable
  | setFault flag on => .inr (.faultSet flag.number (if on then 1 else 0))
  | resetFaults => .inr .faultsReset
  | takeDiagnostics => .inr (.drain none)

/-- **The native call that a service call stands for**, or the failure of the first argument that
has no form in the native interface. -/
def native (call : ServiceCall) : Except Failure Call :=
  match call.asks with
  | .inl request => request.call
  | .inr native => .ok native

/-- A reason with what a service call attempted in front, where that is told. -/
def explain (call : ServiceCall) (abort : Abort) : Abort :=
  match call.asks with
  | .inl request => request.explain abort
  | .inr _ => abort

/-- A service call as it went. -/
structure Turn (σ : Type) where
  /-- The library before it. -/
  before : σ
  /-- The call. -/
  call : ServiceCall
  /-- How it ended early, if it did. -/
  ending : Option Abort
  /-- The library after it. -/
  after : σ

/-- A service call as it goes with a library. -/
def turn (backend : Backend σ) (call : ServiceCall) (state : σ) : Turn σ :=
  ⟨state, call, (call.make backend state).1, (call.make backend state).2⟩

/-- **A run of service calls.** -/
def run (backend : Backend σ) : List ServiceCall → σ → List (Turn σ)
  | [], _ => []
  | call :: calls, state =>
    call.turn backend state :: run backend calls (call.turn backend state).after

end ServiceCall

/-! ## What is told -/

/-- **The failure of an argument** that has no form in the native interface. Where it has a code,
that does not ask for the text of the library, and its words are those of the code. -/
inductive Failure.OfArgument : Failure → Prop
  | name (detail : String) : OfArgument (.invalidArgument detail)
  | number {code : ErrorCode} (context : String) (hkind : code.kind ≠ .wrappedNativeError) :
    OfArgument (.native code.kind code (context ++ ": " ++ code.message))

/-- **How a call ends**, by the status of its native call and the lines that this call added to the
diagnostics. What was attempted may stand in front of the failure. -/
inductive Ends (explain : Abort → Abort) : Int32 → List String → Option Abort → Prop
  /-- A success adds no line, and does not end in a native failure. -/
  | well {status : Int32} {ending : Option Abort} (hstatus : 0 ≤ status)
    (hending : ∀ kind code detail, ending ≠ some (.failed (.native kind code detail))) :
    Ends explain status [] ending
  /-- A failure of any other kind than a wrapped native error adds no line, and has the bare words
  of its code. -/
  | bare {code : ErrorCode} (hkind : code.kind ≠ .wrappedNativeError) :
    Ends explain code.status [] (some (explain (.failed (.native code.kind code code.message))))
  /-- A wrapped native error adds one line, which says something, and carries it. -/
  | wrapped {code : ErrorCode} {line : String} (hkind : code.kind = .wrappedNativeError)
    (hline : line ≠ "") : Ends explain code.status [line]
      (some (explain (.failed (.native code.kind code (code.message ++ ": " ++ line)))))

/-- A success that tells no early end satisfies the rule. -/
theorem Ends.of_nonneg {explain : Abort → Abort} {status : Int32} (hstatus : 0 ≤ status) :
    Ends explain status [] none :=
  .well hstatus fun _ _ _ => (Option.some_ne_none _).symm

namespace ServiceCall

/-- **A service call of which all is told.** -/
structure Told (turn : Turn Session) : Prop where
  /-- It leaves no diagnostics. -/
  emptied : turn.after.vault.diagnostics = []
  /-- Without a form in the native interface it does nothing, and fails by an argument. -/
  unmade : ∀ failure, turn.call.native = .error failure →
    turn.after = turn.before ∧ turn.ending = some (.failed failure) ∧ failure.OfArgument
  /-- Otherwise its native call is made, the lines that this adds are taken, and the call ends as
  the status and those lines tell. -/
  made : ∀ native, turn.call.native = .ok native →
    let answer := turn.before.vault.answer (turn.before.supply turn.before.calls) native
    turn.after.vault = answer.2.saying []
      ∧ Ends turn.call.explain answer.1.status answer.2.diagnostics turn.ending

end ServiceCall

/-! ## Arguments -/

namespace Request

/-- A form of a request: a failure is that of an argument, and a call is not for diagnostics. -/
structure Formed (result : Except Failure Call) : Prop where
  /-- The failure of an argument. -/
  failure : ∀ failure, result = .error failure → failure.OfArgument
  /-- Another call. -/
  call : ∀ call capacity, result = .ok call → call ≠ .drain capacity

/-- An argument that fails as arguments do. -/
def Argued (argument : Except Failure α) : Prop :=
  ∀ failure, argument = .error failure → failure.OfArgument

/-- An argument that is made out of others. -/
theorem Argued.bind {β : Type} {argument : Except Failure α} {rest : α → Except Failure β}
    (h : Argued argument) (hrest : ∀ a, Argued (rest a)) : Argued (argument >>= rest) := by
  cases argument with
  | error failure =>
    rintro _ ⟨⟩
    exact h failure rfl
  | ok a => exact hrest a

theorem argued_ok (a : α) : Argued (.ok a) := forall_error_of_ok a

/-- A number that does not fit is no failure of the native library. -/
theorem argued_numberArgument {code : ErrorCode} (hkind : code.kind ≠ .wrappedNativeError)
    (what : String) (n : Nat) : Argued (numberArgument code what n) := by
  unfold numberArgument
  split
  · exact argued_ok _
  · rintro _ ⟨⟩
    exact .number _ hkind

/-- A name with a zero byte in it is no failure of the native library. -/
theorem argued_nameArgument (name : String) : Argued (nameArgument name) := by
  unfold nameArgument
  split
  · rintro _ ⟨⟩
    exact .name _
  · exact argued_ok _

theorem argued_inputNumber (what : String) (n : Nat) : Argued (inputNumber what n) :=
  argued_numberArgument (by decide) what n

theorem argued_partArgument (data : Bytes) (offset len : Nat) :
    Argued (partArgument data offset len) :=
  (argued_inputNumber _ _).bind fun _ => (argued_inputNumber _ _).bind fun _ => argued_ok _

theorem argued_outputArgument (size : Nat) : Argued (outputArgument size) :=
  (argued_numberArgument (by decide) _ _).bind fun _ => argued_ok _

namespace Formed

theorem ok {call : Call} (h : ∀ capacity, call ≠ .drain capacity) : Formed (.ok call) := by
  refine ⟨forall_error_of_ok call, ?_⟩
  rintro _ capacity ⟨⟩
  exact h capacity

theorem bind {argument : Except Failure α} {rest : α → Except Failure Call}
    (h : Argued argument) (hrest : ∀ a, Formed (rest a)) : Formed (argument >>= rest) := by
  cases argument with
  | error failure =>
    refine ⟨h.bind (β := Call) fun a => (hrest a).failure, ?_⟩
    rintro _ capacity ⟨⟩
  | ok a => exact hrest a

end Formed

/-- **Every request is formed so.** -/
theorem formed_call (request : Request) : Formed request.call := by
  cases request with
  | digestAllocate name outputLength =>
    exact .bind (argued_nameArgument _) fun _ => .bind (argued_inputNumber _ _) fun _ => .ok nofun
  | digestFeed handle data offset len | signatureFeed handle data offset len =>
    exact .bind (argued_partArgument _ _ _) fun _ => .ok nofun
  | signatureVerify handle signature => exact .bind (argued_partArgument _ _ _) fun _ => .ok nofun
  | digestFinish handle size | encapsulate key size | signatureSign handle size =>
    exact .bind (argued_outputArgument _) fun _ => .ok nofun
  | keyDecode handle part type data =>
    refine .bind (argued_partArgument _ _ _) fun _ => .ok ?_
    cases part <;> exact nofun
  | keyEncodedLength handle part =>
    refine .ok ?_
    cases part <;> exact nofun
  | keyEncode handle part size =>
    refine .bind (argued_outputArgument _) fun _ => .ok ?_
    cases part <;> exact nofun
  | decapsulate key ciphertext size =>
    exact .bind (argued_partArgument _ _ _) fun _ => .bind (argued_outputArgument _) fun _ =>
      .ok nofun
  | pbkdf2 digest password salt iterations size =>
    exact .bind (argued_nameArgument _) fun _ => .bind (argued_inputNumber _ _) fun _ =>
      .bind (argued_partArgument _ _ _) fun _ => .bind (argued_partArgument _ _ _) fun _ =>
        .bind (argued_outputArgument _) fun _ => .ok nofun
  | hkdf digest material salt info size =>
    exact .bind (argued_nameArgument _) fun _ => .bind (argued_partArgument _ _ _) fun _ =>
      .bind (argued_partArgument _ _ _) fun _ => .bind (argued_partArgument _ _ _) fun _ =>
        .bind (argued_outputArgument _) fun _ => .ok nofun
  | scrypt password salt n r p size =>
    exact .bind (argued_inputNumber _ _) fun _ => .bind (argued_inputNumber _ _) fun _ =>
      .bind (argued_inputNumber _ _) fun _ => .bind (argued_partArgument _ _ _) fun _ =>
        .bind (argued_partArgument _ _ _) fun _ => .bind (argued_outputArgument _) fun _ =>
          .ok nofun
  | _ => exact .ok nofun

end Request

/-! ## Taking the diagnostics -/

section Backend

variable {kind : BackendKind} {session : Session} {line : String}

/-- The diagnostics are taken by a question for their length and a call that drains them. -/
theorem takeDiagnostics_vault : (Library.vault kind).backend.takeDiagnostics session
    = let status := Vault.lengthStatus session.vault.pending.length
      let taken := session.vault.pending.take (min status.toInt.toNat (wordLimit - 1))
      if status ≤ 0 then ("", { session with calls := session.calls + 1 })
      else (Text.utf8DecodeLossy ((Bytes.zeros
            (min status.toInt.toNat (Vault.lengthStatus taken.length).toInt.toNat)).patch 0 taken),
          { session with vault := session.vault.saying [], calls := session.calls + 2 }) :=
  Backend.takeDiagnostics_eq _ session

/-- Nothing is taken from an empty queue. -/
theorem takeDiagnostics_of_nil (h : session.vault.diagnostics = []) :
    (Library.vault kind).backend.takeDiagnostics session
      = ("", { session with calls := session.calls + 1 }) := by
  rw [takeDiagnostics_vault, Vault.pending_of_nil h]
  exact if_pos (by decide)

/-- **The only line in the queue is taken as it is**, and the queue is empty then. -/
theorem takeDiagnostics_of_line (h : session.vault.diagnostics = [line])
    (hline : Vault.IsLine line) :
    (Library.vault kind).backend.takeDiagnostics session
      = (line, { session with vault := session.vault.saying [], calls := session.calls + 2 }) := by
  obtain ⟨hpos, hshort⟩ := hline.length_utf8
  have hpending : session.vault.pending = Text.utf8 line := Vault.pending_of_line h
  have hread : Text.utf8DecodeLossy (Text.utf8 line) = line := Text.utf8DecodeLossy_utf8 line
  generalize Text.utf8 line = bytes at hpos hshort hpending hread
  have hmin : min bytes.length (wordLimit - 1) = bytes.length :=
    Nat.min_eq_left (by simp only [wordLimit]; omega)
  have hstatus : (Vault.lengthStatus bytes.length).toInt = bytes.length := by
    rw [Vault.lengthStatus, hmin, Int32.toInt_ofNat_of_lt (by omega)]
  have hpatch : (Bytes.zeros bytes.length).patch 0 bytes = bytes := by
    simp [Bytes.patch, Bytes.zeros]
  rw [takeDiagnostics_vault, hpending]
  dsimp only
  rw [if_neg, hstatus, Int.toNat_natCast, hmin, List.take_length, hstatus, Int.toNat_natCast,
    Nat.min_self, hpatch, hread]
  · rw [Int32.le_iff_toInt_le, hstatus]
    exact Int.not_le.mpr (Int.natCast_pos.mpr hpos)

/-! ## Requests -/

variable {request : Request} {native : Call}

/-- **A request tells all**, when it is put to a library without diagnostics. -/
theorem ends_exchange (hempty : session.vault.diagnostics = [])
    (hcall : request.call = .ok native) :
    ((Library.vault kind).backend.exchange request session).2.vault
        = (session.vault.answer (session.supply session.calls) native).2.saying []
      ∧ Ends request.explain (session.vault.answer (session.supply session.calls) native).1.status
          (session.vault.answer (session.supply session.calls) native).2.diagnostics
          (Abort.of? ((Library.vault kind).backend.exchange request session).1.outcome) := by
  have hdrain (capacity : Option Nat) : native ≠ .drain capacity :=
    (request.formed_call).call native capacity hcall
  obtain ⟨lines, hlines, hwent⟩ :=
    Vault.went_answer hdrain session.vault (session.supply session.calls)
  rw [hempty, List.nil_append] at hlines
  have hsubmit : (Library.vault kind).backend.submit native session
      = ((session.vault.answer (session.supply session.calls) native).1,
        ⟨(session.vault.answer (session.supply session.calls) native).2, session.supply,
          session.calls + 1⟩) := rfl
  generalize session.vault.answer (session.supply session.calls) native = answer at *
  obtain ⟨⟨status, handle, written⟩, vault⟩ := answer
  dsimp only at *
  by_cases hstatus : 0 ≤ status
  · obtain rfl := hwent.eq_nil hstatus
    rw [Backend.exchange_of_nonneg _ hcall (by rw [hsubmit]; exact hstatus), hsubmit, hlines]
    exact ⟨(Vault.saying_diagnostics hlines).symm, .of_nonneg hstatus⟩
  · rw [Backend.exchange_of_neg _ hcall (by rw [hsubmit]; exact Int32.not_le.mp hstatus), hsubmit,
      hlines]
    cases hwent with
    | well h => exact absurd h hstatus
    | silent hcode =>
      rw [takeDiagnostics_of_nil hlines, Abort.ofStatus_status, ErrorCode.detail_of_not_wants hcode]
      exact ⟨(Vault.saying_diagnostics hlines).symm, .bare (of_decide_eq_false hcode)⟩
    | saying hcode hline =>
      rw [takeDiagnostics_of_line hlines hline, Abort.ofStatus_status,
        ErrorCode.detail_of_wants hcode hline.ne_empty]
      exact ⟨rfl, .wrapped (of_decide_eq_true hcode) hline.ne_empty⟩

end Backend

/-! ## Service calls -/

/-- A call that ends well may be answered with whatever is no failure of the native library. -/
theorem Ends.of_none {explain : Abort → Abort} {status : Int32} {lines : List String}
    {ending : Option Abort} (h : Ends explain status lines none)
    (hending : ∀ kind code detail, ending ≠ some (.failed (.native kind code detail))) :
    Ends explain status lines ending := by
  cases h with
  | well hstatus => exact .well hstatus hending

namespace ServiceCall

variable {kind : BackendKind} {session : Session} {call : ServiceCall} {request : Request}

/-- What ends with a value is no failure of the native library. -/
theorem not_native_of_ok {result : Except Abort α} {a : α} (h : result = .ok a) :
    ∀ kind code detail, result ≠ .error (.failed (.native kind code detail)) := by
  intro kind code detail herror
  cases h.symm.trans herror

/-- **A service call that makes a request** tells all, if it fails as the request does and not in
another native failure. -/
theorem told_of_exchange (result : Except Abort α) (hasks : call.asks = .inl request)
    (hempty : session.vault.diagnostics = [])
    (hmake : call.make (Library.vault kind).backend session
      = (Abort.of? result, ((Library.vault kind).backend.exchange request session).2))
    (herror : ∀ abort,
      ((Library.vault kind).backend.exchange request session).1.outcome = .error abort →
      result = .error abort)
    (hok : ∀ n, ((Library.vault kind).backend.exchange request session).1.outcome = .ok n →
      ∀ kind code detail, result ≠ .error (.failed (.native kind code detail))) :
    Told (turn (Library.vault kind).backend call session) := by
  have hnative : call.native = request.call := by rw [native, hasks]
  have hexplain : call.explain = request.explain := by
    funext abort
    rw [explain, hasks]
  rw [turn, hmake]
  cases hcall : request.call with
  | error failure =>
    -- There is no native call, and nothing to be told but the argument that does not fit.
    rw [Library.exchange_of_error _ _ _ hcall] at herror ⊢
    refine ⟨hempty, fun failure' h => ?_, fun native h => ?_⟩
    · obtain rfl : failure = failure' := Except.error.inj (hcall.symm.trans (hnative.symm.trans h))
      rw [herror _ rfl]
      exact ⟨rfl, rfl, request.formed_call.failure failure hcall⟩
    · cases hcall.symm.trans (hnative.symm.trans h)
  | ok native =>
    obtain ⟨hvault, hends⟩ :
        ((Library.vault kind).backend.exchange request session).2.vault = _ ∧ _ :=
      ends_exchange hempty hcall
    refine ⟨congrArg Vault.diagnostics hvault, fun failure h => ?_, fun native' h => ?_⟩
    · cases hcall.symm.trans (hnative.symm.trans h)
    · obtain rfl : native = native' := Except.ok.inj (hcall.symm.trans (hnative.symm.trans h))
      refine ⟨hvault, ?_⟩
      dsimp only
      rw [hexplain]
      cases houtcome : ((Library.vault kind).backend.exchange request session).1.outcome with
      | error abort =>
        rw [herror abort houtcome]
        rwa [houtcome] at hends
      | ok n =>
        rw [houtcome] at hends
        refine hends.of_none fun kind code detail h => hok n houtcome kind code detail ?_
        cases result with
        | ok a => cases h
        | error abort => exact congrArg Except.error (Option.some.inj h)

/-- **A service call that is a native call** tells all, if that is granted and adds no
diagnostics. -/
theorem told_of_grant {native : Call} {grant : Vault.Grant} (hasks : call.asks = .inr native)
    (hverdict : session.vault.verdict (session.supply session.calls) native = .ok grant)
    (hadds : grant.vault.diagnostics = [])
    (hmake : ((call.make (Library.vault kind).backend session).1,
      (call.make (Library.vault kind).backend session).2.vault) = (none, grant.vault)) :
    Told (turn (Library.vault kind).backend call session) := by
  obtain ⟨hending, hafter⟩ := Prod.mk.inj hmake
  have hnative : call.native = .ok native := by rw [ServiceCall.native, hasks]
  refine ⟨(congrArg Vault.diagnostics hafter).trans hadds, fun failure h => ?_,
    fun native' h => ?_⟩
  · cases hnative.symm.trans h
  · obtain rfl : native = native' := Except.ok.inj (hnative.symm.trans h)
    show (call.make (Library.vault kind).backend session).2.vault
        = (session.vault.answer (session.supply session.calls) native).2.saying []
      ∧ Ends call.explain (session.vault.answer (session.supply session.calls) native).1.status
        (session.vault.answer (session.supply session.calls) native).2.diagnostics
        (call.make (Library.vault kind).backend session).1
    rw [hending, Vault.answer_of_ok hverdict, hadds]
    exact ⟨hafter.trans (Vault.saying_diagnostics hadds).symm,
      .of_nonneg (Vault.effect_of_verdict hverdict).nonneg⟩

/-- A request for a number. -/
theorem told_number (hempty : session.vault.diagnostics = []) (request : Request) :
    Told (turn (Library.vault kind).backend (.number request) session) :=
  told_of_exchange ((Library.vault kind).backend.exchange request session).1.outcome rfl hempty rfl
    (fun _ h => h) fun _ h => not_native_of_ok h

/-- A request that is only to be carried out. -/
theorem told_perform (hempty : session.vault.diagnostics = []) (request : Request) :
    Told (turn (Library.vault kind).backend (.perform request) session) := by
  refine told_of_exchange (((Library.vault kind).backend.exchange request session).1.outcome.map
    fun _ => ()) rfl hempty ?_ (fun abort h => by rw [h]; rfl)
      fun _ h => not_native_of_ok (by rw [h]; rfl)
  show (Abort.of? ((Library.vault kind).backend.perform request session).1,
    ((Library.vault kind).backend.perform request session).2) = _
  rw [Backend.perform_eq]

/-- A request for a context, which may fail after its call, when no address was given. -/
theorem told_allocate (hempty : session.vault.diagnostics = []) (request : Request) :
    Told (turn (Library.vault kind).backend (.allocate request) session) := by
  refine told_of_exchange ((Library.vault kind).backend.allocate request session).1 rfl hempty ?_
    (fun abort h => ?_) fun n h => ?_
  · show (Abort.of? ((Library.vault kind).backend.allocate request session).1,
      ((Library.vault kind).backend.allocate request session).2) = _
    rw [Library.allocate_eq]
  · rw [Library.allocate_eq, h]
  · rw [Library.allocate_eq, h]
    dsimp only
    split
    · nofun
    · nofun

/-- A request that fills a buffer. -/
theorem told_fill (hempty : session.vault.diagnostics = []) (request : Nat → Request)
    (before : Bytes) : Told (turn (Library.vault kind).backend (.fill request before) session) :=
  told_of_exchange ((Library.vault kind).backend.exchange (request before.length) session).1.outcome
    rfl hempty rfl (fun _ h => h) fun _ h => not_native_of_ok h

/-- A service call that reads something into a number, and may fail where that means nothing. -/
theorem told_of_number (act : Act Session α) {rest : Nat → Act Session α}
    (result : Nat → Except Abort α) (hasks : call.asks = .inl request)
    (hempty : session.vault.diagnostics = [])
    (hmake : call.make (Library.vault kind).backend session
      = (Abort.of? (act session).1, (act session).2))
    (hact : act = ((Library.vault kind).backend.number request >>= rest))
    (hrest : ∀ n s, rest n s = (result n, s))
    (hresult : ∀ n kind code detail, result n ≠ .error (.failed (.native kind code detail))) :
    Told (turn (Library.vault kind).backend call session) := by
  have hnumber : (Library.vault kind).backend.number request session = _ := Backend.number_eq _
  have hafter : (act session).2 = ((Library.vault kind).backend.exchange request session).2 := by
    cases houtcome : ((Library.vault kind).backend.exchange request session).1.outcome with
    | error abort =>
      rw [houtcome] at hnumber
      rw [hact, Act.bind_of_error hnumber]
    | ok n =>
      rw [houtcome] at hnumber
      rw [hact, Act.bind_of_ok hnumber, hrest]
  refine told_of_exchange (act session).1 hasks hempty (by rw [hmake, hafter]) (fun abort h => ?_)
    fun n h => ?_
  · rw [h] at hnumber
    rw [hact, Act.bind_of_error hnumber]
  · rw [h] at hnumber
    rw [hact, Act.bind_of_ok hnumber, hrest]
    exact hresult n

/-- The algorithm that a number stands for. -/
def keyTypeOf (raw : Nat) : Except Abort KeyType :=
  match KeyType.ofNumber? (Int32.ofNat raw) with
  | some type => .ok type
  | none => .error (.failed (.contractViolation ("unknown key type " ++ toString raw)))

/-- The truth that a number stands for. -/
def truthOf : Nat → Except Abort Bool
  | 0 => .ok false
  | 1 => .ok true
  | other => .error (.failed (.contractViolation
      ("verify returned " ++ toString other ++ ", expected 0 or 1")))

/-- A type that nobody knows is a failure without a line. -/
theorem told_keyType (hempty : session.vault.diagnostics = []) (handle : Address) :
    Told (turn (Library.vault kind).backend (.keyType handle) session) := by
  refine told_of_number ((Library.vault kind).backend.keyType handle) keyTypeOf rfl hempty rfl rfl
    (fun raw s => ?_) fun raw kind code detail h => ?_
  · unfold keyTypeOf
    cases KeyType.ofNumber? (Int32.ofNat raw) with
    | none => rfl
    | some type => rfl
  · unfold keyTypeOf at h
    cases htype : KeyType.ofNumber? (Int32.ofNat raw) with
    | none =>
      rw [htype] at h
      cases h
    | some type =>
      rw [htype] at h
      cases h

/-- A verdict that is neither 0 nor 1 is one, too. -/
theorem told_verify (hempty : session.vault.diagnostics = []) (handle : Address)
    (signature : Bytes) :
    Told (turn (Library.vault kind).backend (.verify handle signature) session) := by
  refine told_of_number ((Library.vault kind).backend.verify handle signature) truthOf rfl hempty
    rfl rfl (fun raw s => ?_) fun raw kind code detail h => ?_
  · rcases raw with - | - | raw
    · rfl
    · rfl
    · rfl
  · rcases raw with - | - | raw
    · cases h
    · cases h
    · cases h

/-- To free a context pushes no line. -/
theorem told_dispose (hempty : session.vault.diagnostics = []) (domain : Held.Domain)
    (handle : Address) :
    Told (turn (Library.vault kind).backend (.dispose domain handle) session) := by
  have hverdict := session.vault.verdict_disposal (session.supply session.calls) domain handle
  refine told_of_grant rfl hverdict ?_ ?_
  · unfold Vault.disposed
    split
    · exact hempty
    · exact hempty
  · exact congrArg (none, ·.2) (Vault.answer_of_ok hverdict)

/-- To set a fault pushes none. -/
theorem told_setFault (hempty : session.vault.diagnostics = []) (flag : FaultFlag) (on : Bool) :
    Told (turn (Library.vault kind).backend (.setFault flag on) session) := by
  refine told_of_grant rfl (session.vault.verdict_faultSet _ flag _) hempty ?_
  have havailable : Act.ofState (Library.vault kind).backend.faultsAvailable session
      = (.ok true, { session with calls := session.calls + 1 }) := rfl
  have hset : Act.ofState ((Library.vault kind).backend.submit
        (.faultSet flag.number (if on then 1 else 0))) { session with calls := session.calls + 1 }
      = (.ok (.bare 0), ⟨session.vault.withFault flag ((if on then 1 else 0 : Int32) ≠ 0),
          session.supply, session.calls + 2⟩) := by
    show (Except.ok (session.vault.answer _ _).1,
      (⟨(session.vault.answer _ _).2, session.supply, session.calls + 2⟩ : Session)) = _
    rw [Vault.answer_of_ok (session.vault.verdict_faultSet _ flag _)]
    rfl
  show (Abort.of? ((Library.vault kind).backend.setFault flag on session).1,
    ((Library.vault kind).backend.setFault flag on session).2.vault) = _
  rw [Backend.setFault, Act.bind_of_ok havailable, if_pos rfl, Act.bind_of_ok hset]
  rfl

/-- There is nothing to take from an empty queue. -/
theorem told_takeDiagnostics (hempty : session.vault.diagnostics = []) :
    Told (turn (Library.vault kind).backend .takeDiagnostics session) := by
  have htake : (Library.vault kind).backend.takeDiagnostics session = _ :=
    takeDiagnostics_of_nil hempty
  refine told_of_grant rfl rfl hempty ?_
  show (none, ((Library.vault kind).backend.takeDiagnostics session).2.vault) = _
  rw [htake]
  rfl

/-- **Every call of the services is told**, from an empty queue to an empty queue. -/
theorem told_turn (hempty : session.vault.diagnostics = []) (call : ServiceCall) :
    Told (turn (Library.vault kind).backend call session) := by
  cases call with
  | number request => exact told_number hempty request
  | perform request => exact told_perform hempty request
  | allocate request => exact told_allocate hempty request
  | fill request before => exact told_fill hempty request before
  | keyType handle => exact told_keyType hempty handle
  | verify handle signature => exact told_verify hempty handle signature
  | dispose domain handle => exact told_dispose hempty domain handle
  | faultsAvailable => exact told_of_grant rfl rfl hempty rfl
  | setFault flag on => exact told_setFault hempty flag on
  | resetFaults => exact told_of_grant rfl rfl hempty rfl
  | takeDiagnostics => exact told_takeDiagnostics hempty

/-- **Diagnostics are never stale and never missing.** In a run of service calls to the vault that
starts without diagnostics, every call leaves none; its native call adds one line that says
something where its status is that of a wrapped native error, and none otherwise; and a call that
ends in a native failure carries that line behind the words of its code, or the bare words. -/
theorem diagnostics_told (kind : BackendKind) (calls : List ServiceCall) (session : Session)
    (hempty : session.vault.diagnostics = []) :
    ∀ turn ∈ run (Library.vault kind).backend calls session, Told turn := by
  induction calls generalizing session with
  | nil => exact List.forall_mem_nil Told
  | cons call calls ih =>
    have hturn : Told (call.turn (Library.vault kind).backend session) := told_turn hempty call
    rw [run, List.forall_mem_cons]
    exact ⟨hturn, ih _ hturn.emptied⟩

/-- A run in which an algorithm of fixed length is asked for five bytes, and then a digest is asked
for its length that is not there. -/
def exampleCalls : List ServiceCall :=
  [.allocate (.digestAllocate "sha1" 5), .number (.digestLength 7)]

/-- A library before its first call. -/
def exampleSession : Session := .start fun _ => Vault.supplyOf 1

/-- Only the first call has something to say, and only its failure carries that. -/
theorem diagnostics_told_exampleCalls :
    (∀ turn ∈ run (Library.vault .dispatch).backend exampleCalls exampleSession, Told turn)
    ∧ (run (Library.vault .dispatch).backend exampleCalls exampleSession).map Turn.ending
      = [some (.failed (.native .wrappedNativeError .setParamFailed
          ("digest \"sha1\": unable to set native parameter: "
            ++ "sha1 is not an XOF, output length is fixed"))),
        some (.failed (.native .stateCorruption .invalidHandle "invalid native handle"))] := by
  refine ⟨diagnostics_told .dispatch exampleCalls exampleSession rfl, ?_⟩
  decide +kernel

end ServiceCall

end Custody

import Custody.Proofs.Service.Outcomes
import Custody.Proofs.Vault.Contract

/-!
# Requests that keep to the contract

An early end is excused unless it says that the contract was broken (`Abort.Excused`). Where no
fault is raised, a request to the vault that is made with contexts that are there, of the right kind
and prepared for it, has an excused outcome (`Session.keeps_exchange`), and so have the few
actions that clear faults. All of them leave no fault raised and every signature context with the
role that it had, except for one that they prepare or hand out (`Session.Upholds`).

The early ends that have to be ruled out come from three sides: from an argument that has no form in
the native interface, for which the caller is to blame; from the library, which keeps to the
contract by `Vault.fine_answer`; and from the service layer itself, where it is given a status, a
length or a type that it does not know. For the last of these each request has a lemma on the
numbers that the vault can report for it.
-/

namespace Custody

open Held Vault

variable {α β γ : Type} {own : Option String}

/-! ## Excuses -/

/-- **An early end that is excused**: a failure that does not say that the contract was broken, or
the panic that somebody has brought along. -/
def Abort.Excused (own : Option String) : Abort → Prop
  | failed failure => failure.errorClass ≠ .contractViolation
  | panicked message => own = some message

/-- A failure belongs to the same class in every context. -/
@[simp] theorem Failure.errorClass_withContext (context : String) (failure : Failure) :
    (failure.withContext context).errorClass = failure.errorClass := by
  cases failure <;> rfl

/-- What was attempted changes nothing about who is to blame. -/
theorem Abort.Excused.explain {abort : Abort} (h : abort.Excused own) (request : Request) :
    (request.explain abort).Excused own := by
  unfold Request.explain
  cases request.context? with
  | none => exact h
  | some context =>
    cases abort with
    | failed failure =>
      show (failure.withContext context).errorClass ≠ .contractViolation
      rwa [Failure.errorClass_withContext]
    | panicked message => exact h

/-- **The end that a code within the contract leads to.** -/
theorem Abort.excused_ofStatus {code : ErrorCode} (h : code.breaksContract = false)
    (diagnostics : String) : (Abort.ofStatus code.status diagnostics).Excused own := by
  rw [Abort.ofStatus_status]
  exact of_decide_eq_false h

/-! ## Arguments -/

namespace Request

/-- An argument that is refused, if it is, because of what the caller gave. -/
def BlamesCaller (argument : Except Failure γ) : Prop :=
  ∀ failure, argument = .error failure → failure.errorClass = .inputValidation

namespace BlamesCaller

theorem ok (a : γ) : BlamesCaller (.ok a : Except Failure γ) := forall_error_of_ok a

/-- Of several arguments, the first that does not fit is blamed. -/
theorem bind {δ : Type} {argument : Except Failure γ} {rest : γ → Except Failure δ}
    (h : BlamesCaller argument) (hrest : ∀ a, BlamesCaller (rest a)) :
    BlamesCaller (argument >>= rest) := by
  cases argument with
  | ok a => exact hrest a
  | error failure =>
    rintro _ ⟨⟩
    exact h failure rfl

/-- A name with a zero byte. -/
theorem nameArgument (name : String) : BlamesCaller (nameArgument name) := by
  unfold Request.nameArgument
  split
  · rintro _ ⟨⟩
    rfl
  · exact ok _

/-- A number that no word can hold. -/
theorem numberArgument {code : ErrorCode} (h : code.kind.errorClass = .inputValidation)
    (what : String) (n : Nat) : BlamesCaller (numberArgument code what n) := by
  unfold Request.numberArgument
  split
  · exact ok _
  · rintro _ ⟨⟩
    rw [Failure.errorClass_withContext]
    exact h

theorem inputNumber (what : String) (n : Nat) : BlamesCaller (inputNumber what n) :=
  numberArgument rfl what n

theorem partArgument (data : Bytes) (offset len : Nat) :
    BlamesCaller (partArgument data offset len) :=
  bind (inputNumber _ _) fun _ => bind (inputNumber _ _) fun _ => ok _

theorem wholeArgument (data : Bytes) : BlamesCaller (wholeArgument data) := partArgument data 0 _

theorem outputArgument (size : Nat) : BlamesCaller (outputArgument size) :=
  bind (numberArgument rfl _ _) fun _ => ok _

/-- **A request that has no form in the native interface** is one of the caller. -/
theorem call (request : Request) : BlamesCaller request.call := by
  cases request with
  | digestAllocate => exact bind (nameArgument _) fun _ => bind (inputNumber _ _) fun _ => ok _
  | digestFeed | signatureFeed => exact bind (partArgument _ _ _) fun _ => ok _
  | digestFinish | keyEncode | encapsulate | signatureSign =>
    exact bind (outputArgument _) fun _ => ok _
  | keyDecode | signatureVerify => exact bind (wholeArgument _) fun _ => ok _
  | decapsulate => exact bind (wholeArgument _) fun _ => bind (outputArgument _) fun _ => ok _
  | pbkdf2 =>
    exact bind (nameArgument _) fun _ => bind (inputNumber _ _) fun _ =>
      bind (wholeArgument _) fun _ => bind (wholeArgument _) fun _ =>
        bind (outputArgument _) fun _ => ok _
  | hkdf =>
    exact bind (nameArgument _) fun _ => bind (wholeArgument _) fun _ =>
      bind (wholeArgument _) fun _ => bind (wholeArgument _) fun _ =>
        bind (outputArgument _) fun _ => ok _
  | scrypt =>
    exact bind (inputNumber _ _) fun _ => bind (inputNumber _ _) fun _ =>
      bind (inputNumber _ _) fun _ => bind (wholeArgument _) fun _ =>
        bind (wholeArgument _) fun _ => bind (outputArgument _) fun _ => ok _
  | _ => exact ok _

end BlamesCaller

/-! ## What a request says of signature contexts -/

/-- The role that a request gives to a signature context, if it succeeds. -/
def assigns? : Request → Option (Address × Role)
  | signatureInitSign handle _ => some (handle, .signs)
  | signatureInitVerify handle _ => some (handle, .checks)
  | _ => none

/-- The signature context that a request is for, with the roles of which it has to have one. -/
def needs? : Request → Option (Address × List Role)
  | signatureFeed handle _ _ _ => some (handle, [.signs, .checks])
  | signatureLength handle | signatureSign handle _ => some (handle, [.signs])
  | signatureVerify handle _ => some (handle, [.checks])
  | _ => none

/-- A request that allocates is for no signature context. -/
theorem roles_of_makes? {request : Request} {domain : Domain} (h : request.makes? = some domain) :
    request.assigns? = none ∧ request.needs? = none := by
  cases request <;> first | exact ⟨rfl, rfl⟩ | cases h

/-- The call of a request says the same of signature contexts, and raises no fault. -/
structure Conforms (request : Request) (call : Call) : Prop where
  /-- It gives the same role. -/
  assigns : call.assigns? = request.assigns?
  /-- It asks for the same role. -/
  needs : call.needs? = request.needs?
  /-- It raises no fault. -/
  fault : ∀ flag on, call ≠ .faultSet flag on

theorem conforms_bind {request : Request} {call : Call} {argument : Except Failure γ}
    {rest : γ → Except Failure Call} (h : (argument >>= rest) = .ok call)
    (hrest : ∀ a, rest a = .ok call → request.Conforms call) : request.Conforms call := by
  cases argument with
  | error failure => cases h
  | ok a => exact hrest a h

theorem conforms_of_ok {request : Request} {call call' : Call}
    (h : (.ok call' : Except Failure Call) = .ok call)
    (hconforms : request.Conforms call') : request.Conforms call := by
  cases h
  exact hconforms

/-- **Every request conforms** to its call, once its arguments are right. -/
theorem conforms_call {request : Request} {call : Call} (h : request.call = .ok call) :
    request.Conforms call := by
  cases request with
  | digestAllocate | pbkdf2 | hkdf | scrypt | decapsulate =>
    repeat refine conforms_bind h fun a h => ?_
    exact conforms_of_ok h ⟨rfl, rfl, nofun⟩
  | digestFeed | digestFinish | encapsulate | signatureFeed | signatureSign | signatureVerify =>
    exact conforms_bind h fun _ h => conforms_of_ok h ⟨rfl, rfl, nofun⟩
  | keyDecode handle part =>
    refine conforms_bind h fun _ h => conforms_of_ok h ?_
    cases part <;> exact ⟨rfl, rfl, nofun⟩
  | keyEncodedLength handle part =>
    refine conforms_of_ok h ?_
    cases part <;> exact ⟨rfl, rfl, nofun⟩
  | keyEncode handle part =>
    refine conforms_bind h fun _ h => conforms_of_ok h ?_
    cases part <;> exact ⟨rfl, rfl, nofun⟩
  | _ => exact conforms_of_ok h ⟨rfl, rfl, nofun⟩

/-- **A request that is made as it should be.** -/
structure Suits (request : Request) (vault : Vault) : Prop where
  /-- The contexts that it is made with are there, and of the right kind. -/
  targets : ∀ target ∈ request.targets, vault.kindAt target.1 = some target.2
  /-- The signature context that it is for is prepared for it. -/
  role : ∀ need ∈ request.needs?, ∃ role ∈ need.2, vault.roleAt need.1 = some role

/-- **A request that suits the library** makes a call that suits it. -/
theorem Suits.call {request : Request} {vault : Vault} {call : Call} (h : request.Suits vault)
    (hcall : request.call = .ok call) : vault.Suits call where
  targets := (agrees_call hcall).2.2 ▸ h.targets
  role := (conforms_call hcall).needs ▸ h.role
  fault flag on heq := absurd heq ((conforms_call hcall).fault flag on)

end Request

/-! ## What is kept -/

/-- **A session in which signature contexts have kept their roles**, apart from some addresses, and
in which no fault has been raised. -/
structure Session.Upholds (exempt : List Address) (session session' : Session) : Prop where
  /-- What had a role has it still. -/
  roles : ∀ address role, address ∉ exempt → session.vault.roleAt address = some role →
    session'.vault.roleAt address = some role
  /-- No fault has been raised. -/
  faultless : session.vault.Faultless → session'.vault.Faultless

namespace Session

variable {kind : BackendKind} {request : Request} {call : Call} {recorded : Recorded Session}
  {exempt : List Address}

namespace Upholds

theorem refl (session : Session) : session.Upholds exempt session :=
  ⟨fun _ _ _ h => h, fun h => h⟩

/-- What is done after an exempt context was changed has to leave it alone. -/
theorem trans {first second third : Session} (h : first.Upholds exempt second)
    (h' : second.Upholds [] third) : first.Upholds exempt third :=
  ⟨fun address role hout hrole =>
      h'.roles address role List.not_mem_nil (h.roles address role hout hrole),
    fun hfaultless => h'.faultless (h.faultless hfaultless)⟩

end Upholds

/-- The signature contexts that a call prepares or hands out. -/
def touched (call : Call) (reply : Reply) : List Address :=
  (call.assigns?.map Prod.fst).toList ++ reply.handle.toList

/-- **A call that is made as it should be**, and frees nothing. -/
theorem upholds_submit {session : Session} (hfaultless : session.vault.Faultless)
    (hsuits : session.vault.Suits call) (hfrees : call.frees? = none) :
    session.Upholds (touched call (session.submit call).1) (session.submit call).2 := by
  refine ⟨fun address role hout hrole => ?_, fun _ => faultless_answer hfaultless hsuits⟩
  rw [touched, List.mem_append, not_or, Option.mem_toList, Option.mem_toList] at hout
  have hfrees' : call.frees? ≠ some (address, .signature) := by
    rw [hfrees]
    exact nofun
  exact roleAt_answer hrole hout.1 hfrees' hout.2

/-- A call that is for no context suits every library if it raises no fault. -/
theorem suits_of_targets {vault : Vault} (htargets : call.targets = [])
    (hneeds : call.needs? = none) (hfault : ∀ flag on, call = .faultSet flag on → on = 0) :
    vault.Suits call where
  targets target hmem := by simp [htargets] at hmem
  role need hmem := by simp [hneeds] at hmem
  fault := hfault

/-! ## Actions -/

/-- **What an action keeps to**: what there is it upholds, apart from some addresses, and if it ends
early, that is excused. -/
structure Keeps (own : Option String) (exempt : List Address) (recorded : Recorded Session)
    (result : Except Abort α × Recorded Session) : Prop where
  /-- It upholds what there is. -/
  upholds : recorded.state.Upholds exempt result.2.state
  /-- An early end is excused. -/
  excused : ∀ abort, result.1 = .error abort → abort.Excused own

/-- An action that ends with a value has nothing to be excused. -/
theorem Keeps.of_ok {after : Recorded Session} (a : α)
    (h : recorded.state.Upholds exempt after.state) : Keeps own exempt recorded (.ok a, after) :=
  ⟨h, forall_error_of_ok a⟩

/-- What comes after an action that keeps to the contract. -/
theorem Keeps.andThen {act : Act (Recorded Session) α} {rest : α → Act (Recorded Session) β}
    (h : Keeps own exempt recorded (act recorded))
    (hrest : ∀ a, (act recorded).1 = .ok a →
      Keeps own [] (act recorded).2 (rest a (act recorded).2)) :
    Keeps own exempt recorded ((act >>= rest : Act (Recorded Session) β) recorded) := by
  show Keeps own exempt recorded (ExceptT.bindCont rest (act recorded).1 (act recorded).2)
  cases hresult : (act recorded).1 with
  | ok a =>
    have hnext := hrest a hresult
    exact ⟨h.upholds.trans hnext.upholds, hnext.excused⟩
  | error abort =>
    refine ⟨h.upholds, ?_⟩
    rintro _ ⟨⟩
    exact h.excused abort hresult

/-- **An action that keeps to the contract** wherever no fault is raised. -/
def Minds (own : Option String) (act : Act (Recorded Session) α) : Prop :=
  ∀ recorded : Recorded Session, recorded.state.vault.Faultless →
    Keeps own [] recorded (act recorded)

namespace Minds

theorem ofExcept {result : Except Abort α}
    (h : ∀ abort, result = .error abort → abort.Excused own) :
    Minds own (Act.ofExcept result) := fun recorded _ => ⟨.refl recorded.state, h⟩

theorem pure (a : α) : Minds own (Pure.pure a) := ofExcept (forall_error_of_ok a)

/-- One action after another. -/
theorem andThen {act : Act (Recorded Session) α} {rest : α → Act (Recorded Session) β}
    (h : Minds own act) (hrest : ∀ a, Minds own (rest a)) : Minds own (act >>= rest) := by
  intro recorded hfaultless
  have hact := h recorded hfaultless
  exact hact.andThen fun a _ => hrest a _ (hact.upholds.faultless hfaultless)

/-- A call that is for no context and raises no fault. -/
theorem submit (htargets : call.targets = []) (hneeds : call.needs? = none)
    (hassigns : call.assigns? = none) (hmakes : call.makes? = none) (hfrees : call.frees? = none)
    (hfault : ∀ flag on, call = .faultSet flag on → on = 0) :
    Minds own (Act.ofState ((Library.vault kind).backend.recorded.submit call)) := by
  refine fun recorded hfaultless => .of_ok _ ?_
  have hupholds := upholds_submit hfaultless (suits_of_targets htargets hneeds hfault) hfrees
  have hhandle : (recorded.state.submit call).1.handle = none := handle_answer_eq_none hmakes
  rw [touched, hassigns, hhandle] at hupholds
  exact hupholds

/-- Actions on the state, one after the other. -/
theorem ofState_bind {act : StateM (Recorded Session) α} {rest : α → StateM (Recorded Session) β}
    (h : Minds own (Act.ofState act)) (hrest : ∀ a, Minds own (Act.ofState (rest a))) :
    Minds own (Act.ofState (act >>= rest)) := andThen h hrest

/-- To fetch the diagnostics blames nobody. -/
theorem drain (capacity : Option Nat) :
    Minds own (Act.ofState ((Library.vault kind).backend.recorded.submit (.drain capacity))) :=
  submit rfl rfl rfl rfl rfl nofun

/-- A failure that is told with what was attempted is the same failure. -/
theorem during {act : Act (Recorded Session) α} (h : Minds own act) (request : Request)
    {context : String} (hcontext : request.context? = some context) :
    Minds own (act.during context) := by
  intro recorded hfaultless
  obtain ⟨hupholds, hexcused⟩ := h recorded hfaultless
  unfold Act.during
  split
  · rename_i a after heq
    rw [heq] at hupholds
    exact .of_ok a hupholds
  · rename_i abort after heq
    rw [heq] at hupholds hexcused
    refine ⟨hupholds, ?_⟩
    rintro _ ⟨⟩
    have hexplained := (hexcused abort rfl).explain request
    rwa [Request.explain, hcontext] at hexplained

theorem takeDiagnostics :
    Minds own (Act.ofState (Library.vault kind).backend.recorded.takeDiagnostics) := by
  refine ofState_bind (drain none) fun pending => ?_
  split
  · exact pure _
  · exact ofState_bind (drain _) fun _ => pure _

end Minds

/-- **The meaning of a status that is fine.** -/
theorem minds_check {status : Int32} (h : Fine status) :
    Minds own ((Library.vault kind).backend.recorded.check status) := by
  unfold Backend.check
  obtain hstatus | ⟨code, rfl, hcode⟩ := h
  · rw [if_pos hstatus, statusMeaning, if_pos hstatus]
    exact .pure status.toInt.toNat
  · rw [if_neg (Int32.not_le.mpr (status_neg code))]
    refine .andThen .takeDiagnostics fun diagnostics => .ofExcept ?_
    rw [statusMeaning_of_neg (status_neg code)]
    rintro _ ⟨⟩
    exact Abort.excused_ofStatus hcode diagnostics

/-- A status that is fine is no reason to blame anybody. -/
theorem minds_checkFor {status : Int32} (h : Fine status) (request : Request) :
    Minds own ((Library.vault kind).backend.recorded.checkFor request status) := by
  unfold Backend.checkFor
  split
  · exact minds_check h
  · exact (minds_check h).during request ‹_›

/-! ## Exchanges -/

/-- A request that does not allocate hands nothing out. -/
theorem handle_exchange_eq_none (hmakes : request.makes? = none) :
    ((Library.vault kind).backend.recorded.exchange request recorded).1.handle = none := by
  cases hcall : request.call with
  | error failure => rw [Library.exchange_of_error _ _ _ hcall]
  | ok call =>
    rw [Library.handle_exchange hcall]
    exact handle_answer_eq_none ((Request.agrees_call hcall).1.trans hmakes)

/-- **A request that succeeds** is one whose call is granted. -/
theorem exists_grant_of_number {n : Nat}
    (h : ((Library.vault kind).backend.recorded.number request recorded).1 = .ok n) :
    ∃ call grant, request.call = .ok call ∧ grant.status.toInt.toNat = n
      ∧ recorded.state.vault.verdict (recorded.state.supply recorded.state.calls) call = .ok grant
      ∧ ((Library.vault kind).backend.recorded.number request recorded).2.state.vault
        = grant.vault := by
  obtain ⟨call, hcall, hstatus, hn⟩ := Backend.exchange_of_outcome _ h
  obtain ⟨grant, hgrant⟩ := exists_grant_of_nonneg hstatus
  have hanswer := answer_of_ok hgrant
  rw [Backend.number_eq, Backend.exchange_of_nonneg _ hcall hstatus]
  refine ⟨call, grant, hcall, ?_, hgrant, congrArg Prod.snd hanswer⟩
  rw [← hn]
  exact (congrArg (fun answer => answer.1.status.toInt.toNat) hanswer).symm

section Numbers

variable {handle : Address} {n : Nat}

/-- The library reports 64 bytes for what is sealed. -/
theorem eq_of_encapsulatedLength (h : ((Library.vault kind).backend.recorded.number
    (.encapsulatedLength handle) recorded).1 = .ok n) : n = 64 := by
  obtain ⟨call, grant, hcall, rfl, hgrant, -⟩ := exists_grant_of_number h
  cases hcall
  rw [status_encapsulate_none hgrant]
  rfl

/-- The library reports 32 bytes for a secret. -/
theorem eq_of_secretLength (h : ((Library.vault kind).backend.recorded.number
    (.secretLength handle) recorded).1 = .ok n) : n = 32 := by
  obtain ⟨call, grant, hcall, rfl, hgrant, -⟩ := exists_grant_of_number h
  cases hcall
  rw [status_secretLength hgrant]
  rfl

/-- The library reports a type that there is. -/
theorem exists_type_of_number (h : ((Library.vault kind).backend.recorded.number
    (.keyType handle) recorded).1 = .ok n) : ∃ type : KeyType, type.number.toInt.toNat = n := by
  obtain ⟨call, grant, hcall, rfl, hgrant, -⟩ := exists_grant_of_number h
  cases hcall
  obtain ⟨type, htype⟩ := status_keyType hgrant
  exact ⟨type, by rw [htype]⟩

/-- The library reports a verdict of one bit. -/
theorem truth_of_number {signature : Bytes} (h : ((Library.vault kind).backend.recorded.number
    (.signatureVerify handle signature) recorded).1 = .ok n) : n = 0 ∨ n = 1 := by
  obtain ⟨call, grant, hcall, rfl, hgrant, -⟩ := exists_grant_of_number h
  obtain ⟨window, rfl⟩ : ∃ window, call = .signatureVerify handle window := by
    cases hwhole : Request.wholeArgument signature with
    | error failure =>
      rw [Request.call, hwhole] at hcall
      cases hcall
    | ok window =>
      rw [Request.call, hwhole] at hcall
      cases hcall
      exact ⟨some window, rfl⟩
  obtain hstatus | hstatus := status_signatureVerify hgrant
  · exact .inl (by rw [hstatus]; rfl)
  · exact .inr (by rw [hstatus]; rfl)

/-- **A context that is prepared has its role** when the request has succeeded. -/
theorem roleAt_of_number {role : Role} (hassigns : request.assigns? = some (handle, role))
    (h : ((Library.vault kind).backend.recorded.number request recorded).1 = .ok n) :
    ((Library.vault kind).backend.recorded.number request recorded).2.state.vault.roleAt handle
      = some role := by
  obtain ⟨call, grant, hcall, -, hgrant, hvault⟩ := exists_grant_of_number h
  rw [hvault]
  exact roleAt_grant_of_assigns? hgrant ((Request.conforms_call hcall).assigns.trans hassigns)

/-- **A context that was prepared plays its role** from then on. -/
theorem roleAt_of_perform {role : Role} (hassigns : request.assigns? = some (handle, role))
    (h : ((Library.vault kind).backend.recorded.perform request recorded).1 = .ok ()) :
    ((Library.vault kind).backend.recorded.perform request recorded).2.state.vault.roleAt handle
      = some role := by
  rw [Backend.perform_eq] at h ⊢
  cases houtcome : ((Library.vault kind).backend.recorded.exchange request recorded).1.outcome with
  | ok n => exact roleAt_of_number hassigns houtcome
  | error abort =>
    rw [houtcome] at h
    cases h

end Numbers

section Exchange

variable (hfaultless : recorded.state.vault.Faultless) (hsuits : request.Suits recorded.state.vault)

include hfaultless hsuits

/-- **A request that is made as it should be** keeps to the contract. -/
theorem keeps_exchange :
    let result := (Library.vault kind).backend.recorded.exchange request recorded
    Keeps own ((request.assigns?.map Prod.fst).toList ++ result.1.handle.toList) recorded
      (result.1.outcome, result.2) := by
  cases hcall : request.call with
  | error failure =>
    rw [Library.exchange_of_error _ _ _ hcall]
    refine ⟨.refl recorded.state, ?_⟩
    rintro _ ⟨⟩
    have hclass := Request.BlamesCaller.call request failure hcall
    show failure.errorClass ≠ .contractViolation
    rw [hclass]
    exact nofun
  | ok call =>
    have hcalled := hsuits.call hcall
    have hsubmit := upholds_submit hfaultless hcalled (Request.agrees_call hcall).2.1
    rw [touched, (Request.conforms_call hcall).assigns] at hsubmit
    rw [Library.exchange_of_ok _ _ _ hcall]
    have hcheck : Minds own ((Library.vault kind).backend.recorded.checkFor request
        (recorded.state.submit call).1.status) :=
      minds_checkFor (fine_answer hfaultless hcalled) request
    have hchecked := hcheck ((Library.vault kind).after recorded call)
      (hsubmit.faultless hfaultless)
    exact ⟨hsubmit.trans hchecked.upholds, hchecked.excused⟩

/-- A request that does not allocate keeps to the contract, and touches no other context than one
that it prepares. -/
theorem keeps_number (hmakes : request.makes? = none) :
    Keeps own (request.assigns?.map Prod.fst).toList recorded
      ((Library.vault kind).backend.recorded.number request recorded) := by
  have hkeeps : Keeps own (_ ++ Option.toList _) recorded
    ((Library.vault kind).backend.recorded.number request recorded) :=
      keeps_exchange hfaultless hsuits
  rwa [handle_exchange_eq_none hmakes, Option.toList_none, List.append_nil] at hkeeps

/-- A request that is only to be carried out, and prepares one context at most. -/
theorem keeps_perform (hmakes : request.makes? = none) :
    Keeps own (request.assigns?.map Prod.fst).toList recorded
      ((Library.vault kind).backend.recorded.perform request recorded) :=
  (keeps_number hfaultless hsuits hmakes).andThen fun _ _ => .of_ok _ (.refl _)

/-- The type that is reported is known, so that nothing fails after the call. -/
theorem keeps_keyType {handle : Address} (hrequest : request = .keyType handle) :
    Keeps own [] recorded ((Library.vault kind).backend.recorded.keyType handle recorded) := by
  subst hrequest
  refine (keeps_number hfaultless hsuits rfl).andThen fun raw hraw => ?_
  obtain ⟨type, rfl⟩ := exists_type_of_number hraw
  rw [show Int32.ofNat type.number.toInt.toNat = type.number by cases type <;> rfl,
    KeyType.ofNumber?_number]
  exact .of_ok _ (.refl _)

/-- The verdict that is reported is 0 or 1, so that nothing fails after the call. -/
theorem keeps_verify {handle : Address} {signature : Bytes}
    (hrequest : request = .signatureVerify handle signature) :
    Keeps own [] recorded
      ((Library.vault kind).backend.recorded.verify handle signature recorded) := by
  subst hrequest
  refine (keeps_number hfaultless hsuits rfl).andThen fun truth htruth => ?_
  obtain rfl | rfl := truth_of_number htruth
  · exact .of_ok _ (.refl _)
  · exact .of_ok _ (.refl _)

end Exchange

/-! ## Contexts that are handed out -/

/-- A new context is asked of any library. -/
theorem suits_of_makes? {domain : Domain} (hmakes : request.makes? = some domain) (vault : Vault) :
    request.Suits vault := by
  refine ⟨fun target hmem => ?_, fun need hmem => ?_⟩
  · rw [Request.targets_of_makes? hmakes] at hmem
    cases hmem
  · rw [(Request.roles_of_makes? hmakes).2] at hmem
    cases hmem

/-- **A request that allocates and succeeds** hands a context out. -/
theorem exists_handle_of_exchange {domain : Domain} (hmakes : request.makes? = some domain)
    {n : Nat}
    (h : ((Library.vault kind).backend.recorded.exchange request recorded).1.outcome = .ok n) :
    ∃ address, ((Library.vault kind).backend.recorded.exchange request recorded).1.handle
      = some address := by
  obtain ⟨call, hcall, hstatus, -⟩ := Backend.exchange_of_outcome _ h
  obtain ⟨grant, hgrant⟩ := exists_grant_of_nonneg hstatus
  rw [Library.handle_exchange hcall]
  exact ⟨_, handle_answer_of_makes? hgrant ((Request.agrees_call hcall).1.trans hmakes)⟩

/-- **A request that allocates** keeps to the contract where the address that it is given is not
zero, and touches no other context than the one that it hands out. -/
theorem keeps_allocate {domain : Domain} (hfaultless : recorded.state.vault.Faultless)
    (hmakes : request.makes? = some domain)
    (hne : ∀ address, ((Library.vault kind).backend.recorded.exchange request recorded).1.handle
      = some address → address ≠ 0) :
    Keeps own ((Library.vault kind).backend.recorded.exchange request recorded).1.handle.toList
      recorded ((Library.vault kind).backend.recorded.allocate request recorded) := by
  have hkeeps : Keeps own (_ ++ Option.toList _) recorded
    ((Library.vault kind).backend.recorded.number request recorded) :=
      keeps_exchange hfaultless (suits_of_makes? hmakes _)
  rw [(Request.roles_of_makes? hmakes).1, Option.map_none, Option.toList_none,
    List.nil_append] at hkeeps
  rw [Library.allocate_eq]
  refine ⟨hkeeps.upholds, fun abort habort => ?_⟩
  cases houtcome : ((Library.vault kind).backend.recorded.exchange request recorded).1.outcome with
  | error other =>
    rw [houtcome] at habort
    cases habort
    exact hkeeps.excused abort houtcome
  | ok n =>
    obtain ⟨address, haddress⟩ := exists_handle_of_exchange hmakes houtcome
    rw [houtcome, haddress] at habort
    simp [Handle.ofAddress?, hne address haddress] at habort

/-! ## Faults -/

namespace Minds

/-- A failure of another class. -/
theorem fail {failure : Failure} (h : failure.errorClass ≠ .contractViolation) :
    Minds own (Act.fail failure : Act (Recorded Session) α) := by
  refine ofExcept ?_
  rintro _ ⟨⟩
  exact h

theorem faultsAvailable :
    Minds own (Act.ofState (Library.vault kind).backend.recorded.faultsAvailable) :=
  ofState_bind (submit rfl rfl rfl rfl rfl nofun) fun _ => pure _

/-- **Clearing a fault** keeps to the contract. -/
theorem clearFault (flag : FaultFlag) :
    Minds own ((Library.vault kind).backend.recorded.setFault flag false) := by
  refine andThen faultsAvailable fun available => ?_
  split
  · intro recorded hfaultless
    have hzero : ∀ number on, Call.faultSet flag.number 0 = .faultSet number on → on = 0 := by
      rintro _ _ ⟨⟩
      rfl
    have hsubmit : Minds own
        (Act.ofState ((Library.vault kind).backend.recorded.submit (.faultSet flag.number 0))) :=
      submit rfl rfl rfl rfl rfl hzero
    have hsubmitted := hsubmit recorded hfaultless
    refine hsubmitted.andThen fun reply hreply => ?_
    obtain rfl := Except.ok.inj hreply
    have hfine : Fine (recorded.state.submit (.faultSet flag.number 0)).1.status :=
      fine_answer hfaultless (suits_of_targets rfl rfl hzero)
    exact (minds_check hfine).andThen (fun _ => pure ()) _ (hsubmitted.upholds.faultless hfaultless)
  · exact fail nofun

theorem resetFaults :
    Minds own (Act.ofState (Library.vault kind).backend.recorded.resetFaults) :=
  ofState_bind (submit rfl rfl rfl rfl rfl nofun) fun _ => pure _

end Minds

end Session

end Custody

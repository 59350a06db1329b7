import Custody.Proofs.Vault.Roles
import Custody.Proofs.Vault.Switches

/-!
# Refusals that keep to the contract

A few codes say that the library or its user has broken the contract (`ErrorCode.breaksContract`):
that a handle has no context behind it, that a context was not prepared for what is asked of it,
that something changed which must not change. No call comes to such a code by itself. Where no fault
is raised (`Vault.Faultless`), a call that is made as it should be (`Vault.Suits`), with contexts
that are there, of the right kind and prepared for it, is refused with other codes only
(`Vault.inContract_entry`), and leaves no fault raised (`Vault.faultless_answer`).

Along a chain of steps there are three reasons why a failure keeps to the contract. Most checks have
no code that breaks it. That a handle has a context of the right kind behind it, or a context was
prepared, is what the call is made with. And what only a fault brings about does not come about.
-/

namespace Custody

open Held

/-- **Whether a failure with this code says that the contract was broken.** -/
def ErrorCode.breaksContract (code : ErrorCode) : Bool :=
  code.kind.errorClass = .contractViolation

example : ErrorCode.all.filter ErrorCode.breaksContract
    = [.fail, .notInitialized, .unexpectedState, .unexpectedPointerChange, .invalidHandle,
      .unexpectedSigLenChange] := by decide

namespace Vault

open Check (FailsIn)

variable {α : Type} {vault : Vault} {handle : Address} {code : ErrorCode} {supply : Supply}
  {call : Call} {out : Option OutputWindow} {window : Option InputWindow}

/-- **No fault is raised.** -/
def Faultless (vault : Vault) : Prop := ∀ flag, vault.raised flag = false

/-- **A call that is made as it should be.** -/
structure Suits (vault : Vault) (call : Call) : Prop where
  /-- The contexts that it is made with are there, and of the right kind. -/
  targets : ∀ target ∈ call.targets, vault.kindAt target.1 = some target.2
  /-- The signature context that it is for is prepared for it. -/
  role : ∀ need ∈ call.needs?, ∃ role ∈ need.2, vault.roleAt need.1 = some role
  /-- It raises no fault. -/
  fault : ∀ flag on, call = .faultSet flag on → on = 0

/-! ## Contexts that are there -/

/-- A digest that is there is found. -/
theorem failsIn_digestAt (h : vault.kindAt handle = some .digest) :
    FailsIn [] (vault.digestAt handle) := by
  obtain ⟨context, hcontext, hdomain⟩ := Option.map_eq_some_iff.mp h
  cases context with
  | digest context =>
    rw [digestAt_eq_ok_iff.mpr hcontext]
    exact .ok _
  | key material => cases hdomain
  | signature context => cases hdomain

/-- A container that is there is found. -/
theorem failsIn_containerAt (h : vault.kindAt handle = some .keySpec) :
    FailsIn [] (vault.containerAt handle) := by
  obtain ⟨context, hcontext, hdomain⟩ := Option.map_eq_some_iff.mp h
  cases context with
  | digest context => cases hdomain
  | key material =>
    rw [containerAt_eq_ok_iff.mpr hcontext]
    exact .ok _
  | signature context => cases hdomain

/-- A signature context that is there is found. -/
theorem failsIn_signatureAt (h : vault.kindAt handle = some .signature) :
    FailsIn [] (vault.signatureAt handle) := by
  obtain ⟨context, hcontext, hdomain⟩ := Option.map_eq_some_iff.mp h
  cases context with
  | digest context => cases hdomain
  | key material => cases hdomain
  | signature context =>
    rw [signatureAt_eq_ok_iff.mpr hcontext]
    exact .ok _

/-- A container that is there may be empty. -/
theorem failsIn_keyAt (h : vault.kindAt handle = some .keySpec) :
    FailsIn [.keySpecHasNullKey] (vault.keyAt handle) :=
  .bind (fun code hcode => absurd (failsIn_containerAt h code hcode) List.not_mem_nil)
    fun _ => .need _ (by decide)

/-- It may also hold a key for something else. -/
theorem failsIn_keyOfType (type : KeyType) (h : vault.kindAt handle = some .keySpec) :
    FailsIn [.keySpecHasNullKey, .incorrectKeyType] (vault.keyOfType type handle) :=
  .bind (fun code hcode => List.mem_append_left [_] (failsIn_keyAt h code hcode))
    fun _ => .bind (.demand _ (by decide)) fun _ => .ok _

/-! ## Steps -/

/-- **A call that keeps to the contract** if it is refused. -/
def InContract (vault : Vault) (step : Step Int32) : Prop :=
  step.Ends (.start vault) (fun _ _ => True) fun code _ => code.breaksContract = false

namespace InContract

variable {rest : α → Step Int32} {next : Unit → Step Int32} {flag : FaultFlag} {status : Int32}

/-- A check that can only fail with codes of other classes. -/
theorem look {check : Vault → Check α} {codes : List ErrorCode}
    (hcodes : (check vault).FailsIn codes) (hkeeps : ∀ code ∈ codes, code.breaksContract = false)
    (h : ∀ a, check vault = .ok a → InContract vault (rest a)) :
    InContract vault (Step.look check >>= rest) :=
  Step.Ends.look (fun code hcode => hkeeps code (hcodes code hcode)) h

/-- A look at the library is all there is. -/
theorem looked {check : Vault → Check Int32} {codes : List ErrorCode}
    (hcodes : (check vault).FailsIn codes) (hkeeps : ∀ code ∈ codes, code.breaksContract = false) :
    InContract vault (Step.look check) :=
  Step.Ends.looked (fun code hcode => hkeeps code (hcodes code hcode)) fun _ _ => trivial

/-- A condition whose code is of another class. -/
theorem demand {condition : Bool} (hcode : code.breaksContract = false)
    (h : InContract vault (next ())) : InContract vault (Step.demand condition code >>= next) :=
  Step.Ends.demand (fun _ => hcode) fun _ => h

/-- A value that has to be there, with such a code. -/
theorem need {value : Option α} (hcode : code.breaksContract = false)
    (h : ∀ a, InContract vault (rest a)) : InContract vault (Step.need value code >>= rest) :=
  Step.Ends.need (fun _ => hcode) fun a _ => h a

/-- A fault with such a code. -/
theorem unraised (hcode : code.breaksContract = false) (h : InContract vault (next ())) :
    InContract vault (Step.unraised flag code >>= next) :=
  Step.Ends.unraised (fun _ => hcode) fun _ => h

/-- What a fault would bring about does not come about where none is raised. -/
theorem unraised_of_faultless (hfaultless : vault.Faultless) (h : InContract vault (next ())) :
    InContract vault (Step.unraised flag code >>= next) :=
  Step.Ends.unraised (fun hraised => absurd hraised (by simp [CallState.start, hfaultless flag]))
    fun _ => h

/-- A choice by a fault. -/
theorem isRaised {yes no : Step Int32} (hyes : InContract vault yes) (hno : InContract vault no) :
    InContract vault (Step.isRaised flag >>= fun raised => if raised then yes else no) :=
  Step.Ends.isRaised (fun _ => hyes) fun _ => hno

theorem ite {condition : Prop} [Decidable condition] {yes no : Step Int32}
    (hyes : InContract vault yes) (hno : InContract vault no) :
    InContract vault (if condition then yes else no) := Step.Ends.ite (fun _ => hyes) fun _ => hno

/-- That the system has no random bytes to give is nobody's breach. -/
theorem draw {seed : Option Key32} {rest : Key32 → Step Int32}
    (h : ∀ half, InContract vault (rest half)) : InContract vault (Step.draw seed >>= rest) :=
  Step.Ends.draw (fun _ => rfl) fun half _ => h half

/-- A failure with a line, whose code is of another class. -/
theorem saying {line : String} (hcode : code.breaksContract = false) :
    InContract vault (Step.failSaying code line) := Step.Ends.failSaying hcode

/-- A call that ends with a status breaks nothing. -/
theorem report (status : Int32) : InContract vault (pure status) := Step.Ends.pure trivial

theorem deliver (bytes : Bytes) : InContract vault (Step.deliver bytes) :=
  Step.Ends.store (Step.Ends.pure trivial)

/-- A call that puts a context in its place breaks nothing. -/
theorem put (handle : Address) (context : Context) :
    InContract vault (Step.put handle context >>= fun _ => pure status) :=
  Step.Ends.put (Step.Ends.pure trivial)

/-- The window is written first. -/
theorem deliver_put (bytes : Bytes) (handle : Address) (context : Context) :
    InContract vault
      (Step.deliver bytes >>= fun length => Step.put handle context >>= fun _ => pure length) :=
  Step.Ends.bind (Step.Ends.store (Step.Ends.pure (Step.Ends.put (Step.Ends.pure trivial))))

theorem allocate (address : Address) (context : Context) :
    InContract vault (Step.allocate address context) :=
  Step.Ends.put (Step.Ends.handOut (Step.Ends.pure trivial))

theorem dispose (own : Context → Bool) (handle : Address) :
    InContract vault (Step.dispose own handle) := Step.Ends.change (Step.Ends.pure trivial)

/-! ### Digests -/

/-- A length that the algorithm does not offer is for the caller to answer for. -/
theorem digestLengthFor {rest : Nat → Step Int32} (name : String) (algorithm : Hash.Algorithm)
    (asked : Int32) (h : ∀ length, InContract vault (rest length)) :
    InContract vault (Vault.digestLengthFor name algorithm asked >>= rest) := by
  refine Step.Ends.bind ?_
  unfold Vault.digestLengthFor
  split
  · exact Step.Ends.ite (fun _ => Step.Ends.failSaying rfl) fun _ => Step.Ends.pure (h _)
  · exact Step.Ends.isRaised (fun _ => Step.Ends.failSaying rfl) fun _ => Step.Ends.pure (h _)

theorem digestAllocate (address : Address) (name : Option Bytes) (asked : Int32) (slot : Bool) :
    InContract vault (Vault.digestAllocate address name asked slot) :=
  demand rfl (look (.readName vault name) (by decide) fun _ _ => need rfl fun _ =>
    demand rfl (unraised rfl (unraised rfl (digestLengthFor _ _ _ fun _ => allocate _ _))))

theorem digestFeedBytes (context : DigestContext) (data : Bytes) :
    InContract vault (Vault.digestFeedBytes handle context data) :=
  isRaised (saying rfl) (put _ _)

/-- A digest is finished, where there is one. -/
theorem digestFinish (h : vault.kindAt handle = some .digest) :
    InContract vault (Vault.digestFinish handle out) :=
  look (failsIn_digestAt h) (by decide) fun context _ =>
    look (.reportedLength vault context) (by decide) fun _ _ =>
      look (.admits vault _ out) (by decide) fun _ _ =>
        ite (isRaised (saying rfl) (deliver_put _ _ _)) (report _)

/-! ### Keys -/

/-- Half a key is taken in where there is a container, and no fault tells of a null buffer. -/
theorem keyDecode (hfaultless : vault.Faultless) (h : vault.kindAt handle = some .keySpec)
    (make : KeyType → Key32 → KeyMaterial) {wrongLength : ErrorCode}
    (hlength : wrongLength.breaksContract = false) (type : Int32) :
    InContract vault (Vault.keyDecode make wrongLength handle type window) :=
  look (failsIn_containerAt h) (by decide) fun _ _ => need rfl fun _ =>
    look (.input vault window) (by decide) fun _ _ => need hlength fun _ =>
      unraised_of_faultless hfaultless (put _ _)

theorem keyEncode (half : Key32) : InContract vault (Vault.keyEncode half out) :=
  unraised rfl (look (.admits vault _ out) (by decide) fun _ _ => ite (deliver _) (report _))

/-- A secret is sealed to the key of a container that is there. -/
theorem encapsulate (h : vault.kindAt handle = some .keySpec) (seed : Option Key32) :
    InContract vault (Vault.encapsulate seed handle out) :=
  look (failsIn_keyOfType _ h) (by decide) fun _ _ => unraised rfl
    (look (.admits vault _ out) (by decide) fun _ _ => ite (draw fun _ => Step.Ends.store
      (.kemSecret (fun _ => rfl) fun _ _ => .store (.pure trivial))) (report _))

/-- A secret is opened with the key of a container that is there. -/
theorem decapsulate (h : vault.kindAt handle = some .keySpec) :
    InContract vault (Vault.decapsulate handle window out) :=
  look (failsIn_keyOfType _ h) (by decide) fun _ _ => need rfl fun _ =>
    look (.input vault window) (by decide) fun _ _ => need rfl fun _ =>
      look (.admits vault _ out) (by decide) fun _ _ =>
        ite (Step.Ends.kemSecret (fun _ => rfl) fun _ _ => deliver _) (report _)

/-! ### Signatures -/

/-- **Bytes are fed** to a signature context that has been prepared for one thing or the other. -/
theorem signatureFeed (h : vault.kindAt handle = some .signature)
    (hrole : (vault.roleAt handle).isSome) :
    InContract vault (Vault.signatureFeed handle window) := by
  refine look (failsIn_signatureAt h) (by decide) fun context hcontext => ?_
  rw [roleAt_of_get? (signatureAt_eq_ok_iff.mp hcontext)] at hrole
  refine Step.Ends.demand (fun hidle => ?_) fun _ =>
    look (.input vault window) (by decide) fun _ _ => put _ _
  have hmode : context.mode = .idle := by simpa using hidle
  rw [hmode] at hrole
  cases hrole

/-- **The bytes are signed** in a context that signs. -/
theorem signatureSign (hfaultless : vault.Faultless) (h : vault.kindAt handle = some .signature)
    (hrole : vault.roleAt handle = some .signs) :
    InContract vault (Vault.signatureSign handle out) := by
  refine look (failsIn_signatureAt h) (by decide) fun context hcontext => ?_
  rw [roleAt_of_get? (signatureAt_eq_ok_iff.mp hcontext)] at hrole
  refine Step.Ends.need (fun hseed => ?_) fun seed _ => unraised rfl
    (look (.admits vault _ out) (by decide) fun _ _ => ite (isRaised (saying rfl)
      (unraised_of_faultless hfaultless (deliver_put _ _ _))) (report _))
  cases hmode : context.mode with
  | signing seed => simp [hmode, SignatureMode.seed?] at hseed
  | idle => simp [hmode, SignatureMode.role?] at hrole
  | checking key => simp [hmode, SignatureMode.role?] at hrole

/-- **A signature is checked** in a context that checks. -/
theorem signatureVerify (h : vault.kindAt handle = some .signature)
    (hrole : vault.roleAt handle = some .checks) :
    InContract vault (Vault.signatureVerify handle window) := by
  refine look (failsIn_signatureAt h) (by decide) fun context hcontext => ?_
  rw [roleAt_of_get? (signatureAt_eq_ok_iff.mp hcontext)] at hrole
  refine Step.Ends.need (fun hkey => ?_) fun key _ =>
    look (.read .signature _ window) (by decide) fun _ _ => isRaised (saying rfl) (put _ _)
  cases hmode : context.mode with
  | checking key => simp [hmode, SignatureMode.key?] at hkey
  | idle => simp [hmode, SignatureMode.role?] at hrole
  | signing seed => simp [hmode, SignatureMode.role?] at hrole

/-! ### Derivation -/

theorem derivePassword (fill : Nat → Bytes) (complaint : String) (span : Nat) :
    InContract vault (Vault.derivePassword fill complaint span) :=
  demand rfl (ite (report _) (isRaised (saying rfl) (deliver _)))

theorem derivePbkdf2 (digest : Option Bytes) (password salt : Option InputWindow)
    (iterations : Int32) :
    InContract vault (Vault.derivePbkdf2 digest password salt iterations out) :=
  look (.input vault password) (by decide) fun _ _ =>
    look (.input vault salt) (by decide) fun _ _ => demand rfl (demand rfl
      (look (.readName vault digest) (by decide) fun _ _ => need rfl fun _ =>
        look (.span vault out) (by decide) fun _ _ => derivePassword _ _ _))

theorem deriveHkdf (digest : Option Bytes) (material salt info : Option InputWindow) :
    InContract vault (Vault.deriveHkdf digest material salt info out) :=
  look (.input vault material) (by decide) fun _ _ =>
    look (.input vault salt) (by decide) fun _ _ => look (.input vault info) (by decide)
      fun _ _ => look (.readName vault digest) (by decide) fun _ _ => need rfl fun _ =>
        look (.span vault out) (by decide) fun _ _ =>
          isRaised (saying rfl) (demand rfl (deliver _))

/-- Parameters that are out of range are for the caller to answer for. -/
theorem scryptCost {rest : ScryptCost → Step Int32} (n r p : Int32)
    (h : ∀ cost, InContract vault (rest cost)) :
    InContract vault (Vault.scryptCost n r p >>= rest) :=
  Step.Ends.bind (Step.Ends.demand (fun _ => rfl) fun _ => Step.Ends.demand (fun _ => rfl) fun _ =>
    Step.Ends.demand (fun _ => rfl) fun _ => Step.Ends.demand (fun _ => rfl) fun _ =>
      Step.Ends.ite (fun _ => Step.Ends.failSaying rfl) fun _ => Step.Ends.ite
        (fun _ => Step.Ends.failSaying rfl) fun _ => Step.Ends.pure (h _))

theorem deriveScrypt (password salt : Option InputWindow) (n r p : Int32) :
    InContract vault (Vault.deriveScrypt password salt n r p out) :=
  look (.input vault password) (by decide) fun _ _ =>
    look (.input vault salt) (by decide) fun _ _ => demand rfl (scryptCost n r p fun _ =>
      look (.span vault out) (by decide) fun _ _ => derivePassword _ _ _)

/-- To take the diagnostics breaks nothing. -/
theorem drain (capacity : Option Nat) : InContract vault (Vault.drain capacity) := by
  cases capacity with
  | none => exact Step.Ends.passed rfl trivial
  | some capacity =>
    exact Step.Ends.look nofun fun _ _ =>
      Step.Ends.store (Step.Ends.change (Step.Ends.pure trivial))

end InContract

/-- **A call that is made as it should be** is refused within the contract if it is refused. -/
theorem inContract_entry (hfaultless : vault.Faultless) (h : vault.Suits call)
    (supply : Supply) : InContract vault (entry supply call) := by
  have htarget : ∀ target ∈ call.targets, vault.kindAt target.1 = some target.2 := h.targets
  have hneed : ∀ need ∈ call.needs?, ∃ role ∈ need.2, vault.roleAt need.1 = some role :=
    h.role
  cases call with
  | version | faultsAvailable => exact .report _
  | digestAllocate name length slot => exact .digestAllocate supply.address name length slot
  | digestFeedByte handle byte =>
    exact .look (failsIn_digestAt (htarget (handle, .digest) (.head _))) (by decide) fun _ _ =>
      .digestFeedBytes _ _
  | digestFeed handle data =>
    exact .look (failsIn_digestAt (htarget (handle, .digest) (.head _))) (by decide) fun _ _ =>
      .look (.input vault data) (by decide) fun _ _ => .digestFeedBytes _ _
  | digestLength handle =>
    exact .look (failsIn_digestAt (htarget (handle, .digest) (.head _))) (by decide)
      fun context _ => .looked (.reportedLength vault context) (by decide)
  | digestFinish handle out => exact .digestFinish (htarget (handle, .digest) (.head _))
  | digestReset handle =>
    exact .look (failsIn_digestAt (htarget (handle, .digest) (.head _))) (by decide) fun _ _ =>
      .put _ _
  | digestDispose handle | keyDispose handle | signatureDispose handle => exact .dispose _ _
  | keyAllocate slot | signatureAllocate slot => exact .demand rfl (.unraised rfl (.allocate _ _))
  | keyGenerate handle type =>
    exact .look (failsIn_containerAt (htarget (handle, .keySpec) (.head _))) (by decide) fun _ _ =>
      .need rfl fun _ => .draw fun _ => .put _ _
  | keyDecodePublic handle type data | keyDecodePrivate handle type data =>
    exact .keyDecode hfaultless (htarget (handle, .keySpec) (.head _)) _ rfl type
  | keyEncodePublic handle out =>
    exact .look (failsIn_keyAt (htarget (handle, .keySpec) (.head _))) (by decide) fun _ _ =>
      .keyEncode _
  | keyEncodePrivate handle out =>
    exact .look (failsIn_keyAt (htarget (handle, .keySpec) (.head _))) (by decide) fun _ _ =>
      .need rfl fun _ => .keyEncode _
  | keyType handle =>
    exact .look (failsIn_keyAt (htarget (handle, .keySpec) (.head _))) (by decide) fun _ _ =>
      .report _
  | encapsulate handle out =>
    exact .encapsulate (htarget (handle, .keySpec) (.head _)) supply.seed
  | decapsulate handle ciphertext out => exact .decapsulate (htarget (handle, .keySpec) (.head _))
  | secretLength handle =>
    exact .look (failsIn_keyOfType _ (htarget (handle, .keySpec) (.head _))) (by decide)
      fun _ _ => .report _
  | signatureInitSign handle key =>
    exact .look (failsIn_signatureAt (htarget (handle, .signature) (.head _))) (by decide)
      fun _ _ => .look (failsIn_keyOfType _ (htarget (key, .keySpec) (.tail _ (.head _))))
        (by decide) fun _ _ => .need rfl fun _ => .put _ _
  | signatureInitVerify handle key =>
    exact .look (failsIn_signatureAt (htarget (handle, .signature) (.head _))) (by decide)
      fun _ _ => .look (failsIn_keyOfType _ (htarget (key, .keySpec) (.tail _ (.head _))))
        (by decide) fun _ _ => .put _ _
  | signatureFeed handle data =>
    obtain ⟨role, -, hrole⟩ := hneed _ rfl
    exact .signatureFeed (htarget (handle, .signature) (.head _)) (Option.isSome_of_eq_some hrole)
  | signatureSign handle out =>
    obtain ⟨role, hmem, hrole⟩ := hneed _ rfl
    obtain rfl : role = .signs := List.mem_singleton.mp hmem
    exact .signatureSign hfaultless (htarget (handle, .signature) (.head _)) hrole
  | signatureVerify handle signature =>
    obtain ⟨role, hmem, hrole⟩ := hneed _ rfl
    obtain rfl : role = .checks := List.mem_singleton.mp hmem
    exact .signatureVerify (htarget (handle, .signature) (.head _)) hrole
  | pbkdf2 digest password salt iterations out =>
    exact .derivePbkdf2 digest password salt iterations
  | hkdf digest material salt info out => exact .deriveHkdf digest material salt info
  | scrypt password salt n r p out => exact .deriveScrypt password salt n r p
  | faultSet flag on => exact .need rfl fun _ => Step.Ends.change (Step.Ends.pure trivial)
  | faultsReset => exact Step.Ends.change (Step.Ends.pure trivial)
  | drain capacity => exact .drain capacity

/-! ## Replies -/

section Replies

variable {grant : Grant}

/-- **A status within the contract**: that of a success, or of a code that does not say that the
contract was broken. -/
def Fine (status : Int32) : Prop :=
  0 ≤ status ∨ ∃ code : ErrorCode, status = code.status ∧ code.breaksContract = false

/-- A call that is made as it should be is answered within the contract. -/
theorem fine_answer (hfaultless : vault.Faultless) (h : vault.Suits call) :
    Fine (vault.answer supply call).1.status := by
  cases hverdict : vault.verdict supply call with
  | ok grant => exact .inl (status_nonneg_of_ok hverdict)
  | error refusal =>
    obtain ⟨line, hanswer⟩ := answer_of_error hverdict
    rw [hanswer]
    exact .inr ⟨refusal.code, rfl, (inContract_entry hfaultless h supply).of_on_error hverdict⟩

/-- It leaves no fault raised. -/
theorem faultless_answer (hfaultless : vault.Faultless) (h : vault.Suits call) :
    (vault.answer supply call).2.Faultless := by
  intro flag
  rw [raised_answer]
  cases call with
  | faultSet number on =>
    rw [Call.sets?_faultSet, h.fault number on rfl, hfaultless flag]
    split
    · rfl
    · rfl
  | faultsReset => rfl
  | _ => exact hfaultless flag

/-- The length of what is sealed is always the same. -/
theorem status_encapsulate_none {seed : Option Key32}
    (h : (Vault.encapsulate seed handle none).on vault = .ok grant) : grant.status = 64 := by
  simp only [Vault.encapsulate, Step.on_look_eq_ok_iff, Step.on_unraised_eq_ok_iff,
    admits_none] at h
  obtain ⟨key, -, -, _, ⟨⟩, hgrant⟩ := h
  cases hgrant
  rfl

/-- The length of a secret is always the same. -/
theorem status_secretLength (h : (Vault.reportSecretLength handle).on vault = .ok grant) :
    grant.status = 32 := by
  obtain ⟨key, -, hgrant⟩ := Step.on_look_eq_ok_iff.mp h
  cases hgrant
  rfl

/-- The type of a key is reported by its number. -/
theorem status_keyType (h : (Vault.keyType handle).on vault = .ok grant) :
    ∃ type : KeyType, grant.status = type.number := by
  obtain ⟨key, -, hgrant⟩ := Step.on_look_eq_ok_iff.mp h
  cases hgrant
  exact ⟨key.type, rfl⟩

/-- A verdict is reported as 0 or 1. -/
theorem status_signatureVerify (h : (Vault.signatureVerify handle window).on vault = .ok grant) :
    grant.status = 0 ∨ grant.status = 1 := by
  obtain ⟨key, message, -, w, -, -, -, -, rfl⟩ := signatureVerify_eq_ok_iff.mp h
  show checkStatus _ = 0 ∨ checkStatus _ = 1
  cases Curve.Ed25519.verify key message w.addressed with
  | true => exact .inr rfl
  | false => exact .inl rfl

end Replies

end Vault

end Custody

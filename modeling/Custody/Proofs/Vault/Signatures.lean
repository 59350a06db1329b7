import Custody.Proofs.Vault.History

/-!
# Signatures of what was fed

A signature context is prepared with a key that a container holds at that moment, and has a copy of
it from then on: whatever becomes of the container, it signs and checks with that key
(`Vault.lastPrepared?`). It gathers what is fed to it until it is prepared again, has written a
signature or has checked one; a question for the length and a call that fails let it go on
(`Vault.signatureMessage`).

In every run from the beginning, a prepared context has the key and the message that can be read off
the notes of the run (`Vault.InStep`). So a signature is that of the message gathered, a check is
one of the message gathered, and what one context has signed another accepts that was prepared with
the public key and has gathered the same message (`Vault.signatures_of_what_was_fed`).
-/

namespace Custody

open Curve Held

/-! ## Calls -/

/-- The key that a container holds. -/
def Vault.materialAt? (vault : Vault) (key : Address) : Option Vault.KeyMaterial :=
  match vault.contexts.get? key with
  | some (.key material) => material
  | _ => none

namespace Call

/-- What a call that succeeds prepares the signature context at an address for, with the key that
the container holds before it. -/
def prepares? (vault : Vault) (handle : Address) : Call → Option Vault.SignatureMode
  | signatureInitSign other key =>
    if other = handle then
      (vault.materialAt? key).bind fun material => material.privateHalf.map .signing
    else none
  | signatureInitVerify other key =>
    if other = handle then
      (vault.materialAt? key).map fun material => .checking material.publicHalf
    else none
  | _ => none

/-- What a call feeds to the signature context at an address. -/
def feedsSignature (handle : Address) : Call → Bytes
  | signatureFeed other (some window) => if other = handle then window.addressed else []
  | _ => []

/-- Whether a call that succeeds starts the message of the signature context at an address
afresh. -/
def restartsSignature (handle : Address) : Call → Bool
  | signatureInitSign other _ | signatureInitVerify other _ | signatureSign other (some _) |
    signatureVerify other _ => other = handle
  | _ => false

/-- A call that does not change the signature context at an address neither prepares it nor feeds
it nor starts it afresh. -/
theorem prepares?_of_changes? (vault : Vault) {handle : Address} {call : Call}
    (h : call.changes? ≠ some (handle, .signature)) :
    call.prepares? vault handle = none ∧ call.feedsSignature handle = []
      ∧ call.restartsSignature handle = false := by
  have hne : ∀ other, some (other, Domain.signature) ≠ some (handle, .signature) →
      other ≠ handle := by
    rintro other hother rfl
    exact hother rfl
  cases call with
  | signatureInitSign other key =>
    exact ⟨if_neg (hne other h), rfl, decide_eq_false (hne other h)⟩
  | signatureInitVerify other key =>
    exact ⟨if_neg (hne other h), rfl, decide_eq_false (hne other h)⟩
  | signatureFeed other window =>
    cases window with
    | none => exact ⟨rfl, rfl, rfl⟩
    | some window => exact ⟨rfl, if_neg (hne other h), rfl⟩
  | signatureSign other out =>
    cases out with
    | none => exact ⟨rfl, rfl, rfl⟩
    | some w => exact ⟨rfl, rfl, decide_eq_false (hne other h)⟩
  | signatureVerify other window => exact ⟨rfl, rfl, decide_eq_false (hne other h)⟩
  | _ => exact ⟨rfl, rfl, rfl⟩

/-- A call that prepares a signature context starts its message afresh. -/
theorem restartsSignature_of_prepares? {vault : Vault} {handle : Address} {call : Call}
    {mode : Vault.SignatureMode} (h : call.prepares? vault handle = some mode) :
    call.restartsSignature handle = true := by
  cases call with
  | signatureInitSign other key =>
    refine decide_eq_true (Decidable.byContradiction fun hne => ?_)
    rw [prepares?, if_neg hne] at h
    cases h
  | signatureInitVerify other key =>
    refine decide_eq_true (Decidable.byContradiction fun hne => ?_)
    rw [prepares?, if_neg hne] at h
    cases h
  | _ => cases h

end Call

namespace Vault

open Check Step

variable {vault : Vault} {handle key : Address} {supply : Supply} {call : Call} {grant : Grant}
  {context : SignatureContext} {notes : List (Note Vault)}

theorem SignatureMode.seed?_eq_some_iff {mode : SignatureMode} {seed : Key32} :
    mode.seed? = some seed ↔ mode = .signing seed := by
  cases mode <;> simp [SignatureMode.seed?]

theorem SignatureMode.key?_eq_some_iff {mode : SignatureMode} {key : Key32} :
    mode.key? = some key ↔ mode = .checking key := by
  cases mode <;> simp [SignatureMode.key?]

theorem materialAt?_of_get? {material : KeyMaterial}
    (h : vault.contexts.get? key = some (.key (some material))) :
    vault.materialAt? key = some material := by
  rw [materialAt?, h]

/-! ## When the calls for signatures are granted -/

theorem signatureInitSign_eq_ok_iff : (signatureInitSign handle key).on vault = .ok grant ↔
    ∃ context, vault.contexts.get? handle = some (.signature context)
      ∧ ∃ material, (vault.contexts.get? key = some (.key (some material))
        ∧ material.type = .ed25519)
      ∧ ∃ seed, material.privateHalf = some seed
        ∧ (vault.set handle (.signature ⟨.signing seed, []⟩)).report 0 = grant := by
  simp only [signatureInitSign, on_look_eq_ok_iff, on_need_eq_ok_iff, on_put, on_pure,
    signatureAt_eq_ok_iff, keyOfType_eq_ok_iff, Except.ok.injEq]

theorem signatureInitVerify_eq_ok_iff : (signatureInitVerify handle key).on vault = .ok grant ↔
    ∃ context, vault.contexts.get? handle = some (.signature context)
      ∧ ∃ material, (vault.contexts.get? key = some (.key (some material))
        ∧ material.type = .ed25519)
      ∧ (vault.set handle (.signature ⟨.checking material.publicHalf, []⟩)).report 0 = grant := by
  simp only [signatureInitVerify, on_look_eq_ok_iff, on_put, on_pure, signatureAt_eq_ok_iff,
    keyOfType_eq_ok_iff, Except.ok.injEq]

theorem signatureFeed_eq_ok_iff {window : Option InputWindow} :
    (signatureFeed handle window).on vault = .ok grant ↔
      ∃ context, vault.contexts.get? handle = some (.signature context)
        ∧ context.mode ≠ .idle ∧ ∃ data, vault.input window = .ok data
        ∧ (vault.set handle (.signature ⟨context.mode, context.message ++ data⟩)).report 0
          = grant := by
  simp only [signatureFeed, on_look_eq_ok_iff, on_demand_eq_ok_iff, on_put, on_pure,
    signatureAt_eq_ok_iff, decide_eq_true_eq, Except.ok.injEq]

/-- A question for the length is answered without a change. -/
theorem signatureSign_none_eq_ok (h : (signatureSign handle none).on vault = .ok grant) :
    ∃ context, vault.contexts.get? handle = some (.signature context) ∧ context.mode ≠ .idle
      ∧ vault.report (Int32.ofNat signatureLength) = grant := by
  simp only [signatureSign, on_look_eq_ok_iff, on_need_eq_ok_iff, on_unraised_eq_ok_iff,
    signatureAt_eq_ok_iff, admits_none, SignatureMode.seed?_eq_some_iff] at h
  obtain ⟨context, hcontext, seed, hmode, -, _, hnone, hgrant⟩ := h
  cases hnone
  refine ⟨context, hcontext, fun hidle => ?_, Except.ok.inj hgrant⟩
  rw [hmode] at hidle
  cases hidle

theorem signatureSign_some_eq_ok {w : OutputWindow}
    (h : (signatureSign handle (some w)).on vault = .ok grant) :
    ∃ seed message, vault.contexts.get? handle = some (.signature ⟨.signing seed, message⟩)
      ∧ vault.admits signatureLength (some w) = .ok true
      ∧ (vault.set handle (.signature ⟨.signing seed, []⟩)).deliver (Ed25519.sign seed message)
        = grant := by
  simp only [signatureSign, on_look_eq_ok_iff, on_need_eq_ok_iff, on_unraised_eq_ok_iff,
    signatureAt_eq_ok_iff, SignatureMode.seed?_eq_some_iff] at h
  obtain ⟨⟨_, message⟩, hcontext, seed, rfl, -, admitted, hadmitted, hgrant⟩ := h
  obtain rfl : admitted = true := (admits_some_iff.mp hadmitted).2.2.2
  rw [if_pos rfl, on_isRaised] at hgrant
  split at hgrant
  · cases hgrant
  · obtain ⟨-, hgrant⟩ := on_unraised_eq_ok_iff.mp hgrant
    exact ⟨seed, message, hcontext, hadmitted, Except.ok.inj hgrant⟩

/-- The status of a check. -/
def checkStatus (valid : Bool) : Int32 := if valid then 1 else 0

/-- A check is granted to a context that is prepared for it, when there is a signature that can be
read and no fault is raised. -/
theorem signatureVerify_eq_ok_iff {window : Option InputWindow} :
    (signatureVerify handle window).on vault = .ok grant ↔
      ∃ key message, vault.contexts.get? handle = some (.signature ⟨.checking key, message⟩)
        ∧ ∃ w, window = some w ∧ w.InRange ∧ vault.raised .failedAccess4 = false
        ∧ vault.raised .nativeError3 = false
        ∧ (vault.set handle (.signature ⟨.checking key, []⟩)).report
          (checkStatus (Ed25519.verify key message w.addressed)) = grant := by
  simp only [signatureVerify, on_look_eq_ok_iff, on_need_eq_ok_iff, signatureAt_eq_ok_iff,
    read_eq_ok_iff, SignatureMode.key?_eq_some_iff, on_isRaised]
  constructor
  · rintro ⟨⟨_, message⟩, hcontext, key, rfl, _, ⟨w, hwindow, hrange, haccess, rfl⟩, hgrant⟩
    split at hgrant
    · cases hgrant
    · rename_i hnative
      exact ⟨key, message, hcontext, w, hwindow, hrange, haccess, Bool.eq_false_iff.mpr hnative,
        Except.ok.inj hgrant⟩
  · rintro ⟨key, message, hcontext, w, hwindow, hrange, haccess, hnative, rfl⟩
    refine ⟨_, hcontext, key, rfl, _, ⟨w, hwindow, hrange, haccess, rfl⟩, ?_⟩
    rw [hnative]
    rfl

/-! ## One call -/

/-- What a call that succeeds makes of a signature context. -/
def SignatureContext.under (context : SignatureContext) (vault : Vault) (handle : Address)
    (call : Call) : SignatureContext where
  mode := (call.prepares? vault handle).getD context.mode
  message :=
    if call.restartsSignature handle then [] else context.message ++ call.feedsSignature handle

/-- A call for the signature context at an address, other than to free it, that is granted. -/
theorem get?_grant_signature (hverdict : vault.verdict supply call = .ok grant)
    (hchanges : call.changes? = some (handle, .signature))
    (hdispose : call ≠ .signatureDispose handle) :
    ∃ before, vault.contexts.get? handle = some (.signature before)
      ∧ grant.vault.contexts.get? handle = some (.signature (before.under vault handle call)) := by
  cases call with
  | signatureInitSign other key =>
    obtain rfl : other = handle := congrArg Prod.fst (Option.some.inj hchanges)
    obtain ⟨before, hbefore, material, ⟨hkey, -⟩, seed, hseed, rfl⟩ :=
      signatureInitSign_eq_ok_iff.mp hverdict
    refine ⟨before, hbefore, ?_⟩
    simp [SignatureContext.under, Call.prepares?, Call.restartsSignature, materialAt?_of_get? hkey,
      hseed, report, get?_set_self]
  | signatureInitVerify other key =>
    obtain rfl : other = handle := congrArg Prod.fst (Option.some.inj hchanges)
    obtain ⟨before, hbefore, material, ⟨hkey, -⟩, rfl⟩ := signatureInitVerify_eq_ok_iff.mp hverdict
    refine ⟨before, hbefore, ?_⟩
    simp [SignatureContext.under, Call.prepares?, Call.restartsSignature, materialAt?_of_get? hkey,
      report, get?_set_self]
  | signatureFeed other window =>
    obtain rfl : other = handle := congrArg Prod.fst (Option.some.inj hchanges)
    obtain ⟨before, hbefore, -, data, hdata, rfl⟩ := signatureFeed_eq_ok_iff.mp hverdict
    obtain ⟨w, rfl, -, -, rfl⟩ := input_eq_ok_iff.mp hdata
    refine ⟨before, hbefore, ?_⟩
    simp [SignatureContext.under, Call.prepares?, Call.restartsSignature, Call.feedsSignature,
      report, get?_set_self]
  | signatureSign other out =>
    obtain rfl : other = handle := congrArg Prod.fst (Option.some.inj hchanges)
    cases out with
    | none =>
      -- Only the length is asked for, and nothing begins again.
      obtain ⟨before, hbefore, -, rfl⟩ := signatureSign_none_eq_ok hverdict
      refine ⟨before, hbefore, ?_⟩
      simpa [SignatureContext.under, Call.prepares?, Call.restartsSignature, Call.feedsSignature,
        report] using hbefore
    | some w =>
      obtain ⟨seed, message, hbefore, -, rfl⟩ := signatureSign_some_eq_ok hverdict
      refine ⟨_, hbefore, ?_⟩
      simp [SignatureContext.under, Call.prepares?, Call.restartsSignature, deliver, get?_set_self]
  | signatureVerify other window =>
    obtain rfl : other = handle := congrArg Prod.fst (Option.some.inj hchanges)
    obtain ⟨key, message, hbefore, w, -, -, -, -, rfl⟩ := signatureVerify_eq_ok_iff.mp hverdict
    refine ⟨_, hbefore, ?_⟩
    simp [SignatureContext.under, Call.prepares?, Call.restartsSignature, report, get?_set_self]
  | signatureDispose other =>
    obtain rfl : other = handle := congrArg Prod.fst (Option.some.inj hchanges)
    exact absurd rfl hdispose
  | _ => cases hchanges

/-- A call that frees a signature context leaves none there. -/
theorem get?_signatureDispose :
    (vault.answer supply (.signatureDispose handle)).2.contexts.get? handle
      ≠ some (.signature context) :=
  fun h => kindAt_answer_disposal supply .signature handle vault
    (congrArg (Option.map Context.domain) h)

/-- A signature context that has just been handed out is not prepared. -/
theorem mode_of_handle (hhandle : (vault.answer supply call).1.handle = some handle)
    (hcontext : (vault.answer supply call).2.contexts.get? handle = some (.signature context)) :
    context.mode = .idle := by
  obtain ⟨rfl, made, hmakes, hverdict⟩ := made_of_handle hhandle
  rw [answer_of_ok hverdict] at hcontext
  obtain rfl : made = .signature context :=
    Option.some.inj ((get?_allocated ..).symm.trans hcontext)
  cases call with
  | signatureAllocate slot =>
    have hgranted : (signatureAllocate supply.address slot).on vault
        = .ok (vault.allocated supply.address (.signature context)) := hverdict
    simp only [signatureAllocate, on_demand_eq_ok_iff, on_unraised_eq_ok_iff, on_allocate,
      Except.ok.injEq] at hgranted
    obtain ⟨-, -, hsame⟩ := hgranted
    have hidle : some (Context.signature ⟨.idle, []⟩) = some (.signature context) := by
      rw [← get?_allocated vault supply.address, hsame, get?_allocated]
    cases hidle
    rfl
  | _ => cases hmakes

/-! ## A run -/

/-- What the signature context at an address was last prepared for. -/
def lastPrepared? (handle : Address) (notes : List (Note Vault)) : Option SignatureMode :=
  notes.reverse.findSome? fun note =>
    if 0 ≤ note.reply.status then note.call.prepares? note.before handle else none

/-- What was fed to the signature context at an address since the latest call that started its
message afresh. -/
def signatureMessage (handle : Address) (notes : List (Note Vault)) : Bytes :=
  gathered (·.restartsSignature handle) (·.feedsSignature handle) (succeeded notes)

theorem lastPrepared?_concat (handle : Address) (notes : List (Note Vault)) (vault : Vault)
    (supply : Supply) (call : Call) : lastPrepared? handle (notes ++ [vault.note supply call])
      = if 0 ≤ (vault.answer supply call).1.status then
          (call.prepares? vault handle).or (lastPrepared? handle notes)
        else lastPrepared? handle notes := by
  unfold lastPrepared?
  rw [List.reverse_concat, List.findSome?_cons]
  by_cases h : 0 ≤ (vault.answer supply call).1.status
  · rw [if_pos h, reply_note, if_pos h, before_note, call_note]
    cases call.prepares? vault handle with
    | none => rfl
    | some mode => rfl
  · rw [if_neg h, reply_note, if_neg h]

theorem signatureMessage_concat (handle : Address) (notes : List (Note Vault)) (vault : Vault)
    (supply : Supply) (call : Call) : signatureMessage handle (notes ++ [vault.note supply call])
      = if 0 ≤ (vault.answer supply call).1.status then
          if call.restartsSignature handle then []
          else signatureMessage handle notes ++ call.feedsSignature handle
        else signatureMessage handle notes := gathered_succeeded_concat ..

/-- **A signature context is in step with the notes**: if it is prepared, then for what it was last
prepared for, and its message is what was fed to it since the latest fresh start. -/
def InStep (handle : Address) (notes : List (Note Vault)) (vault : Vault) : Prop :=
  ∀ context, vault.contexts.get? handle = some (.signature context) → context.mode ≠ .idle →
    lastPrepared? handle notes = some context.mode
      ∧ context.message = signatureMessage handle notes

namespace InStep

/-- **A call leaves a signature context in step** with the notes. -/
theorem answer (h : InStep handle notes vault) (supply : Supply) (call : Call) :
    InStep handle (notes ++ [vault.note supply call]) (vault.answer supply call).2 := by
  intro context hcontext hmode
  rw [lastPrepared?_concat, signatureMessage_concat]
  cases hverdict : vault.verdict supply call with
  | error refusal =>
    have hneg : ¬ 0 ≤ (vault.answer supply call).1.status := by
      rw [status_of_error hverdict]
      exact Int32.not_le.mpr (status_neg refusal.code)
    rw [contexts_of_error hverdict] at hcontext
    rw [if_neg hneg, if_neg hneg]
    exact h context hcontext hmode
  | ok grant =>
    have hpos : 0 ≤ (vault.answer supply call).1.status := status_nonneg_of_ok hverdict
    rw [if_pos hpos, if_pos hpos]
    by_cases hchanges : call.changes? = some (handle, .signature)
    · have hdispose : call ≠ .signatureDispose handle := by
        rintro rfl
        exact get?_signatureDispose hcontext
      obtain ⟨before, hbefore, hafter⟩ := get?_grant_signature hverdict hchanges hdispose
      rw [answer_of_ok hverdict] at hcontext
      obtain rfl := Context.signature.inj (Option.some.inj (hafter.symm.trans hcontext))
      cases hprepares : call.prepares? vault handle with
      | some mode =>
        have hrestarts := Call.restartsSignature_of_prepares? hprepares
        simp [SignatureContext.under, hprepares, hrestarts]
      | none =>
        have hsame : (before.under vault handle call).mode = before.mode := by
          simp [SignatureContext.under, hprepares]
        rw [hsame] at hmode ⊢
        obtain ⟨hlast, hmessage⟩ := h before hbefore hmode
        refine ⟨hlast, ?_⟩
        rw [SignatureContext.under, hmessage]
    · obtain ⟨hprepares, hfeeds, hrestarts⟩ := Call.prepares?_of_changes? vault hchanges
      have hhandle : (vault.answer supply call).1.handle ≠ some handle := fun hhandle =>
        hmode (mode_of_handle hhandle hcontext)
      have hbefore := get?_of_get?_answer hcontext hhandle hchanges
      rw [hprepares, hfeeds, hrestarts]
      simpa using h context hbefore hmode

/-- **A run leaves a signature context in step** with its notes. -/
theorem after (h : InStep handle notes vault) (calls : List (Supply × Call)) :
    InStep handle (notes ++ vault.history calls) (vault.after calls) := by
  induction calls generalizing vault notes with
  | nil =>
    rw [history, List.append_nil]
    exact h
  | cons first calls ih =>
    rw [history, List.append_cons]
    exact ih (h.answer first.1 first.2)

/-- In the beginning there are no contexts. -/
theorem start (handle : Address) : InStep handle [] empty := nofun

end InStep

/-! ## Signatures and checks -/

/-- **A context can check** what is in a window: it is prepared with a key, the window can be read,
and no fault is raised. -/
structure Checkable (vault : Vault) (handle : Address) (window : Option InputWindow) (key : Key32)
    (w : InputWindow) : Prop where
  /-- The context is prepared with the key. -/
  prepared : ∃ message, vault.contexts.get? handle = some (.signature ⟨.checking key, message⟩)
  /-- The window is there. -/
  window : window = some w
  /-- It lies in its buffer. -/
  inRange : w.InRange
  /-- It can be accessed. -/
  readable : vault.raised .failedAccess4 = false
  /-- Checking does not fail. -/
  working : vault.raised .nativeError3 = false

/-- **A signature is written** by a context that is in step with the notes. -/
theorem InStep.sign (h : InStep handle notes vault) {w : OutputWindow}
    (hstatus : 0 ≤ (vault.answer supply (.signatureSign handle (some w))).1.status) :
    (vault.answer supply (.signatureSign handle (some w))).1.status = 64
      ∧ ∃ seed, lastPrepared? handle notes = some (.signing seed)
        ∧ Delivered w (Ed25519.sign seed (signatureMessage handle notes))
          (vault.answer supply (.signatureSign handle (some w))).1 := by
  obtain ⟨grant, hgrant⟩ := exists_grant_of_nonneg hstatus
  rw [answer_of_ok hgrant]
  obtain ⟨seed, message, hcontext, hadmits, rfl⟩ := signatureSign_some_eq_ok hgrant
  obtain ⟨hlast, rfl⟩ := h _ hcontext nofun
  refine ⟨?_, seed, hlast, delivered_of_admits vault ?_ ?_ none⟩
  · rw [deliver, Ed25519.length_sign]
    rfl
  · rw [Ed25519.length_sign]
    exact hadmits
  · rw [Ed25519.length_sign]
    decide

theorem checkStatus_inj {valid valid' : Bool} :
    checkStatus valid = checkStatus valid' ↔ valid = valid' := by
  cases valid <;> cases valid' <;> decide

theorem checkStatus_nonneg (valid : Bool) : 0 ≤ checkStatus valid := by
  cases valid <;> decide

/-- **What a check reports**, by a context that is in step with the notes. -/
theorem InStep.status_verify_iff (h : InStep handle notes vault) {window : Option InputWindow}
    {valid : Bool} : (vault.answer supply (.signatureVerify handle window)).1.status
        = checkStatus valid ↔
      ∃ key w, Checkable vault handle window key w
        ∧ lastPrepared? handle notes = some (.checking key)
        ∧ Ed25519.verify key (signatureMessage handle notes) w.addressed = valid := by
  constructor
  · intro hstatus
    have hpos : 0 ≤ (vault.answer supply (.signatureVerify handle window)).1.status := by
      rw [hstatus]
      exact checkStatus_nonneg valid
    obtain ⟨grant, hgrant⟩ := exists_grant_of_nonneg hpos
    rw [answer_of_ok hgrant] at hstatus
    obtain ⟨key, message, hcontext, w, hwindow, hrange, haccess, hnative, rfl⟩ :=
      signatureVerify_eq_ok_iff.mp hgrant
    obtain ⟨hlast, rfl⟩ := h _ hcontext nofun
    exact ⟨key, w, ⟨⟨_, hcontext⟩, hwindow, hrange, haccess, hnative⟩, hlast,
      checkStatus_inj.mp hstatus⟩
  · rintro ⟨key, w, ⟨⟨message, hcontext⟩, hwindow, hrange, haccess, hnative⟩, -, rfl⟩
    have hgrant : vault.verdict supply (.signatureVerify handle window) = .ok _ :=
      signatureVerify_eq_ok_iff.mpr
        ⟨key, message, hcontext, w, hwindow, hrange, haccess, hnative, rfl⟩
    obtain ⟨-, rfl⟩ := h _ hcontext nofun
    rw [answer_of_ok hgrant]
    rfl

/-- **Signatures are those of what was fed.** In every run from the beginning, and for every
context in it:

* where a signature is asked for in a window and no failure is reported, the status is 64 and the
  signature of the message gathered is stored, under the seed that the container held when the
  context was last prepared;
* a check reports 1, or 0, exactly where the context can check what is in the window, and Ed25519
  accepts it, or does not, as a signature of the message gathered, for the public key that the
  container held when the context was last prepared;
* if Ed25519 accepts the signatures that it makes, a check in any run, by any context that was last
  prepared with the public key of the seed and has gathered the same message, reports 1. -/
theorem signatures_of_what_was_fed (calls : List (Supply × Call)) (handle : Address) :
    let vault := empty.after calls
    let notes := empty.history calls
    let message := signatureMessage handle notes
    (∀ supply w, 0 ≤ (vault.answer supply (.signatureSign handle (some w))).1.status →
      (vault.answer supply (.signatureSign handle (some w))).1.status = 64
      ∧ ∃ seed, lastPrepared? handle notes = some (.signing seed)
        ∧ Delivered w (Ed25519.sign seed message)
          (vault.answer supply (.signatureSign handle (some w))).1)
    ∧ (∀ supply window valid,
      (vault.answer supply (.signatureVerify handle window)).1.status
          = (if valid = true then 1 else 0) ↔
        ∃ key w, Checkable vault handle window key w
          ∧ lastPrepared? handle notes = some (.checking key)
          ∧ Ed25519.verify key message w.addressed = valid)
    ∧ ∀ supply w seed, 0 ≤ (vault.answer supply (.signatureSign handle (some w))).1.status →
      lastPrepared? handle notes = some (.signing seed) →
      Ed25519.verify (Ed25519.publicKey seed) message (Ed25519.sign seed message) = true →
      ∀ calls' handle' supply' window key w',
        Checkable (empty.after calls') handle' window key w' →
        lastPrepared? handle' (empty.history calls') = some (.checking (Ed25519.publicKey seed)) →
        signatureMessage handle' (empty.history calls') = message →
        w'.addressed = (vault.answer supply (.signatureSign handle (some w))).1.written →
        ((empty.after calls').answer supply' (.signatureVerify handle' window)).1.status = 1 := by
  intro vault notes message
  have hstep : InStep handle notes vault := (InStep.start handle).after calls
  refine ⟨fun supply w => hstep.sign, fun supply window valid => hstep.status_verify_iff, ?_⟩
  intro supply w seed hsign hseed haccepts calls' handle' supply' window key w' hcheckable hkey
    hmessage haddressed
  have hstep' : InStep handle' (empty.history calls') (empty.after calls') :=
    (InStep.start handle').after calls'
  -- The signature is that of the message, under the seed that the context was prepared with.
  obtain ⟨-, seed', hseed', hdelivered⟩ := hstep.sign hsign
  obtain rfl := SignatureMode.signing.inj (Option.some.inj (hseed'.symm.trans hseed))
  obtain ⟨_, hcontext⟩ := hcheckable.prepared
  obtain rfl := SignatureMode.checking.inj
    (Option.some.inj ((hstep' _ hcontext nofun).1.symm.trans hkey))
  show _ = checkStatus true
  refine hstep'.status_verify_iff.mpr ⟨_, w', hcheckable, hkey, ?_⟩
  rw [hmessage, haddressed, hdelivered.written]
  exact haccepts

/-- A run in which one context is prepared to sign and another to check, with a key that is then
freed, and three bytes are fed to each, to the second in two pieces. In between a check is asked of
the context that is to sign. -/
def exampleSigned : List (Supply × Call) :=
  [(supplyOf 1, .keyAllocate true), (supplyOf 1, .keyGenerate 1 1),
    (supplyOf 2, .signatureAllocate true), (supplyOf 3, .signatureAllocate true),
    (supplyOf 1, .signatureInitSign 2 1), (supplyOf 1, .signatureInitVerify 3 1),
    (supplyOf 1, .keyDispose 1), (supplyOf 1, .signatureFeed 2 (some ⟨[0x61, 0x62, 0x63], 0, 3⟩)),
    (supplyOf 1, .signatureFeed 3 (some ⟨[0x61], 0, 1⟩)),
    (supplyOf 1, .signatureVerify 2 (some ⟨[], 0, 0⟩)),
    (supplyOf 1, .signatureFeed 3 (some ⟨[0x61, 0x62, 0x63], 1, 2⟩))]

/-- The signature that the first context then writes. -/
def exampleSignature : Bytes :=
  ((empty.after exampleSigned).answer (supplyOf 1) (.signatureSign 2 (some ⟨64, 0, 64⟩))).1.written

/-- The second context accepts the signature that the first has written. -/
theorem signatures_of_what_was_fed_exampleSigned :
    lastPrepared? 2 (empty.history exampleSigned) = some (.signing exampleSeed)
    ∧ ((empty.after exampleSigned).answer (supplyOf 1)
      (.signatureVerify 3 (some ⟨exampleSignature, 0, 64⟩))).1.status = 1 := by
  obtain ⟨hsign, -, hagree⟩ := signatures_of_what_was_fed exampleSigned 2
  have hstatus : 0 ≤ ((empty.after exampleSigned).answer (supplyOf 1)
      (.signatureSign 2 (some ⟨64, 0, 64⟩))).1.status := by decide +kernel
  have hprepared : lastPrepared? 2 (empty.history exampleSigned)
      = some (.signing exampleSeed) := rfl
  have hmessage : signatureMessage 2 (empty.history exampleSigned) = [0x61, 0x62, 0x63] := by
    decide +kernel
  have hmessage' : signatureMessage 3 (empty.history exampleSigned) = [0x61, 0x62, 0x63] := by
    decide +kernel
  have haccepts : Ed25519.verify (Ed25519.publicKey exampleSeed) [0x61, 0x62, 0x63]
      (Ed25519.sign exampleSeed [0x61, 0x62, 0x63]) = true := by decide +kernel
  obtain ⟨-, seed, -, hdelivered⟩ := hsign _ _ hstatus
  have hlength : exampleSignature.length = 64 := by
    rw [exampleSignature, hdelivered.written, Ed25519.length_sign]
  have haddressed : InputWindow.addressed ⟨exampleSignature, 0, 64⟩ = exampleSignature :=
    List.take_of_length_le (Nat.le_of_eq hlength)
  have hcheckable : Checkable (empty.after exampleSigned) 3 (some ⟨exampleSignature, 0, 64⟩)
      (Ed25519.publicKey exampleSeed) ⟨exampleSignature, 0, 64⟩ :=
    ⟨⟨[0x61, 0x62, 0x63], rfl⟩, rfl,
      ⟨Int32.le_refl 0, by decide, Nat.le_of_eq hlength.symm⟩, by decide +kernel, by decide +kernel⟩
  have hkey : lastPrepared? 3 (empty.history exampleSigned)
      = some (.checking (Ed25519.publicKey exampleSeed)) := rfl
  rw [← hmessage] at haccepts
  exact ⟨hprepared, hagree _ _ _ hstatus hprepared haccepts _ _ _ _ _ _ hcheckable hkey
    (hmessage'.trans hmessage.symm) haddressed⟩

end Vault

end Custody

import Custody.Proofs.Vault.Digests

/-!
# Questions for a length

Six calls write bytes whose number the caller may ask for first, by making the call without a
window. Such a question changes nothing, and its answer is one on which the caller can allocate: a
failure that it reports is the failure of the call with any window, and a length is the one that
the call then writes, in a window that has room for it (`queries_foretell`).

The reason is that everything that is checked before the window is checked in both forms of the
call. A call is **foretold** when it either fails before it looks at the window, or has a length
with which the window is looked at, and afterwards only late failures are left (`Foretold`). It is
shown along the steps of the call, with one rule for each kind of step before the window. That
the digest of a context has the length that is reported for it is an invariant of the library
(`Measured`).
-/

namespace Custody.Vault

open Curve Step

variable {α : Type} {vault : Vault} {handle : Address}

/-! ## The length of a digest -/

/-- A digest context has the length that its algorithm fixes, if it fixes one. -/
def DigestContext.Measured (context : DigestContext) : Prop :=
  context.algorithm.fixedLength?.getD context.length = context.length

/-- **The length of every digest is the one that its context reports.** -/
def Measured (vault : Vault) : Prop :=
  ∀ handle context, vault.contexts.get? handle = some (.digest context) → context.Measured

/-- The digest of a measured context is as long as its length says. -/
theorem DigestContext.Measured.length_digest {context : DigestContext} (h : context.Measured) :
    context.digest.length = context.length := (Hash.Algorithm.length_digest ..).trans h

/-- A context that is made with the length of its algorithm is measured. -/
theorem measured_outputLength (algorithm : Hash.Algorithm) (asked : Int32) :
    DigestContext.Measured ⟨algorithm, algorithm.outputLength asked, []⟩ := by
  unfold DigestContext.Measured Hash.Algorithm.outputLength
  cases algorithm.fixedLength? <;> rfl

/-- Feeding and restarting a context keep its length. -/
theorem DigestContext.Measured.under {context : DigestContext} (h : context.Measured)
    (handle : Address) (call : Call) : (context.under handle call).Measured := by
  unfold DigestContext.under
  split
  · exact h
  · exact h

section Calls

variable {supply : Supply} {call : Call}

/-- A digest context that has just been handed out. -/
theorem measured_of_handle {context : DigestContext}
    (hhandle : (vault.answer supply call).1.handle = some handle)
    (hcontext : (vault.answer supply call).2.contexts.get? handle = some (.digest context)) :
    context.Measured := by
  obtain ⟨-, made, hmakes, hverdict⟩ := made_of_handle hhandle
  have hsame : made = .digest context := by
    rw [answer_of_ok hverdict, get?_allocated] at hcontext
    exact Option.some.inj hcontext
  subst hsame
  cases call with
  | digestAllocate name asked slot =>
    obtain ⟨algorithm, -, hmade⟩ := get?_of_digestAllocate rfl hhandle
    obtain rfl := Context.digest.inj (Option.some.inj (hcontext.symm.trans hmade))
    exact measured_outputLength algorithm asked
  | _ => cases hmakes

/-- A call that frees a digest context leaves none there. -/
theorem get?_digestDispose {context : DigestContext} :
    (vault.answer supply (.digestDispose handle)).2.contexts.get? handle
      ≠ some (.digest context) :=
  fun h => kindAt_answer_disposal supply .digest handle vault
    (congrArg (Option.map Context.domain) h)

/-- **A call keeps the digests measured.** -/
theorem Measured.answer (h : vault.Measured) (supply : Supply) (call : Call) :
    (vault.answer supply call).2.Measured := by
  intro handle context hcontext
  by_cases hhandle : (vault.answer supply call).1.handle = some handle
  · exact measured_of_handle hhandle hcontext
  by_cases hsame : (vault.answer supply call).2.contexts.get? handle = vault.contexts.get? handle
  · exact h handle context (hsame.symm.trans hcontext)
  obtain hmade | ⟨domain, -, hkind⟩ := frame_answer hsame
  · exact absurd hmade hhandle
  have hafter : (vault.answer supply call).2.kindAt handle = some .digest :=
    congrArg (Option.map Context.domain) hcontext
  rw [kindAt_answer, hkind] at hafter
  obtain rfl := Call.eq_of_kindAfter hhandle hafter
  obtain ⟨before, hbefore, hdomain⟩ := Option.map_eq_some_iff.mp hkind
  cases before with
  | digest before =>
    have hdispose : call ≠ .digestDispose handle := by
      rintro rfl
      exact get?_digestDispose hcontext
    rw [get?_answer_digest hbefore hhandle hdispose] at hcontext
    obtain rfl := Context.digest.inj (Option.some.inj hcontext)
    split
    · exact (h handle before hbefore).under handle call
    · exact h handle before hbefore
  | key material => cases hdomain
  | signature context => cases hdomain

end Calls

/-- **The digests are measured** in every library that a run of calls leads to. -/
theorem measured_after (calls : List (Supply × Call)) : (empty.after calls).Measured := by
  suffices h : ∀ vault : Vault, vault.Measured → (vault.after calls).Measured from h empty nofun
  induction calls with
  | nil => exact fun _ h => h
  | cons first calls ih => exact fun vault h => ih _ (h.answer first.1 first.2)

/-! ## What is left after the window -/

/-- **What is left of a call when its window has been admitted**: it writes the bytes that were
asked for, or fails late. -/
def Late (vault : Vault) (needed : Nat) (step : Step Int32) : Prop :=
  step.Ends (.start vault)
    (fun status after => after.handle = none ∧ status = Int32.ofNat needed
      ∧ after.written.length = needed)
    -- The native library fails, or the length is not the one that was asked for; what has been
    -- written by then fits as well.
    fun code after => (code = .nativeError ∨ code = .unexpectedSigLenChange)
      ∧ after.written.length ≤ needed

/-- To write as many bytes as were admitted cannot fail. -/
theorem late_deliver {written : Bytes} {needed : Nat} (h : written.length = needed) :
    Late vault needed (Step.deliver written) := by
  subst h
  exact Ends.store (Ends.pure ⟨rfl, rfl, rfl⟩)

/-- To put a context in its place, after the bytes have been written, cannot fail. -/
theorem late_deliver_put {context : Context} {written : Bytes} {needed : Nat}
    (h : written.length = needed) : Late vault needed
      (Step.deliver written >>= fun length => put handle context >>= fun _ => pure length) := by
  subst h
  exact Ends.bind (Ends.store (Ends.pure (Ends.put (Ends.pure ⟨rfl, rfl, rfl⟩))))

theorem late_saying (needed : Nat) (line : String) :
    Late vault needed (failSaying .nativeError line) :=
  Ends.failSaying ⟨.inl rfl, Nat.zero_le _⟩

/-- **A call that is foretold by the question for its length.** Here the call is given by its
steps, for each window and each supply from outside. -/
inductive Foretold (vault : Vault) (step : Supply → Option OutputWindow → Step Int32) : Prop
  /-- It is refused before the window is looked at. -/
  | refused (code : ErrorCode)
    (h : ∀ supply out, (step supply out).on vault = .error (vault.refused code))
  /-- The window has to have room for some bytes, and the question reports how many. -/
  | admitted (needed : Nat) (late : Supply → Step Int32) (hlimit : needed < wordLimit)
      (hlate : ∀ supply, Late vault needed (late supply))
      (h : ∀ supply out, (step supply out).on vault
        = (look (·.admits needed out) >>= fun admitted =>
          if admitted then late supply else pure (Int32.ofNat needed)).on vault)

namespace Foretold

/-- It is the verdicts that count. -/
theorem congr {step step' : Supply → Option OutputWindow → Step Int32}
    (hsame : ∀ supply out, (step supply out).on vault = (step' supply out).on vault)
    (h : Foretold vault step') : Foretold vault step := by
  cases h with
  | refused code h => exact .refused code fun supply out => (hsame supply out).trans (h supply out)
  | admitted needed late hlimit hlate h =>
    exact .admitted needed late hlimit hlate fun supply out =>
      (hsame supply out).trans (h supply out)

/-- A look at the library comes before the window. -/
theorem look {check : Vault → Check α} {rest : α → Supply → Option OutputWindow → Step Int32}
    (hrest : ∀ a, check vault = .ok a → Foretold vault (rest a)) :
    Foretold vault fun supply out => Step.look check >>= fun a => rest a supply out := by
  cases hcheck : check vault with
  | error code => exact .refused code fun _ _ => on_look_of_error hcheck
  | ok a => exact congr (fun _ _ => on_look_of_ok hcheck) (hrest a hcheck)

/-- A value that has to be there, before the window is looked at. -/
theorem need {value : Option α} {code : ErrorCode}
    {rest : α → Supply → Option OutputWindow → Step Int32} (hrest : ∀ a, Foretold vault (rest a)) :
    Foretold vault fun supply out => Step.need value code >>= fun a => rest a supply out :=
  look fun a _ => hrest a

/-- A fault that is looked at before the window is. -/
theorem unraised {flag : FaultFlag} {code : ErrorCode}
    {rest : Supply → Option OutputWindow → Step Int32} (hrest : Foretold vault rest) :
    Foretold vault fun supply out => Step.unraised flag code >>= fun _ => rest supply out :=
  look fun _ _ => hrest

/-- The length of a digest is known before it is finished. -/
theorem digestFinish (hmeasured : vault.Measured) (handle : Address) :
    Foretold vault fun _ out => Vault.digestFinish handle out := by
  refine look fun context hcontext => look fun length hreported => ?_
  have hlength := (hmeasured handle context (digestAt_eq_ok_iff.mp hcontext)).length_digest
  obtain ⟨-, hlimit, rfl⟩ := reportedLength_eq_ok_iff.mp hreported
  refine .admitted context.length _ hlimit (fun _ => ?_) fun _ _ => rfl
  exact Ends.isRaised (fun _ => late_saying _ _) fun _ => late_deliver_put hlength

/-- Half a key has 32 bytes. -/
theorem keyEncode (half : Key32) : Foretold vault fun _ out => Vault.keyEncode half out := by
  have hlimit : half.bytes.length < wordLimit := by rw [half.length_eq]; decide
  exact unraised (.admitted half.bytes.length _ hlimit (fun _ => late_deliver rfl) fun _ _ => rfl)

theorem keyEncodePublic (handle : Address) :
    Foretold vault fun _ out => Vault.keyEncodePublic handle out :=
  look fun _ _ => keyEncode _

theorem keyEncodePrivate (handle : Address) :
    Foretold vault fun _ out => Vault.keyEncodePrivate handle out :=
  look fun _ _ => need fun _ => keyEncode _

/-- The ciphertext is written by the time that the secret may fail. -/
theorem encapsulate (handle : Address) :
    Foretold vault fun supply out => Vault.encapsulate supply.seed handle out := by
  refine look fun key _ => unraised (.admitted (ciphertextLength + secretLength) _ (by decide)
    (fun supply => ?_) fun _ _ => rfl)
  refine Ends.draw (fun _ => ⟨.inl rfl, Nat.zero_le _⟩) fun seed _ =>
    Ends.store (Ends.kemSecret (fun _ => ⟨.inl rfl, ?_⟩) fun secret hsecret =>
      Ends.store (Ends.pure ⟨rfl, rfl, ?_⟩))
  · show ([] ++ _).length ≤ _
    rw [List.nil_append, Key32.length_eq]
    decide
  · show ([] ++ _ ++ secret).length = _
    rw [List.nil_append, List.length_append, Key32.length_eq, length_of_kemSecret? hsecret]
    rfl

/-- A secret has 32 bytes, whether it can be opened or not. -/
theorem decapsulate (handle : Address) (ciphertext : Option InputWindow) :
    Foretold vault fun _ out => Vault.decapsulate handle ciphertext out := by
  refine look fun _ _ => need fun _ => look fun _ _ => need fun _ =>
    .admitted secretLength _ (by decide) (fun _ => ?_) fun _ _ => rfl
  exact Ends.kemSecret (fun _ => ⟨.inl rfl, Nat.zero_le _⟩)
    fun _ hsecret => late_deliver (length_of_kemSecret? hsecret)

/-- A signature has 64 bytes, whatever is signed. -/
theorem signatureSign (handle : Address) :
    Foretold vault fun _ out => Vault.signatureSign handle out := by
  refine look fun _ _ => need fun _ => unraised (.admitted signatureLength _ (by decide)
    (fun _ => ?_) fun _ _ => rfl)
  exact Ends.isRaised (fun _ => late_saying _ _) fun _ =>
    Ends.unraised (fun _ => ⟨.inr rfl, Nat.zero_le _⟩) fun _ =>
      late_deliver_put (Ed25519.length_sign ..)

end Foretold

/-! ## Questions -/

/-- A call whose window may be left out, to ask how many bytes it would write. -/
inductive Query
  /-- For a digest. -/
  | digestFinish (handle : Address)
  /-- For a public key. -/
  | keyEncodePublic (handle : Address)
  /-- For a private key. -/
  | keyEncodePrivate (handle : Address)
  /-- For a ciphertext with its secret. -/
  | encapsulate (handle : Address)
  /-- For the secret of a ciphertext. -/
  | decapsulate (handle : Address) (ciphertext : Option InputWindow)
  /-- For a signature. -/
  | signatureSign (handle : Address)

/-- The call with a window, or without one. -/
def Query.call : Query → Option OutputWindow → Call
  | digestFinish handle => .digestFinish handle
  | keyEncodePublic handle => .keyEncodePublic handle
  | keyEncodePrivate handle => .keyEncodePrivate handle
  | encapsulate handle => .encapsulate handle
  | decapsulate handle ciphertext => .decapsulate handle ciphertext
  | signatureSign handle => .signatureSign handle

/-- **Every call that can be a question is foretold by it.** -/
theorem foretold (hmeasured : vault.Measured) (query : Query) :
    Foretold vault fun supply out => entry supply (query.call out) := by
  cases query with
  | digestFinish handle => exact .digestFinish hmeasured handle
  | keyEncodePublic handle => exact .keyEncodePublic handle
  | keyEncodePrivate handle => exact .keyEncodePrivate handle
  | encapsulate handle => exact .encapsulate handle
  | decapsulate handle ciphertext => exact .decapsulate handle ciphertext
  | signatureSign handle => exact .signatureSign handle

/-- A window without room is refused. -/
theorem admits_of_lt {needed : Nat} {w : OutputWindow} (hrange : w.InRange)
    (haccess : vault.raised .failedAccess2 = false) (h : w.width < needed) :
    vault.admits needed (some w) = .error .outputTooSmall := by
  have hroom : w.room vault.raised = .ok w.width :=
    OutputWindow.room_eq_ok_iff.mpr ⟨hrange, haccess, rfl⟩
  rw [admits, OutputWindow.admits, hroom]
  exact if_pos h

/-- The reply to a call whose window has been admitted. -/
theorem Late.reply {step : Step Int32} {needed : Nat} {w : OutputWindow}
    (hlate : Late vault needed step) (hlimit : needed < wordLimit)
    (hadmits : vault.admits needed (some w) = .ok true) :
    let reply := (settle (step.on vault)).1
    reply.status = Int32.ofNat needed ∧ Delivered w reply.written reply
      ∨ reply.status = ErrorCode.nativeError.status
      ∨ reply.status = ErrorCode.unexpectedSigLenChange.status := by
  cases hverdict : step.on vault with
  | error refusal =>
    obtain ⟨hcode | hcode, -⟩ := hlate.of_on_error hverdict
    · exact .inr (.inl (congrArg ErrorCode.status hcode))
    · exact .inr (.inr (congrArg ErrorCode.status hcode))
  | ok grant =>
    obtain ⟨-, hstatus, hlength⟩ := hlate.of_on_ok hverdict
    have hdelivered := vault.delivered_of_admits (hlength ▸ hadmits) (hlength ▸ hlimit) grant.handle
    rw [hlength, ← hstatus] at hdelivered
    exact .inl ⟨hstatus, hdelivered⟩

/-- **A question foretells the call.** In every library that a run of calls leads to, and whatever
is taken from outside:

* a question leaves the library as it is, and writes nothing;
* a failure that it reports is that of the call with any window;
* if it reports a length, the call with a window that lies in its buffer and can be accessed is
  refused without a trace where the window is shorter, and otherwise writes exactly that many bytes
  at the start of the window and reports their number, unless it ends with one of the two late
  failures. -/
theorem queries_foretell (calls : List (Supply × Call)) (query : Query) (supply supply' : Supply) :
    let vault := empty.after calls
    let asked := vault.answer supply (query.call none)
    asked.2 = vault ∧ asked.1.handle = none ∧ asked.1.written = []
    ∧ (asked.1.status < 0 → ∀ w, vault.answer supply' (query.call (some w)) = asked)
    ∧ (0 ≤ asked.1.status → ∀ w : OutputWindow, w.InRange → vault.raised .failedAccess2 = false →
      let answer := vault.answer supply' (query.call (some w))
      (w.width < asked.1.status.toInt →
        answer = (⟨ErrorCode.outputTooSmall.status, none, []⟩, vault))
      ∧ (asked.1.status.toInt ≤ w.width →
        answer.1.status = asked.1.status ∧ Delivered w answer.1.written answer.1
        ∨ answer.1.status = ErrorCode.nativeError.status
        ∨ answer.1.status = ErrorCode.unexpectedSigLenChange.status)) := by
  intro vault asked
  cases foretold (measured_after calls) query with
  | refused code h =>
    have hasked : asked = (⟨code.status, none, []⟩, vault) := answer_of_refused (h supply none)
    rw [hasked]
    refine ⟨rfl, rfl, rfl, fun _ w => answer_of_refused (h supply' (some w)), fun hpos => ?_⟩
    exact absurd hpos (Int32.not_le.mpr (status_neg code))
  | admitted needed late hlimit hlate h =>
    have hasked : asked = (⟨Int32.ofNat needed, none, []⟩, vault) := answer_of_ok (h supply none)
    have hneeded : (Int32.ofNat needed).toInt = needed := by
      unfold wordLimit at hlimit
      exact Int32.toInt_ofNat_of_lt (by omega)
    rw [hasked]
    refine ⟨rfl, rfl, rfl, fun hneg => ?_,
      fun _ w hrange haccess => ⟨fun hshort => ?_, fun hlong => ?_⟩⟩
    · exact absurd (ofNat_nonneg hlimit) (Int32.not_le.mpr hneg)
    · -- A window that is too short is refused before anything else can happen.
      rw [hneeded] at hshort
      have hrefused := (h supply' (some w)).trans
        (on_look_of_error (admits_of_lt hrange haccess (by omega)))
      exact answer_of_refused hrefused
    · -- In one that is long enough, only what comes late can still fail.
      rw [hneeded] at hlong
      have hadmits : vault.admits needed (some w) = .ok true :=
        admits_some_iff.mpr ⟨hrange, haccess, by omega, rfl⟩
      have hverdict : vault.verdict supply' (query.call (some w)) = (late supply').on vault := by
        rw [verdict, h, on_look_of_ok hadmits, if_pos rfl]
      have hanswer : vault.answer supply' (query.call (some w))
          = settle ((late supply').on vault) := congrArg settle hverdict
      rw [hanswer]
      exact (hlate supply').reply hlimit hadmits

/-- A digest context at 1. -/
def exampleHashing : List (Supply × Call) :=
  [(supplyOf 1, .digestAllocate (some (Text.utf8 "sha-256")) 0 true)]

/-- A digest of 32 bytes is asked for, and then for a window of 31. -/
theorem queries_foretell_exampleHashing :
    ((empty.after exampleHashing).answer (supplyOf 1) (.digestFinish 1 none)).1.status = 32
    ∧ (empty.after exampleHashing).answer (supplyOf 2) (.digestFinish 1 (some ⟨40, 4, 31⟩))
      = (⟨ErrorCode.outputTooSmall.status, none, []⟩, empty.after exampleHashing) := by
  have hasked : ((empty.after exampleHashing).answer (supplyOf 1)
      (.digestFinish 1 none)).1.status = 32 := by decide +kernel
  obtain ⟨-, -, -, -, hforetold⟩ :=
    queries_foretell exampleHashing (.digestFinish 1) (supplyOf 1) (supplyOf 2)
  have hpos : 0 ≤ ((empty.after exampleHashing).answer (supplyOf 1)
      (.digestFinish 1 none)).1.status := by rw [hasked]; decide
  have hshort : ((OutputWindow.mk 40 4 31).width : Int) < ((empty.after exampleHashing).answer
      (supplyOf 1) (.digestFinish 1 none)).1.status.toInt := by rw [hasked]; decide
  exact ⟨hasked, (hforetold hpos ⟨40, 4, 31⟩ (by decide) (by decide +kernel)).1 hshort⟩

end Custody.Vault

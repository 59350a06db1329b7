import Custody.Proofs.Vault.Changes

/-!
# The diagnostics are not read

Only `drain` is there to read the diagnostics. Every other call does the same whatever they are: if
two libraries differ in their diagnostics alone, then it gets the same reply from both, and leaves
them to differ in the diagnostics alone (`Vault.Alike.reply`, `Vault.Alike.answer`).

This too is proved along the steps (`Step.Unread`). The steps of the library are not made so that
they could not read the diagnostics; a look at the library may look at them, and the one step of
`drain` that takes them does.

Two libraries that are alike give the same replies from then on, as long as nobody takes the
diagnostics; whoever does take them gets a text that depends on the past. Calls that fail keep a
library like what it was, and `Vault.failures_leave_no_trace` is built on that.
-/

namespace Custody.Vault

open Hash

variable {α β : Type}

/-- A state of a call with other diagnostics. -/
def CallState.saying (state : CallState) (lines : List String) : CallState :=
  { state with vault := state.vault.saying lines }

namespace Step

/-- **A step that does not read the diagnostics**: it ends in the same way with others, and in a
state that differs in them alone. -/
def Unread (step : Step α) : Prop :=
  ∀ state lines, ∃ lines',
    step.exec (state.saying lines) = ((step.exec state).1, (step.exec state).2.saying lines')

namespace Unread

/-! ## Rules -/

/-- **One step after another.** The second reads no diagnostics whatever value the first has given.
-/
theorem bind {step : Step α} {rest : α → Step β} (h : step.Unread)
    (hrest : ∀ a, (rest a).Unread) : (step >>= rest).Unread := by
  intro state lines
  obtain ⟨lines', hstep⟩ := h state lines
  rw [exec_bind, exec_bind, hstep]
  cases step.exec state with
  | mk result after =>
    cases result with
    | ok a => exact hrest a after lines'
    | error code => exact ⟨lines', rfl⟩

/-- A choice that does not hang on the diagnostics. -/
theorem ite {condition : Prop} [Decidable condition] {yes no : Step α} (hyes : yes.Unread)
    (hno : no.Unread) : (if condition then yes else no).Unread := by
  split
  · exact hyes
  · exact hno

/-- A look at something other than the diagnostics. -/
theorem look {check : Vault → Check α}
    (h : ∀ vault lines, check (vault.saying lines) = check vault) : (Step.look check).Unread :=
  fun state lines => ⟨lines, congrArg (·, state.saying lines) (h state.vault lines)⟩

theorem demand (condition : Bool) (code : ErrorCode) : (Step.demand condition code).Unread :=
  look fun _ _ => rfl

theorem need (value : Option α) (code : ErrorCode) : (Step.need value code).Unread :=
  look fun _ _ => rfl

theorem unraised (flag : FaultFlag) (code : ErrorCode) : (Step.unraised flag code).Unread :=
  look fun _ _ => rfl

/-- A choice by a fault: which faults are raised has nothing to do with the diagnostics. -/
theorem isRaised {yes no : Step α} (flag : FaultFlag) (hyes : yes.Unread) (hno : no.Unread) :
    (Step.isRaised flag >>= fun raised => if raised then yes else no).Unread :=
  bind (look fun _ _ => rfl) fun _ => ite hyes hno

theorem pure (a : α) : (Pure.pure a : Step α).Unread := fun _ lines => ⟨lines, rfl⟩

/-- A change of the library that has nothing to do with the diagnostics. -/
theorem change {f : Vault → Vault}
    (h : ∀ vault lines, f (vault.saying lines) = (f vault).saying lines) :
    (Step.change f).Unread := by
  intro state lines
  refine ⟨lines, Prod.ext rfl ?_⟩
  exact congrArg (CallState.mk · state.handle state.written) (h state.vault lines)

theorem put (address : Address) (context : Context) : (Step.put address context).Unread :=
  change fun _ _ => rfl

theorem store (bytes : Bytes) : (Step.store bytes).Unread := fun _ lines => ⟨lines, rfl⟩

theorem handOut (address : Address) : (Step.handOut address).Unread := fun _ lines => ⟨lines, rfl⟩

/-- A line is added to whatever is there. -/
theorem failSaying (code : ErrorCode) (line : String) :
    (Step.failSaying code line : Step α).Unread := fun _ lines => ⟨lines ++ [line], rfl⟩

/-- What is delivered is stored and counted, and nothing is read for it. -/
theorem deliver (bytes : Bytes) : (Step.deliver bytes).Unread := bind (store bytes) fun _ => pure _

/-- A context is made with what the call brings along. -/
theorem allocate (address : Address) (context : Context) :
    (Step.allocate address context).Unread :=
  bind (put address context) fun _ => bind (handOut address) fun _ => pure _

/-- Whether a context is freed depends on its kind alone. -/
theorem dispose (own : Context → Bool) (handle : Address) : (Step.dispose own handle).Unread := by
  refine bind (change fun vault lines => ?_) fun _ => pure _
  show (if (vault.contexts.get? handle).any own then (vault.saying lines).free handle
    else vault.saying lines) = _
  split
  · rfl
  · rfl

/-- If the system has no random bytes to give, a line is added, and none is read. -/
theorem draw (seed : Option Key32) : (Step.draw seed).Unread := by
  cases seed with
  | some half => exact pure half
  | none => exact failSaying _ _

/-! ## Digests -/

/-- The length of a digest is fixed by the algorithm and by the number that is asked for. -/
theorem digestLengthFor (name : String) (algorithm : Algorithm) (asked : Int32) :
    (Vault.digestLengthFor name algorithm asked).Unread := by
  unfold Vault.digestLengthFor
  split
  · exact ite (failSaying _ _) (pure _)
  · exact isRaised _ (failSaying _ _) (pure _)

/-- A new digest. -/
theorem digestAllocate (address : Address) (name : Option Bytes) (asked : Int32) (slot : Bool) :
    (Vault.digestAllocate address name asked slot).Unread :=
  bind (demand _ _) fun _ => bind (look fun _ _ => rfl) fun _ => bind (need _ _) fun _ =>
    bind (demand _ _) fun _ => bind (unraised _ _) fun _ => bind (unraised _ _) fun _ =>
      bind (digestLengthFor _ _ _) fun _ => allocate _ _

/-- Bytes that are fed to a digest are added to its input. -/
theorem digestFeedBytes (handle : Address) (context : DigestContext) (data : Bytes) :
    (Vault.digestFeedBytes handle context data).Unread :=
  isRaised _ (failSaying _ _) (bind (put _ _) fun _ => pure _)

/-- A digest is finished, or its length is asked for. -/
theorem digestFinish (handle : Address) (out : Option OutputWindow) :
    (Vault.digestFinish handle out).Unread :=
  bind (look fun _ _ => rfl) fun _ => bind (look fun _ _ => rfl) fun _ =>
    bind (look fun _ _ => rfl) fun _ => ite (isRaised _ (failSaying _ _)
      (bind (deliver _) fun _ => bind (put _ _) fun _ => pure _)) (pure _)

/-! ## Keys -/

/-- A half of a key is taken in. -/
theorem keyDecode (make : KeyType → Key32 → KeyMaterial) (wrongLength : ErrorCode)
    (handle : Address) (type : Int32) (window : Option InputWindow) :
    (Vault.keyDecode make wrongLength handle type window).Unread :=
  bind (look fun _ _ => rfl) fun _ => bind (need _ _) fun _ => bind (look fun _ _ => rfl) fun _ =>
    bind (need _ _) fun _ => bind (unraised _ _) fun _ => bind (put _ _) fun _ => pure _

/-- A half of a key is given out. -/
theorem keyEncode (half : Key32) (out : Option OutputWindow) :
    (Vault.keyEncode half out).Unread :=
  bind (unraised _ _) fun _ => bind (look fun _ _ => rfl) fun _ => ite (deliver _) (pure _)

/-- A secret is derived, or the agreement is refused with a line of its own. -/
theorem kemSecret (shared ciphertext recipient : Key32) :
    (Vault.kemSecret shared ciphertext recipient).Unread := by
  unfold Vault.kemSecret
  split
  · exact pure _
  · exact failSaying _ _

/-- A secret is sealed. -/
theorem encapsulate (seed : Option Key32) (handle : Address) (out : Option OutputWindow) :
    (Vault.encapsulate seed handle out).Unread :=
  bind (look fun _ _ => rfl) fun _ => bind (unraised _ _) fun _ =>
    bind (look fun _ _ => rfl) fun _ => ite (bind (draw seed) fun _ => bind (store _) fun _ =>
      bind (kemSecret _ _ _) fun _ => bind (store _) fun _ => pure _) (pure _)

/-- A sealed secret is opened. -/
theorem decapsulate (handle : Address) (window : Option InputWindow) (out : Option OutputWindow) :
    (Vault.decapsulate handle window out).Unread :=
  bind (look fun _ _ => rfl) fun _ => bind (need _ _) fun _ => bind (look fun _ _ => rfl) fun _ =>
    bind (need _ _) fun _ => bind (look fun _ _ => rfl) fun _ =>
      ite (bind (kemSecret _ _ _) fun _ => deliver _) (pure _)

/-! ## Signatures -/

/-- The bytes that were fed are signed. -/
theorem signatureSign (handle : Address) (out : Option OutputWindow) :
    (Vault.signatureSign handle out).Unread :=
  bind (look fun _ _ => rfl) fun _ => bind (need _ _) fun _ => bind (unraised _ _) fun _ =>
    bind (look fun _ _ => rfl) fun _ => ite (isRaised _ (failSaying _ _)
      (bind (unraised _ _) fun _ => bind (deliver _) fun _ => bind (put _ _) fun _ => pure _))
      (pure _)

/-- A signature of the bytes that were fed is checked. -/
theorem signatureVerify (handle : Address) (window : Option InputWindow) :
    (Vault.signatureVerify handle window).Unread :=
  bind (look fun _ _ => rfl) fun _ => bind (need _ _) fun _ => bind (look fun _ _ => rfl) fun _ =>
    isRaised _ (failSaying _ _) (bind (put _ _) fun _ => pure _)

/-! ## Derivation -/

/-- The derivations that may find their window too long for them. -/
theorem derivePassword (fill : Nat → Bytes) (complaint : String) (span : Nat) :
    (Vault.derivePassword fill complaint span).Unread :=
  bind (demand _ _) fun _ => ite (pure _) (isRaised _ (failSaying _ _) (deliver _))

theorem derivePbkdf2 (digest : Option Bytes) (password salt : Option InputWindow)
    (iterations : Int32) (out : Option OutputWindow) :
    (Vault.derivePbkdf2 digest password salt iterations out).Unread :=
  bind (look fun _ _ => rfl) fun _ => bind (look fun _ _ => rfl) fun _ => bind (demand _ _) fun _ =>
    bind (demand _ _) fun _ => bind (look fun _ _ => rfl) fun _ => bind (need _ _) fun _ =>
      bind (look fun _ _ => rfl) fun _ => derivePassword _ _ _

theorem deriveHkdf (digest : Option Bytes) (material salt info : Option InputWindow)
    (out : Option OutputWindow) : (Vault.deriveHkdf digest material salt info out).Unread :=
  bind (look fun _ _ => rfl) fun _ => bind (look fun _ _ => rfl) fun _ =>
    bind (look fun _ _ => rfl) fun _ => bind (look fun _ _ => rfl) fun _ => bind (need _ _) fun _ =>
      bind (look fun _ _ => rfl) fun _ =>
        isRaised _ (failSaying _ _) (bind (demand _ _) fun _ => deliver _)

/-- The parameters of scrypt are checked by themselves, before anything is derived. -/
theorem scryptCost (n r p : Int32) : (Vault.scryptCost n r p).Unread :=
  bind (demand _ _) fun _ => bind (demand _ _) fun _ => bind (demand _ _) fun _ =>
    bind (demand _ _) fun _ => ite (failSaying _ _) (ite (failSaying _ _) (pure _))

theorem deriveScrypt (password salt : Option InputWindow) (n r p : Int32)
    (out : Option OutputWindow) : (Vault.deriveScrypt password salt n r p out).Unread :=
  bind (look fun _ _ => rfl) fun _ => bind (look fun _ _ => rfl) fun _ => bind (demand _ _) fun _ =>
    bind (scryptCost n r p) fun _ => bind (look fun _ _ => rfl) fun _ => derivePassword _ _ _

end Unread

end Step

open Step

/-- **No entry point but `drain` reads the diagnostics.** -/
theorem unread_entry {call : Call} (hdrain : ∀ capacity, call ≠ .drain capacity) (supply : Supply) :
    (entry supply call).Unread := by
  cases call with
  | drain capacity => exact absurd rfl (hdrain capacity)
  | version | faultsAvailable => exact .pure _
  | digestAllocate name length slot => exact .digestAllocate _ name length slot
  | digestFeedByte handle byte =>
    exact .bind (.look fun _ _ => rfl) fun _ => .digestFeedBytes handle _ _
  | digestFeed handle data =>
    exact .bind (.look fun _ _ => rfl) fun _ => .bind (.look fun _ _ => rfl) fun _ =>
      .digestFeedBytes handle _ _
  | digestLength handle =>
    exact .bind (.look fun _ _ => rfl) fun _ => .look fun _ _ => rfl
  | digestFinish handle out => exact .digestFinish handle out
  | digestReset handle =>
    exact .bind (.look fun _ _ => rfl) fun _ => .bind (.put _ _) fun _ => .pure _
  | digestDispose handle | keyDispose handle | signatureDispose handle => exact .dispose _ handle
  | keyAllocate slot | signatureAllocate slot =>
    exact .bind (.demand _ _) fun _ => .bind (.unraised _ _) fun _ => .allocate _ _
  | keyGenerate handle type =>
    exact .bind (.look fun _ _ => rfl) fun _ => .bind (.need _ _) fun _ => .bind (.draw _) fun _ =>
      .bind (.put _ _) fun _ => .pure _
  | keyDecodePublic handle type data | keyDecodePrivate handle type data =>
    exact .keyDecode _ _ handle type data
  | keyEncodePublic handle out => exact .bind (.look fun _ _ => rfl) fun _ => .keyEncode _ out
  | keyEncodePrivate handle out =>
    exact .bind (.look fun _ _ => rfl) fun _ => .bind (.need _ _) fun _ => .keyEncode _ out
  | keyType handle | secretLength handle => exact .bind (.look fun _ _ => rfl) fun _ => .pure _
  | encapsulate handle out => exact .encapsulate _ handle out
  | decapsulate handle ciphertext out => exact .decapsulate handle ciphertext out
  | signatureInitSign handle key =>
    exact .bind (.look fun _ _ => rfl) fun _ => .bind (.look fun _ _ => rfl) fun _ =>
      .bind (.need _ _) fun _ => .bind (.put _ _) fun _ => .pure _
  | signatureInitVerify handle key =>
    exact .bind (.look fun _ _ => rfl) fun _ => .bind (.look fun _ _ => rfl) fun _ =>
      .bind (.put _ _) fun _ => .pure _
  | signatureFeed handle data =>
    exact .bind (.look fun _ _ => rfl) fun _ => .bind (.demand _ _) fun _ =>
      .bind (.look fun _ _ => rfl) fun _ => .bind (.put _ _) fun _ => .pure _
  | signatureSign handle out => exact .signatureSign handle out
  | signatureVerify handle signature => exact .signatureVerify handle signature
  | pbkdf2 digest password salt iterations out =>
    exact .derivePbkdf2 digest password salt iterations out
  | hkdf digest material salt info out => exact .deriveHkdf digest material salt info out
  | scrypt password salt n r p out => exact .deriveScrypt password salt n r p out
  | faultSet flag on =>
    exact .bind (.need _ _) fun _ => .bind (.change fun _ _ => rfl) fun _ => .pure _
  | faultsReset => exact .bind (.change fun _ _ => rfl) fun _ => .pure _

/-! ## Libraries that differ in their diagnostics alone -/

variable {vault other : Vault} {call : Call}

/-- **Two libraries that differ in their diagnostics alone.** -/
structure Alike (vault other : Vault) : Prop where
  /-- They have the same contexts. -/
  contexts : other.contexts = vault.contexts
  /-- They have the same faults. -/
  raised : other.raised = vault.raised

namespace Alike

theorem refl (vault : Vault) : Alike vault vault := ⟨rfl, rfl⟩

theorem symm (h : Alike vault other) : Alike other vault := ⟨h.contexts.symm, h.raised.symm⟩

theorem trans {third : Vault} (h : Alike vault other) (h' : Alike other third) :
    Alike vault third := ⟨h'.contexts.trans h.contexts, h'.raised.trans h.raised⟩

/-- A library that is like another is that other with its own diagnostics. -/
theorem eq_saying (h : Alike vault other) : other = vault.saying other.diagnostics := by
  obtain ⟨contexts, raised, lines⟩ := other
  obtain ⟨rfl, rfl⟩ := h
  rfl

/-- The verdicts of two such libraries are alike, unless they are asked for the diagnostics. -/
theorem answer_eq (h : Alike vault other) (hdrain : ∀ capacity, call ≠ .drain capacity)
    (supply : Supply) : ∃ lines, other.answer supply call
      = ((vault.answer supply call).1, (vault.answer supply call).2.saying lines) := by
  obtain ⟨lines, hexec⟩ := unread_entry hdrain supply (.start vault) other.diagnostics
  refine ⟨lines, ?_⟩
  have hstart : CallState.start other = (CallState.start vault).saying other.diagnostics :=
    congrArg CallState.start h.eq_saying
  rw [Vault.answer, Vault.answer, verdict, verdict, Step.on, Step.on, hstart, hexec]
  rcases (entry supply call).exec (.start vault) with ⟨_ | _, _⟩
  · rfl
  · rfl

/-- They give the same replies, unless they are asked for the diagnostics. -/
theorem reply (h : Alike vault other) (hdrain : ∀ capacity, call ≠ .drain capacity)
    (supply : Supply) : (other.answer supply call).1 = (vault.answer supply call).1 := by
  obtain ⟨lines, hanswer⟩ := h.answer_eq hdrain supply
  rw [hanswer]

/-- **They are alike after every call.** -/
theorem answer (h : Alike vault other) (supply : Supply) (call : Call) :
    Alike (vault.answer supply call).2 (other.answer supply call).2 := by
  by_cases hdrain : ∃ capacity, call = .drain capacity
  · obtain ⟨capacity, rfl⟩ := hdrain
    cases capacity with
    | none => exact h
    | some capacity => exact ⟨h.contexts, h.raised⟩
  · obtain ⟨lines, hanswer⟩ := h.answer_eq (fun capacity heq => hdrain ⟨capacity, heq⟩) supply
    rw [hanswer]
    exact ⟨rfl, rfl⟩

end Alike

end Custody.Vault

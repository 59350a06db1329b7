import Custody.Proofs.Vault.Sealing

/-!
# What a refused call leaves in the buffer

A call that fails should leave the buffer of the caller as it was. Every entry point but one
computes first and stores last, so that there is nothing left to fail once bytes were stored. That
is part of what a failure leaves behind (`Vault.Residue`). Encapsulation does it the other way
round. It stores the ciphertext, and only then looks whether the key agreement gave a secret. With a
public key of small order it never does: the call fails, and the ciphertext stays behind
(`Vault.Spilt`).

The main statement (`Vault.refused_calls_leave_the_buffer`) has both halves: what a refused call
leaves where no agreement fails, and what exactly is in the buffer where one does.

What stands in the buffer after such a failure is not left open. It is the ciphertext of the seed
that was drawn, at the start of the window, and the rest of the buffer is as it was. Bytes that an
all-zero secret would have been derived from are never written.
-/

namespace Custody.Vault

open Curve

variable {vault : Vault} {supply : Supply} {w : OutputWindow} {call : Call} {seed : Key32}

/-! ## Refused after the ciphertext was written -/

/-- **A call spills its ciphertext**: it is an encapsulation to a key with which the seed that it
draws gives no secret, and everything else about it is in order. -/
structure Spilt (vault : Vault) (supply : Supply) (w : OutputWindow) (call : Call)
    (seed : Key32) : Prop where
  /-- The call is an encapsulation to a key whose agreement gives the zero point. -/
  barren : ∃ handle peer, call = .encapsulate handle (some w)
    ∧ vault.contexts.get? handle = some (.key (some peer)) ∧ peer.type = .x25519
    ∧ sealed? seed peer = none
  /-- The system gives it the seed. -/
  drawn : supply.seed = some seed
  /-- No fault stands in the way. -/
  unraised : vault.raised .int32Overflow3 = false
  /-- There is room for the ciphertext and the secret. -/
  admitted : vault.admits (ciphertextLength + secretLength) (some w) = .ok true

theorem Spilt.verdict (h : Spilt vault supply w call seed) :
    vault.verdict supply call = .error
      ⟨⟨vault.push nonContributory, none, (X25519.publicKey seed).bytes⟩, .nativeError⟩ := by
  obtain ⟨handle, peer, rfl, hpeer, htype, hnone⟩ := h.barren
  have hverdict : vault.verdict supply (.encapsulate handle (some w)) = _ :=
    on_encapsulate_of_admitted h.drawn (keyOfType_x25519 hpeer htype) h.unraised h.admitted
  rw [hverdict, hnone]

/-- **A call that does not spill** writes nothing if it is refused. -/
theorem written_eq_nil_of_neg (hout : call.output? = some w)
    (hspilt : ¬ ∃ seed, Spilt vault supply w call seed)
    (hneg : (vault.answer supply call).1.status < 0) :
    (vault.answer supply call).1.written = [] := by
  obtain ⟨⟨after, code⟩, hrefusal⟩ := exists_refusal_of_neg hneg
  have hresidue : Residue vault supply call code after := residue_of_verdict hrefusal
  rw [answer, hrefusal]
  cases hresidue with
  | silent | saying => rfl
  | spilt hcall hseed hkey hraised hadmits hsecret =>
    subst hcall
    obtain rfl := Option.some.inj hout
    obtain ⟨hpeer, htype⟩ := keyOfType_eq_ok_iff.mp hkey
    exact absurd ⟨_, ⟨_, _, rfl, hpeer, htype, hsecret⟩, hseed, hraised, hadmits⟩ hspilt

/-! ## The buffer of the caller -/

/-- **A refused call leaves the buffer as it was, unless it spills its ciphertext.** Whatever the
library holds, and for every call with a window to write to:

* if the call does not spill and reports a failure, every byte of the buffer is what it was;
* if it spills, it reports the failure of the native library, and the ciphertext stands at the
  start of the window, with the rest of the buffer as it was. -/
theorem refused_calls_leave_the_buffer (vault : Vault) (supply : Supply) {call : Call}
    {buffer : Bytes} (hout : call.output? = some w) (hbuffer : buffer.length = w.size) :
    let reply := (vault.answer supply call).1
    ((¬ ∃ seed, Spilt vault supply w call seed) → reply.status < 0 →
      w.store buffer reply.written = buffer)
    ∧ ∀ seed, Spilt vault supply w call seed → reply.status = ErrorCode.nativeError.status
      ∧ Bytes.StoredAt w.start (X25519.publicKey seed).bytes buffer
        (w.store buffer reply.written) := by
  refine ⟨fun hspilt hneg => ?_, fun seed hspilt => ?_⟩
  · rw [written_eq_nil_of_neg hout hspilt hneg]
    exact Bytes.patch_nil buffer w.start
  · rw [answer, hspilt.verdict]
    obtain ⟨⟨-, -, hrange⟩, -, hroom, -⟩ := admits_some_iff.mp hspilt.admitted
    have hfits : w.start + (X25519.publicKey seed).bytes.length ≤ buffer.length := by
      have hwide : ciphertextLength ≤ w.width := Nat.le_trans (Nat.le_add_right _ _) hroom
      rw [hbuffer, Key32.length_eq]
      exact Nat.le_trans (Nat.add_le_add_left hwide _) hrange
    exact ⟨rfl, Bytes.storedAt_patch hfits⟩

/-- A run that leaves a public key of small order in one container, and a private key in another. -/
def exampleBarren : List (Supply × Call) :=
  [(supplyOf 1, .keyAllocate true),
    (supplyOf 1, .keyDecodePublic 1 2 (some ⟨(Key32.ofNat 0).bytes, 0, 32⟩)),
    (supplyOf 2, .keyAllocate true), (supplyOf 2, .keyGenerate 2 2)]

/-- A question for the secret of the zero point. -/
def exampleOpening : Call := .decapsulate 2 (some ⟨Bytes.zeros 32, 0, 32⟩) (some ⟨64, 0, 64⟩)

/-- A question for a secret that is sealed to the key of small order. -/
def exampleSealing : Call := .encapsulate 1 (some ⟨64, 0, 64⟩)

/-- To open the zero point fails as well, but leaves the buffer alone. To seal a secret for it fails
after the ciphertext was stored. -/
theorem refused_calls_leave_the_buffer_exampleBarren :
    let vault := empty.after exampleBarren
    let window : OutputWindow := ⟨64, 0, 64⟩
    let buffer := Bytes.zeros 64
    ((vault.answer (supplyOf 3) exampleOpening).1.status < 0
      ∧ window.store buffer (vault.answer (supplyOf 3) exampleOpening).1.written = buffer)
    ∧ (vault.answer (supplyOf 3) exampleSealing).1.status = ErrorCode.nativeError.status
    ∧ Bytes.StoredAt window.start (X25519.publicKey exampleSeed).bytes buffer
      (window.store buffer (vault.answer (supplyOf 3) exampleSealing).1.written) := by
  intro vault window buffer
  have hbuffer : buffer.length = window.size := Bytes.length_zeros 64
  have hneg : (vault.answer (supplyOf 3) exampleOpening).1.status < 0 := by decide +kernel
  have hkept : ¬ ∃ seed, Spilt vault (supplyOf 3) window exampleOpening seed := fun ⟨_, h⟩ =>
    have ⟨_, _, hcall, _⟩ := h.barren
    Call.noConfusion hcall
  have hpeer : vault.contexts.get? 1 = some (.key (some (.ofPublic .x25519 (.ofNat 0)))) := by
    decide +kernel
  have hspilt : Spilt vault (supplyOf 3) window exampleSealing exampleSeed :=
    ⟨⟨1, _, rfl, hpeer, rfl, by decide +kernel⟩, rfl, by decide +kernel,
      admits_some_iff.mpr ⟨by decide, by decide +kernel, by decide, rfl⟩⟩
  obtain ⟨hopened, -⟩ := refused_calls_leave_the_buffer vault (supplyOf 3)
    (show exampleOpening.output? = some window from rfl) hbuffer
  obtain ⟨-, hsealed⟩ := refused_calls_leave_the_buffer vault (supplyOf 3)
    (show exampleSealing.output? = some window from rfl) hbuffer
  exact ⟨⟨hneg, hopened hkept hneg⟩, hsealed _ hspilt⟩

/-- Not every refused call leaves the buffer as it was: an encapsulation to the key of small order
is refused, and the ciphertext is in the buffer afterwards. -/
theorem ciphertext_stays_behind : ¬ ∀ (calls : List (Supply × Call)) (supply : Supply) (call : Call)
    (w : OutputWindow) (buffer : Bytes), call.output? = some w → buffer.length = w.size →
    ((empty.after calls).answer supply call).1.status < 0 →
    w.store buffer ((empty.after calls).answer supply call).1.written = buffer := by
  intro h
  have hkept := h exampleBarren (supplyOf 3) exampleSealing ⟨64, 0, 64⟩ (Bytes.zeros 64) rfl rfl
    (by decide +kernel)
  exact absurd hkept (by decide +kernel)

end Custody.Vault

import Custody.Proofs.Vault.Signatures

/-!
# What a signature context is for

A signature context signs or checks once it has been prepared (`Vault.roleAt`), and it stays with
what it was prepared for: only a call that prepares it gives it another role, whatever else is asked
of the library, as long as it is not freed and its address not handed out again
(`Vault.roleAt_answer`).

A role is a view of a signature context that forgets the key and the message. Feeding, signing and
checking change the message and keep the mode, and therefore keep the role.
-/

namespace Custody

open Held

/-- **What a signature context is for.** -/
inductive Role
  | signs
  | checks
  deriving DecidableEq, Repr

/-- The role that a call gives to a signature context, if it succeeds. -/
def Call.assigns? : Call → Option (Address × Role)
  | signatureInitSign handle _ => some (handle, .signs)
  | signatureInitVerify handle _ => some (handle, .checks)
  | _ => none

/-- The signature context that a call is for, with the roles of which it has to have one. -/
def Call.needs? : Call → Option (Address × List Role)
  | signatureFeed handle _ => some (handle, [.signs, .checks])
  | signatureSign handle _ => some (handle, [.signs])
  | signatureVerify handle _ => some (handle, [.checks])
  | _ => none

namespace Vault

/-- The role of a context that was prepared for something. -/
def SignatureMode.role? : SignatureMode → Option Role
  | idle => none
  | signing _ => some .signs
  | checking _ => some .checks

/-- **The role of the signature context at an address**, if there is one and it is prepared. -/
def roleAt (vault : Vault) (handle : Address) : Option Role :=
  match vault.contexts.get? handle with
  | some (.signature context) => context.mode.role?
  | _ => none

variable {vault vault' : Vault} {handle : Address} {supply : Supply} {call : Call} {role : Role}
  {context : SignatureContext}

theorem roleAt_of_get? (h : vault.contexts.get? handle = some (.signature context)) :
    vault.roleAt handle = context.mode.role? := by
  rw [roleAt, h]

/-- The role of a context depends on the context alone. -/
theorem roleAt_congr (h : vault'.contexts.get? handle = vault.contexts.get? handle) :
    vault'.roleAt handle = vault.roleAt handle := by
  rw [roleAt, h, roleAt]

/-- What has a role is a signature context. -/
theorem exists_of_roleAt (h : vault.roleAt handle = some role) :
    ∃ context, vault.contexts.get? handle = some (.signature context)
      ∧ context.mode.role? = some role := by
  unfold roleAt at h
  split at h
  · rename_i context hcontext
    exact ⟨context, hcontext, h⟩
  · cases h

/-- A call that gives no role to a context does not prepare it. -/
theorem prepares?_of_assigns? (h : call.assigns?.map Prod.fst ≠ some handle) :
    call.prepares? vault handle = none := by
  cases call with
  | signatureInitSign other key => exact if_neg fun heq => h (congrArg some heq)
  | signatureInitVerify other key => exact if_neg fun heq => h (congrArg some heq)
  | _ => rfl

/-- **A signature context keeps its role** under every call that does not prepare it, as long as it
is not freed and its address not handed out again. -/
theorem roleAt_answer (h : vault.roleAt handle = some role)
    (hassigns : call.assigns?.map Prod.fst ≠ some handle)
    (hfrees : call.frees? ≠ some (handle, .signature))
    (hhandle : (vault.answer supply call).1.handle ≠ some handle) :
    (vault.answer supply call).2.roleAt handle = some role := by
  obtain ⟨context, hcontext, hrole⟩ := exists_of_roleAt h
  by_cases hchanges : call.changes? = some (handle, .signature)
  · cases hverdict : vault.verdict supply call with
    | error refusal =>
      rw [roleAt_congr (congrArg (Heap.get? · handle) (contexts_of_error hverdict))]
      exact h
    | ok grant =>
      have hdispose : call ≠ .signatureDispose handle := by
        rintro rfl
        exact hfrees rfl
      obtain ⟨before, hbefore, hafter⟩ := get?_grant_signature hverdict hchanges hdispose
      obtain rfl : context = before := by
        rw [hcontext] at hbefore
        cases hbefore
        rfl
      rw [answer_of_ok hverdict, roleAt_of_get? hafter, SignatureContext.under,
        prepares?_of_assigns? hassigns]
      exact hrole
  · have hafter := get?_answer hcontext hhandle hchanges
    rw [roleAt_of_get? hafter]
    exact hrole

/-- **A context that is prepared has the role** that it was prepared for. -/
theorem roleAt_grant_of_assigns? {grant : Grant} (hverdict : vault.verdict supply call = .ok grant)
    (hassigns : call.assigns? = some (handle, role)) :
    grant.vault.roleAt handle = some role := by
  cases call with
  | signatureInitSign other key =>
    cases hassigns
    obtain ⟨context, -, material, -, seed, -, rfl⟩ := signatureInitSign_eq_ok_iff.mp hverdict
    exact roleAt_of_get? get?_set_self
  | signatureInitVerify other key =>
    cases hassigns
    obtain ⟨context, -, material, -, rfl⟩ := signatureInitVerify_eq_ok_iff.mp hverdict
    exact roleAt_of_get? get?_set_self
  | _ => cases hassigns

end Vault

end Custody

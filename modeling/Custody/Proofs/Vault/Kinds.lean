import Custody.Proofs.Held.Library
import Custody.Vault.Session

/-!
# The kinds of contexts

The native library keeps three kinds of contexts, and what is at an address matters to its callers
first of all by its kind (`Vault.kindAt`). A call that finds the context it asks for knows its kind
from that (`kindAt_of_digestAt` and its companions); putting another context of the same kind in
its place changes no kind (`kindAt_set`), and freeing it changes this one only (`kindAt_free`).

A kind is all that is left of a context when what is in it is forgotten, and it is what a handle is
checked for. The lemmas that follow later are about kinds wherever they can be, because a kind does
not change while its context is used.
-/

namespace Custody

open Held

namespace Vault

/-- The kind of a context. -/
def Context.domain : Context → Domain
  | .digest _ => .digest
  | .key _ => .keySpec
  | .signature _ => .signature

/-- The kind of the context at an address, if there is one. -/
def kindAt (vault : Vault) (address : Address) : Option Domain :=
  (vault.contexts.get? address).map Context.domain

variable {α : Type} {vault vault' : Vault} {handle : Address} {context : Context}

/-- A context in place of another of its kind. -/
theorem kindAt_set (h : vault.kindAt handle = some context.domain) (address : Address) :
    (vault.set handle context).kindAt address = vault.kindAt address := by
  unfold kindAt set
  rw [Heap.get?_put]
  split
  · rename_i heq
    rw [heq]
    exact h.symm
  · rfl

/-- Behind a handle that passes for a digest there is one. -/
theorem kindAt_of_digestAt {context : DigestContext} (h : vault.digestAt handle = .ok context) :
    vault.kindAt handle = some .digest := by
  unfold digestAt at h
  unfold kindAt
  split at h
  · rename_i heq
    rw [heq]
    rfl
  · cases h

/-- Behind a handle that passes for a container there is one. -/
theorem kindAt_of_containerAt {material : Option KeyMaterial}
    (h : vault.containerAt handle = .ok material) : vault.kindAt handle = some .keySpec := by
  unfold containerAt at h
  unfold kindAt
  split at h
  · rename_i heq
    rw [heq]
    rfl
  · cases h

/-- Behind a handle that passes for a signature context there is one. -/
theorem kindAt_of_signatureAt {context : SignatureContext}
    (h : vault.signatureAt handle = .ok context) :
    vault.kindAt handle = some .signature := by
  unfold signatureAt at h
  unfold kindAt
  split at h
  · rename_i heq
    rw [heq]
    rfl
  · cases h

/-- Freeing a context. -/
theorem kindAt_free (vault : Vault) (handle address : Address) :
    (vault.free handle).kindAt address
      = if address = handle then none else vault.kindAt address := by
  unfold kindAt free
  rw [Heap.get?_erase]
  split
  · rfl
  · rfl

/-! ## Kinds as they are tested -/

/-- The test for a digest reads the kind. -/
theorem any_isDigest_iff : (vault.contexts.get? handle).any Context.isDigest = true ↔
    vault.kindAt handle = some .digest := by
  unfold kindAt
  rcases vault.contexts.get? handle with _ | _ | _ | _ <;> simp [Context.isDigest, Context.domain]

/-- The test for a key container reads the kind. -/
theorem any_isKey_iff : (vault.contexts.get? handle).any Context.isKey = true ↔
    vault.kindAt handle = some .keySpec := by
  unfold kindAt
  rcases vault.contexts.get? handle with _ | _ | _ | _ <;> simp [Context.isKey, Context.domain]

/-- The test for a signature context reads the kind. -/
theorem any_isSignature_iff : (vault.contexts.get? handle).any Context.isSignature = true ↔
    vault.kindAt handle = some .signature := by
  unfold kindAt
  rcases vault.contexts.get? handle with _ | _ | _ | _ <;>
    simp [Context.isSignature, Context.domain]

end Vault

end Custody

import Custody.Proofs.Held.Library
import Custody.Proofs.Vault.Changes

/-!
# Histories of the vault

What a context holds depends on the calls so far, and on which of them succeeded. A run of calls
leaves notes (`Vault.history`), and what a context has gathered is read off the calls among them
that succeeded (`succeeded`): it is what they fed since the latest of them that started it afresh
(`gathered`).

A search from the end of the notes finds the latest event first, and one more call at the end of a
run has one equation (`gathered_concat`, `succeeded_concat`). So an invariant that ties a context to
its history is preserved by a step lemma about the last call, and the run is an induction from its
end.
-/

namespace Custody

variable {σ : Type}

/-- The calls that succeeded, the oldest first. -/
def succeeded (notes : List (Note σ)) : List Call :=
  (notes.filter fun note => 0 ≤ note.reply.status).map Note.call

/-- **What was gathered** by calls that each feed some bytes, since the latest one that starts
afresh. -/
def gathered (starts : Call → Bool) (feeds : Call → Bytes) (calls : List Call) : Bytes :=
  (calls.reverse.takeWhile fun call => !starts call).reverse.flatMap feeds

/-- One more call starts afresh, or adds what it feeds. -/
theorem gathered_concat (starts : Call → Bool) (feeds : Call → Bytes) (calls : List Call)
    (call : Call) : gathered starts feeds (calls ++ [call])
      = if starts call then [] else gathered starts feeds calls ++ feeds call := by
  unfold gathered
  rw [List.reverse_concat, List.takeWhile_cons]
  cases starts call with
  | true => rfl
  | false => simp

theorem succeeded_concat (notes : List (Note σ)) (note : Note σ) : succeeded (notes ++ [note])
    = if 0 ≤ note.reply.status then succeeded notes ++ [note.call] else succeeded notes := by
  unfold succeeded
  rw [List.filter_append, List.map_append]
  by_cases h : 0 ≤ note.reply.status
  · simp [h]
  · simp [h]

/-- What was gathered by the calls that succeeded, when one more call was made. -/
theorem gathered_succeeded_concat (starts : Call → Bool) (feeds : Call → Bytes)
    (notes : List (Note σ)) (note : Note σ) :
    gathered starts feeds (succeeded (notes ++ [note]))
      = if 0 ≤ note.reply.status then
          if starts note.call then []
          else gathered starts feeds (succeeded notes) ++ feeds note.call
        else gathered starts feeds (succeeded notes) := by
  rw [succeeded_concat]
  split
  · exact gathered_concat ..
  · rfl

/-- Where nothing is handed out, a kind is there after a call only if it was there before. -/
theorem Call.eq_of_kindAfter {call : Call} {reply : Reply} {address : Address}
    {kind other : Held.Domain} (hhandle : reply.handle ≠ some address)
    (h : call.kindAfter reply address (some kind) = some other) : kind = other := by
  have hgrant : ∀ domain, call.granted? reply ≠ some (address, domain) := by
    intro domain hgranted
    obtain ⟨_, -, hmap⟩ := Option.bind_eq_some_iff.mp hgranted
    obtain ⟨made, hmade, heq⟩ := Option.map_eq_some_iff.mp hmap
    cases heq
    exact hhandle hmade
  unfold kindAfter at h
  split at h
  · rename_i made domain hgranted
    split at h
    · rename_i hmade
      rw [← hmade] at hgranted
      exact absurd hgranted (hgrant domain)
    · exact Option.some.inj h
  · split at h
    · split at h
      · cases h
      · exact Option.some.inj h
    · exact Option.some.inj h

/-- The random bytes of the examples. -/
def Vault.exampleSeed : Key32 := .ofNat 0

/-- What a call gets from outside in the examples: an address, and zero bytes. -/
def Vault.supplyOf (address : Address) : Supply := ⟨address, some exampleSeed⟩

namespace Vault

variable {vault : Vault} {handle : Address}

/-- The note of a call. -/
def note (vault : Vault) (supply : Supply) (call : Call) : Note Vault :=
  ⟨vault, call, (vault.answer supply call).1⟩

@[simp] theorem before_note (supply : Supply) (call : Call) :
    (vault.note supply call).before = vault := rfl

@[simp] theorem call_note (supply : Supply) (call : Call) :
    (vault.note supply call).call = call := rfl

@[simp] theorem reply_note (supply : Supply) (call : Call) :
    (vault.note supply call).reply = (vault.answer supply call).1 := rfl

/-- The library after a run of calls. -/
def after (calls : List (Supply × Call)) (vault : Vault) : Vault := (vault.run calls).2

/-- **The notes of a run of calls.** -/
def history : List (Supply × Call) → Vault → List (Note Vault)
  | [], _ => []
  | (supply, call) :: calls, vault =>
    vault.note supply call :: history calls (vault.answer supply call).2

/-- The replies of a run are those in its notes. -/
theorem reply_history (calls : List (Supply × Call)) (vault : Vault) :
    (vault.history calls).map Note.reply = (vault.run calls).1 := by
  induction calls generalizing vault with
  | nil => rfl
  | cons first calls ih =>
    exact congrArg ((vault.answer first.1 first.2).1 :: ·) (ih (vault.answer first.1 first.2).2)

theorem get?_set_self {context : Context} :
    (vault.set handle context).contexts.get? handle = some context := Heap.get?_put_self ..

/-- **A context stays as it is** under a call that is not for contexts of its kind at its address,
unless its address is handed out again. -/
theorem get?_answer {supply : Supply} {call : Call} {context : Context}
    (hcontext : vault.contexts.get? handle = some context)
    (hhandle : (vault.answer supply call).1.handle ≠ some handle)
    (hchanges : call.changes? ≠ some (handle, context.domain)) :
    (vault.answer supply call).2.contexts.get? handle = some context := by
  by_cases hsame : (vault.answer supply call).2.contexts.get? handle = vault.contexts.get? handle
  · rw [hsame, hcontext]
  · obtain h | ⟨domain, hdomain, hkind⟩ := frame_answer hsame
    · exact absurd h hhandle
    · have hown : vault.kindAt handle = some context.domain := by
        rw [kindAt, hcontext]
        rfl
      rw [hown] at hkind
      obtain rfl := Option.some.inj hkind
      exact absurd hdomain hchanges

/-- **A context that is there was there before** a call that is not for contexts of its kind at its
address, unless its address is handed out. -/
theorem get?_of_get?_answer {supply : Supply} {call : Call} {context : Context}
    (hcontext : (vault.answer supply call).2.contexts.get? handle = some context)
    (hhandle : (vault.answer supply call).1.handle ≠ some handle)
    (hchanges : call.changes? ≠ some (handle, context.domain)) :
    vault.contexts.get? handle = some context := by
  by_cases hsame : (vault.answer supply call).2.contexts.get? handle = vault.contexts.get? handle
  · rw [← hsame, hcontext]
  · obtain h | ⟨domain, hdomain, hkind⟩ := frame_answer hsame
    · exact absurd h hhandle
    · have hafter : (vault.answer supply call).2.kindAt handle = some context.domain := by
        rw [kindAt, hcontext]
        rfl
      rw [kindAt_answer, hkind] at hafter
      obtain rfl := Call.eq_of_kindAfter hhandle hafter
      exact absurd hdomain hchanges

end Vault

end Custody

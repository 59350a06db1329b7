import Custody.Proofs.Commons.Accounts
import Custody.Proofs.Registry.Sweeps

/-!
# Sweeps of a registry in common use

Whatever callers and the daemon have done to a registry, its table agrees with itself and its
entries have the handles of their actions (`Commons.kept_after`): an action is registered with its
own handle, and a handle is refused while it has an entry. Therefore a sweep reclaims exactly the
orphans (`Commons.sweep_reclaims_orphans`), whichever tokens have died, whichever release functions
panic, and whatever else has been tried on their actions before.

What a sweep does is proved for a registry on its own, in `Registry.swept_sweep`, from the two
properties that are kept here and from the ledger being quiet. The induction over the run has one
case for each move. A move that touches the table takes an entry out of it or puts one in, and both
preserve that the records of the table agree; a move that touches the ledger alone cannot change
which handle an action has.
-/

namespace Custody

variable {ε : Type}

namespace Registry

variable {registry registry' : Registry ε}

/-! ## Registries that are kept in order -/

/-- Entries may go, and actions may come. -/
theorem Kept.of_fewer (h : registry.Kept) (hsound : registry'.table.Sound)
    (hfewer : ∀ entry ∈ registry'.table.entries, entry ∈ registry.table.entries)
    (hhandles : ∀ id handle, registry.ledger.handleOf? id = some handle →
      registry'.ledger.handleOf? id = some handle) : registry'.Kept :=
  ⟨hsound, fun entry hentry => hhandles _ _ (h.handles entry (hfewer entry hentry))⟩

/-- A step that leaves the table alone. -/
theorem Kept.of_table (h : registry.Kept) (htable : registry'.table = registry.table)
    (hhandles : ∀ id handle, registry.ledger.handleOf? id = some handle →
      registry'.ledger.handleOf? id = some handle) : registry'.Kept :=
  h.of_fewer (htable ▸ h.sound) (fun _ hentry => htable ▸ hentry) hhandles

theorem kept_empty : (empty : Registry ε).Kept := ⟨SlotTable.sound_empty, nofun⟩

theorem Kept.withdraw (h : registry.Kept) (key : SlotKey) : (registry.withdraw key).2.Kept := by
  cases hfound : registry.table.find? key with
  | none =>
    rw [registry.withdraw_of_find?_eq_none hfound]
    exact h
  | some entry =>
    obtain ⟨rest, htake⟩ : ∃ rest, registry.table.take key = some (entry, rest) :=
      ⟨_, SlotTable.take_eq_some_iff.mpr ⟨hfound, rfl⟩⟩
    rw [registry.withdraw_of_take htake]
    exact h.of_fewer (h.sound.take htake)
      (fun other hother => (SlotTable.entries_take htake).mem_iff.mpr (.tail _ hother))
      fun _ _ hhandle => hhandle

theorem Kept.takeNotice (h : registry.Kept) : registry.takeNotice.2.Kept := by
  cases hnotices : registry.notices with
  | nil =>
    rw [registry.takeNotice_of_nil hnotices]
    exact h
  | cons key waiting =>
    rw [registry.takeNotice_of_cons hnotices]
    have hwaiting : Kept { registry with notices := waiting } := ⟨h.sound, h.handles⟩
    exact hwaiting.withdraw key

theorem Kept.gather (h : registry.Kept) : registry.gather.2.Kept :=
  h.of_fewer (h.sound.takeAll registry.orphans) (fun _ hentry => (mem_entries_gather hentry).1)
    fun _ _ hhandle => hhandle

/-- An action is registered with its own handle. -/
theorem Kept.enrol (h : registry.Kept) (action : ActionId) (label : String) (token : TokenId) :
    (Commons.enrol registry action label token).Kept := by
  unfold Commons.enrol
  cases hhandle : registry.ledger.handleOf? action with
  | none => exact h
  | some handle =>
    by_cases hlive : handle.address ∈ registry.table.live
    · have hinsert : registry.table.insert ⟨action, handle, label, token⟩
          = .error (SlotTable.duplicate ⟨action, handle, label, token⟩) := if_pos hlive
      simp only [register, hinsert]
      exact h
    · have hinsert : registry.table.insert ⟨action, handle, label, token⟩
          = .ok (registry.table.place ⟨action, handle, label, token⟩) := if_neg hlive
      simp only [register, hinsert]
      refine ⟨h.sound.place hlive, fun entry hentry => ?_⟩
      rw [Ledger.handleOf?_hold]
      obtain rfl | hold := List.mem_cons.mp ((h.sound.entries_place _).mem_iff.mp hentry)
      · exact hhandle
      · exact h.handles entry hold

end Registry

namespace Commons

variable {s : Commons ε}

/-- **Every move keeps the registry in order.** -/
theorem kept_step (hsound : s.Sound) (h : s.registry.Kept) (move : Move ε) :
    (s.step move).registry.Kept := by
  -- Four moves change the table. For the others it is enough that actions keep their handles.
  cases move with
  | create handle effect panics =>
    refine h.of_table rfl fun id found hfound => ?_
    have hlt := s.registry.ledger.lt_of_handleOf? hfound
    show ((s.registry.ledger.addAction handle _).2).handleOf? id = some found
    rw [Ledger.handleOf?_addAction, if_neg (Nat.ne_of_lt hlt)]
    exact hfound
  | token | kill token | run action => exact h.of_table rfl fun _ _ hhandle => hhandle
  | register action label token => exact h.enrol action label token
  | dispose key action => exact h.withdraw key
  | notify key =>
    show (s.registry.notify key).2.Kept
    rw [s.registry.notify_of_daemon hsound.daemon]
    exact h.of_table rfl fun _ _ hhandle => hhandle
  | notice => exact h.takeNotice
  | sweep => exact h.gather
  | attempt errand =>
    show (ite _ _ _ : Commons ε).registry.Kept
    split
    · refine h.of_table rfl fun id handle hhandle => ?_
      exact (s.registry.ledger.handleOf?_run _ _ id).trans hhandle
    · exact h
  | finish errand attempt =>
    show (ite _ _ _ : Commons ε).registry.Kept
    split
    · refine h.of_table rfl fun id handle hhandle => ?_
      cases hentry : errand.entry? with
      | none => simpa [Commons.finish, hentry] using hhandle
      | some entry => simpa [Commons.finish, hentry] using hhandle
    · exact h

/-- **In a run the registry is kept in order.** -/
theorem kept_after (hsound : s.Sound) (h : s.registry.Kept) (moves : List (Move ε)) :
    (s.after moves).registry.Kept := by
  induction moves generalizing s with
  | nil => exact h
  | cons move moves ih => exact ih (hsound.step move) (kept_step hsound h move)

/-- **A sweep reclaims exactly the orphans**, whatever callers and the daemon have done before,
whichever tokens have died and whichever release functions panic: it gives their number and comes to
its end, does to the registry what it should, and leaves nothing to the next sweep. -/
theorem sweep_reclaims_orphans (moves : List (Move ε)) :
    let registry := (run moves).registry
    ∃ after, registry.sweep = (registry.orphaned.length, none, after) ∧ registry.Swept after
      ∧ after.sweep = (0, none, after) := by
  intro registry
  have hsound : (run moves).Sound := sound_start.after moves
  have hkept : registry.Kept := kept_after sound_start Registry.kept_empty moves
  obtain ⟨after, hsweep, hswept⟩ := Registry.swept_sweep hkept hsound.quiet hsound.tallied
  exact ⟨after, hsweep, hswept, after.sweep_of_orphans_eq_nil hswept.orphans_eq_nil⟩

/-- Three actions are registered, the first of which panics, and the tokens of the first and the
last one die. -/
def exampleOrphans : List (Move Unit) :=
  [.create ⟨0x31, by decide⟩ () (some "lost"), .create ⟨0x32, by decide⟩ () none,
    .create ⟨0x33, by decide⟩ () none, .token, .token, .token, .register 0 "first" 0,
    .register 1 "second" 1, .register 2 "third" 2, .kill 0, .kill 2]

example : let (count, _, after) := (run exampleOrphans).registry.sweep
    count = 2 ∧ after.ledger.entered.map Entered.action = [0, 2] ∧ after.table.live = [0x32]
      ∧ after.counters = ⟨3, 0, 0, 1, 1⟩ := by decide

end Commons

end Custody

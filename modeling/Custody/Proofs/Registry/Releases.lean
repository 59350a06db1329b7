import Custody.Proofs.Registry.Steps

/-!
# Release functions stay as they are

What an action releases, and how, is settled when the action is added to the ledger. Whatever is
done to a registry afterwards, its actions keep their release functions (`Registry.Retains`), also
where a registry gives up its daemon or drops what was in hand. A registry all of whose release
functions return (`Ledger.Returns`) thus has only such functions later on, and then an owner that
disposes of its handle never sees a panic (`Registry.settle_of_returns`).

The relation compares two registries action by action, and an action that is new in the second one
is compared with nothing in the first. It is therefore about steps that add no action, which are all
but the one that takes a handle into ownership.
-/

namespace Custody

variable {ε : Type}

namespace Ledger

variable {ledger ledger' : Ledger ε}

/-- **Every release function returns**: none panics when it is entered. -/
def Returns (ledger : Ledger ε) : Prop :=
  ∀ id release, ledger.releaseOf? id = some release → release.panics = none

/-- A ledger without actions has no release function that could panic. -/
theorem returns_empty : (empty : Ledger ε).Returns := fun _ _ h => by cases h

/-- Only the release functions count. -/
theorem Returns.of_releaseOf? (h : ledger.Returns)
    (hsame : ∀ id, ledger'.releaseOf? id = ledger.releaseOf? id) : ledger'.Returns :=
  fun id release hrelease => h id release (hsame id ▸ hrelease)

/-- A new action that returns. -/
theorem Returns.prepare (h : ledger.Returns) (handle : Handle) (effect : ε) :
    (ledger.prepare handle (.plain effect)).Returns := by
  intro id release hrelease
  rw [releaseOf?_prepare] at hrelease
  split at hrelease
  · cases hrelease
    rfl
  · exact h id release hrelease

theorem Returns.hold (h : ledger.Returns) (id : ActionId) : (ledger.hold id).Returns :=
  h.of_releaseOf? fun _ => releaseOf?_hold _ _ _

/-- Whoever enters such a release function comes back. -/
theorem Returns.run_fst_ne (h : ledger.Returns) (live : List Address) (id : ActionId)
    (message : String) : (ledger.run live id).1 ≠ .panicked message := by
  intro hpanicked
  unfold run at hpanicked
  cases haction : ledger.actions[id]? with
  | none =>
    rw [haction] at hpanicked
    cases hpanicked
  | some action =>
    have hpanics : action.release.panics = none :=
      h id action.release (by simp [releaseOf?, haction])
    simp only [haction, hpanics] at hpanicked
    split at hpanicked
    · cases hpanicked
    · cases hpanicked

end Ledger

namespace Registry

/-- **The actions keep their release functions.** -/
def Retains (registry registry' : Registry ε) : Prop :=
  ∀ id, registry'.ledger.releaseOf? id = registry.ledger.releaseOf? id

namespace Retains

variable {registry registry' registry'' : Registry ε}

theorem refl (registry : Registry ε) : Retains registry registry := fun _ => rfl

theorem trans (h : Retains registry registry') (h' : Retains registry' registry'') :
    Retains registry registry'' := fun id => (h' id).trans (h id)

/-- A step that does not touch the ledger keeps the release functions. -/
theorem of_ledger_eq (h : registry'.ledger = registry.ledger) : Retains registry registry' :=
  fun _ => by rw [h]

/-- If every release function returned before, every one returns afterwards. -/
theorem returns (h : Retains registry registry') (hreturns : registry.ledger.Returns) :
    registry'.ledger.Returns := hreturns.of_releaseOf? h

variable (registry)

theorem withdraw (key : SlotKey) : Retains registry (registry.withdraw key).2 :=
  of_ledger_eq (registry.withdraw_ledger key)

/-- A release function that has run is the one that it was. -/
theorem release (manner : Manner) (entry : Entry) :
    Retains registry (registry.release manner entry).2 := by
  intro id
  rw [release_ledger, Ledger.releaseOf?_letGo, Ledger.releaseOf?_run]

/-- An entry is reclaimed by its release function, which stays what it was. -/
theorem reclaim (key : SlotKey) : Retains registry (registry.reclaim key).2 := by
  have hwithdraw := withdraw registry key
  unfold Registry.reclaim
  split
  · rename_i heq
    rwa [heq] at hwithdraw
  · rename_i entry taken heq
    rw [heq] at hwithdraw
    exact hwithdraw.trans (release taken .notice entry)

/-- An owner that settles runs its release function, and changes none. -/
theorem settle (taken : Option Entry) (action : ActionId) :
    Retains registry (registry.settle taken action).2 := by
  intro id
  rw [settle_snd]
  cases taken with
  | none => exact Ledger.releaseOf?_run ..
  | some entry => exact (Ledger.releaseOf?_letGo ..).trans (Ledger.releaseOf?_run ..)

theorem letGo (owner : Owner) : Retains registry (registry.letGo owner).2 := by
  intro id
  rw [letGo_snd, Ledger.releaseOf?_letGo]
  rfl

/-- A notice is put in the queue, or acted upon at once when there is no daemon. -/
theorem post (owner : Owner) : Retains registry (registry.post owner).2 := by
  cases hdaemon : registry.daemon with
  | true =>
    rw [registry.post_of_daemon owner hdaemon]
    exact refl registry
  | false =>
    rw [registry.post_of_not_daemon owner hdaemon]
    exact reclaim registry owner.key

/-- A notice is taken from the queue and its entry from the table. -/
theorem takeNotice : Retains registry registry.takeNotice.2 :=
  of_ledger_eq registry.takeNotice_ledger

theorem gather : Retains registry registry.gather.2 := of_ledger_eq rfl

/-- Entries that nobody releases any more are let go. -/
theorem forsake (entries : List Entry) : Retains registry (registry.forsake entries).2 := by
  induction entries generalizing registry with
  | nil => exact refl registry
  | cons entry entries ih =>
    have hfirst : Retains registry
        { registry with ledger := (registry.ledger.letGo entry.action).2 } :=
      fun id => Ledger.releaseOf?_letGo ..
    exact hfirst.trans (ih _)

/-- Entries are released one after the other. -/
theorem releaseAll (entries : List Entry) : Retains registry (registry.releaseAll entries).2 := by
  induction entries generalizing registry with
  | nil => exact refl registry
  | cons entry entries ih =>
    have hfirst := release registry .sweep entry
    unfold Registry.releaseAll
    split
    · rename_i released heq
      rw [heq] at hfirst
      exact hfirst.trans (ih released)
    · rename_i burst released heq
      rw [heq] at hfirst
      exact hfirst.trans (forsake released entries)

/-- A sweep takes entries out of the table and releases them. -/
theorem sweep : Retains registry registry.sweep.2.2 :=
  (gather registry).trans (releaseAll registry.gather.2 registry.gather.1)

theorem withoutDaemon : Retains registry registry.withoutDaemon := of_ledger_eq rfl

/-- The daemon takes the next notice, if there is one, and acts upon it. -/
theorem handleNext : Retains registry registry.handleNext := by
  have htaken := takeNotice registry
  unfold Registry.handleNext
  split
  · rename_i heq
    rwa [heq] at htaken
  · rename_i entry taken heq
    rw [heq] at htaken
    have hreleased := htaken.trans (release taken .notice entry)
    split
    · rename_i heq'
      rwa [heq'] at hreleased
    · rename_i heq'
      rw [heq'] at hreleased
      exact hreleased.trans (withoutDaemon _)

/-- The daemon acts upon a number of notices. -/
theorem handleUpTo (bound : Nat) : Retains registry (registry.handleUpTo bound) := by
  induction bound generalizing registry with
  | zero => exact refl registry
  | succ bound ih => exact (handleNext registry).trans (ih registry.handleNext)

theorem flush : Retains registry registry.flush := handleUpTo registry _

/-- A sweep at the request of the program, which waits for the queue first. -/
theorem sweepNow : Retains registry registry.sweepNow.2 := by
  have hlate := (flush registry).trans (sweep registry.flush)
  have hearly := sweep registry
  unfold Registry.sweepNow
  split
  · -- The daemon sweeps after it has taken the notices, if it is still there then.
    simp only
    split
    · split
      · rename_i heq
        rwa [heq] at hlate
      · rename_i heq
        rw [heq] at hlate
        exact hlate.trans (withoutDaemon _)
    · exact flush registry
  · split
    · rename_i heq
      rwa [heq] at hearly
    · rename_i heq
      rwa [heq] at hearly

end Retains

/-! ## Outcomes -/

variable {registry : Registry ε}

/-- **Disposing of a handle** ends well where release functions return and can be destroyed. -/
theorem settle_of_returns (hreturns : registry.ledger.Returns) (hquiet : registry.ledger.Quiet)
    (taken : Option Entry) (action : ActionId) :
    ∃ released, (registry.settle taken action).1 = .ok released := by
  have hpanics := hreturns.run_fst_ne registry.table.live action
  have hburst : ∀ entry : Entry,
      ((registry.ledger.run registry.table.live action).2.letGo entry.action).1 = none :=
    fun entry => (hquiet.run registry.table.live action).letGo_fst entry.action
  unfold settle
  cases hrun : (registry.ledger.run registry.table.live action).1 with
  | panicked message => exact absurd hrun (hpanics message)
  | spent =>
    refine ⟨false, ?_⟩
    cases taken with
    | none => simp [hrun]
    | some entry => simp [hrun, hburst]
  | released =>
    refine ⟨true, ?_⟩
    cases taken with
    | none => simp [hrun]
    | some entry => simp [hrun, hburst]

/-- The daemon always answers a sweep, even if it ends in the course of it. -/
theorem sweepNow_of_daemon (hdaemon : registry.daemon = true) :
    ∃ count, registry.sweepNow.1 = .ok count := by
  unfold sweepNow
  rw [if_pos hdaemon]
  simp only
  split
  · split
    · exact ⟨_, rfl⟩
    · exact ⟨_, rfl⟩
  · exact ⟨_, rfl⟩

/-- An owner goes for good without a panic. -/
theorem letGo_of_quiet (hquiet : registry.ledger.Quiet) (owner : Owner) :
    (registry.letGo owner).1 = .ok () := by
  have hkilled : (registry.ledger.kill owner.token).Quiet := hquiet
  simp [letGo, hkilled.letGo_fst owner.action]

end Registry

end Custody

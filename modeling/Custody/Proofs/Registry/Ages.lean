import Custody.Proofs.Registry.Steps

/-!
# Slots are never un-vacated

Whatever is done to a registry, no slot of its table has been vacated less often afterwards
(`Registry.Ages`). That is so for every operation and in every state, also in one in which the
books are not in order. So if no slot was vacated 2 ^ 32 times in the last state of a run, none
was in any state before.

None of these lemmas asks anything of the registry. They are what allows a bound on vacations to be
asked for once, of the last state of a run, where the proofs about single moves ask for it in each
state that they come to.
-/

namespace Custody

variable {ε : Type}

/-- After an entry is taken out, no slot was vacated less often than before. -/
theorem SlotTable.vacancies_le_of_take {table rest : SlotTable} {entry : Entry} {key : SlotKey}
    (htake : table.take key = some (entry, rest)) (i : Nat) :
    table.vacancies i ≤ rest.vacancies i := by
  rw [SlotTable.vacancies_take htake]
  split
  · exact Nat.le_succ _
  · exact Nat.le_refl _

/-- No slot was vacated less often after several entries were taken out. -/
theorem SlotTable.vacancies_le_takeAll (table : SlotTable) (keys : List SlotKey) (i : Nat) :
    table.vacancies i ≤ (table.takeAll keys).2.vacancies i := by
  induction keys generalizing table with
  | nil => exact Nat.le_refl _
  | cons key keys ih =>
    unfold takeAll
    cases htake : table.take key with
    | none => exact ih table
    | some taken => exact Nat.le_trans (vacancies_le_of_take htake i) (ih taken.2)

namespace Registry

/-- **No slot was vacated less often afterwards.** -/
def Ages (registry registry' : Registry ε) : Prop :=
  ∀ i, registry.table.vacancies i ≤ registry'.table.vacancies i

namespace Ages

variable {registry registry' registry'' : Registry ε}

theorem refl (registry : Registry ε) : Ages registry registry := fun _ => Nat.le_refl _

theorem trans (h : Ages registry registry') (h' : Ages registry' registry'') :
    Ages registry registry'' := fun i => Nat.le_trans (h i) (h' i)

/-- A step that does not touch the table changes no number of vacations. -/
theorem of_table_eq (h : registry'.table = registry.table) : Ages registry registry' :=
  fun i => Nat.le_of_eq (by rw [h])

/-- **Slots that last have lasted**: if none was vacated 2 ^ 32 times in the end, none was before.
-/
theorem lasting (h : Ages registry registry') (hlast : registry'.table.Lasting) :
    registry.table.Lasting :=
  SlotTable.lasting_iff.mpr fun i => Nat.lt_of_le_of_lt (h i) (SlotTable.lasting_iff.mp hlast i)

variable (registry)

/-- A new entry fills a slot and vacates none. -/
theorem own (handle : Handle) (domain : String) (release : Release ε) :
    Ages registry (registry.own handle domain release).2 := by
  by_cases hmem : handle.address ∈ registry.table.live
  · obtain ⟨abort, hown⟩ := registry.own_of_mem handle domain release hmem
    rw [hown]
    exact refl registry
  · rw [registry.own_of_not_mem handle domain release hmem]
    exact fun i => Nat.le_of_eq (SlotTable.vacancies_place _ _ i).symm

/-- An entry that is withdrawn vacates its slot. -/
theorem withdraw (key : SlotKey) : Ages registry (registry.withdraw key).2 := by
  unfold Registry.withdraw
  cases htake : registry.table.take key with
  | none => exact refl registry
  | some taken => exact SlotTable.vacancies_le_of_take htake

/-- An entry that is reclaimed vacates its slot before its release function runs. -/
theorem reclaim (key : SlotKey) : Ages registry (registry.reclaim key).2 :=
  (withdraw registry key).trans (of_table_eq (registry.reclaim_table key))

theorem gather : Ages registry registry.gather.2 := registry.table.vacancies_le_takeAll _

/-- Entries that are forsaken have left their slots already. -/
theorem forsake (entries : List Entry) : Ages registry (registry.forsake entries).2 := by
  induction entries generalizing registry with
  | nil => exact refl registry
  | cons entry entries ih =>
      exact ih { registry with ledger := (registry.ledger.letGo entry.action).2 }

/-- Entries that are released have left their slots already. -/
theorem releaseAll (entries : List Entry) : Ages registry (registry.releaseAll entries).2 := by
  induction entries generalizing registry with
  | nil => exact refl registry
  | cons entry entries ih =>
    unfold Registry.releaseAll
    split
    · rename_i released heq
      have htable := registry.release_table .sweep entry
      rw [heq] at htable
      exact (of_table_eq htable).trans (ih released)
    · -- A burst ends the sweep, and what it has not come to is let go.
      rename_i burst released heq
      have htable := registry.release_table .sweep entry
      rw [heq] at htable
      exact (of_table_eq htable).trans (forsake released entries)

theorem sweep : Ages registry registry.sweep.2.2 :=
  (gather registry).trans (releaseAll registry.gather.2 registry.gather.1)

theorem takeNotice : Ages registry registry.takeNotice.2 := by
  unfold Registry.takeNotice
  split
  · exact refl registry
  · rename_i key waiting _
    exact withdraw { registry with notices := waiting } key

theorem release (manner : Manner) (entry : Entry) :
    Ages registry (registry.release manner entry).2 :=
  of_table_eq (registry.release_table manner entry)

/-- A notice vacates the slot of its entry, unless that was vacated before. -/
theorem handleNext : Ages registry registry.handleNext := by
  have htaken := takeNotice registry
  unfold Registry.handleNext
  split
  · rename_i heq
    rwa [heq] at htaken
  · rename_i entry taken heq
    rw [heq] at htaken
    have hrelease := htaken.trans (release taken .notice entry)
    split
    · rename_i heq'
      rwa [heq'] at hrelease
    · rename_i heq'
      rw [heq'] at hrelease
      exact hrelease

theorem handleUpTo (bound : Nat) : Ages registry (registry.handleUpTo bound) := by
  induction bound generalizing registry with
  | zero => exact refl registry
  | succ bound ih => exact (handleNext registry).trans (ih registry.handleNext)

theorem flush : Ages registry registry.flush := handleUpTo registry _

/-- A sweep that the daemon is asked for comes after the notices. -/
theorem flush_sweepNow {registry : Registry ε} (h : registry.daemon = true) :
    Ages registry.flush registry.sweepNow.2 := by
  have hsweep := sweep registry.flush
  unfold Registry.sweepNow
  rw [if_pos h]
  simp only
  split
  · split
    · rename_i heq
      rwa [heq] at hsweep
    · rename_i heq
      rw [heq] at hsweep
      exact hsweep
  · exact refl registry.flush

/-- A sweep vacates the slots of all orphans. -/
theorem sweepNow : Ages registry registry.sweepNow.2 := by
  cases hdaemon : registry.daemon with
  | true => exact (flush registry).trans (flush_sweepNow hdaemon)
  | false =>
    have hsweep := sweep registry
    unfold Registry.sweepNow
    rw [if_neg (by simp [hdaemon])]
    split
    · rename_i heq
      rwa [heq] at hsweep
    · rename_i heq
      rwa [heq] at hsweep

/-- A notice that is acted upon at once, for want of a daemon, vacates a slot. -/
theorem post (owner : Owner) : Ages registry (registry.post owner).2 := by
  cases hdaemon : registry.daemon with
  | true =>
    rw [registry.post_of_daemon owner hdaemon]
    exact refl registry
  | false =>
    rw [registry.post_of_not_daemon owner hdaemon]
    exact reclaim registry owner.key

theorem settle (taken : Option Entry) (action : ActionId) :
    Ages registry (registry.settle taken action).2 := of_table_eq (settle_table ..)

theorem letGo (owner : Owner) : Ages registry (registry.letGo owner).2 := of_table_eq rfl

theorem withoutDaemon : Ages registry registry.withoutDaemon := of_table_eq rfl

end Ages

end Registry

end Custody

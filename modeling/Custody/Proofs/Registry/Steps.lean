import Custody.Proofs.Registry.Books

/-!
# What a step of a registry touches

The operations of a registry that are done in one go, each with what it leaves as it was and
what becomes of the rest. A step touches the table or the ledger, and the counters beside them;
the notices and the daemon stay as they are unless the ledger is one in which the destruction of
a release function can panic.

Most of what is proved about runs later on cites these equations, and does not look into the
operations again. The equations without hypotheses are tagged for the simplifier, in the direction
from an operation to what it leaves as it was.
-/

namespace Custody.Registry

variable {ε : Type} (registry : Registry ε)

/-! ## Entries that leave the table -/

@[simp] theorem withdraw_ledger (key : SlotKey) :
    (registry.withdraw key).2.ledger = registry.ledger := by
  unfold withdraw
  split
  · rfl
  · rfl

@[simp] theorem withdraw_notices (key : SlotKey) :
    (registry.withdraw key).2.notices = registry.notices := by
  unfold withdraw
  split
  · rfl
  · rfl

@[simp] theorem withdraw_daemon (key : SlotKey) :
    (registry.withdraw key).2.daemon = registry.daemon := by
  unfold withdraw
  split
  · rfl
  · rfl

@[simp] theorem withdraw_counters (key : SlotKey) :
    (registry.withdraw key).2.counters = registry.counters := by
  unfold withdraw
  split
  · rfl
  · rfl

/-- An entry that is in the table is withdrawn from it. -/
theorem withdraw_of_take {key : SlotKey} {entry : Entry} {rest : SlotTable}
    (h : registry.table.take key = some (entry, rest)) :
    registry.withdraw key = (some entry, { registry with table := rest }) := by
  unfold withdraw
  rw [h]

/-- Where there is no entry, nothing is withdrawn. -/
theorem withdraw_of_find?_eq_none {key : SlotKey} (h : registry.table.find? key = none) :
    registry.withdraw key = (none, registry) := by
  unfold withdraw
  rw [(SlotTable.take_eq_none_iff _ _).mpr h]

section Leave

variable (taken : Option Entry) (action : ActionId) (manner : Manner) (entry : Entry)

@[simp] theorem release_table : (registry.release manner entry).2.table = registry.table := rfl

@[simp] theorem release_notices : (registry.release manner entry).2.notices = registry.notices :=
  rfl

@[simp] theorem release_daemon : (registry.release manner entry).2.daemon = registry.daemon := rfl

@[simp] theorem release_ledger : (registry.release manner entry).2.ledger
    = ((registry.ledger.run registry.table.live entry.action).2.letGo entry.action).2 := rfl

/-- No entry is made when one is released. -/
theorem registered_release :
    (registry.release manner entry).2.counters.registered = registry.counters.registered := by
  show (registry.counters.note manner _).registered = _
  unfold Counters.note
  split
  · rfl
  · rfl
  · split
    · rfl
    · rfl

/-- Only the counters depend on what became of the release function. -/
theorem settle_snd : (registry.settle taken action).2 = { registry with
    counters := match (registry.ledger.run registry.table.live action).1 with
      | .released => { registry.counters with explicit := registry.counters.explicit + 1 }
      | _ => registry.counters
    ledger := match taken with
      | some entry => ((registry.ledger.run registry.table.live action).2.letGo entry.action).2
      | none => (registry.ledger.run registry.table.live action).2 } := by
  unfold settle
  cases taken with
  | none =>
    cases hrun : (registry.ledger.run registry.table.live action).1 with
    | spent => simp [hrun]
    | released => simp [hrun]
    | panicked message => simp [hrun]
  | some entry =>
    cases hrun : (registry.ledger.run registry.table.live action).1 with
    | spent =>
      cases hburst : ((registry.ledger.run registry.table.live action).2.letGo entry.action).1 <;>
        simp [hrun, hburst]
    | released => simp [hrun]
    | panicked message => simp [hrun]

@[simp] theorem settle_table : (registry.settle taken action).2.table = registry.table := by
  rw [settle_snd]

@[simp] theorem settle_notices : (registry.settle taken action).2.notices = registry.notices := by
  rw [settle_snd]

@[simp] theorem settle_daemon : (registry.settle taken action).2.daemon = registry.daemon := by
  rw [settle_snd]

/-- The owner runs its action, and then gives up the reference of the entry. -/
theorem settle_some_ledger : (registry.settle (some entry) action).2.ledger
    = ((registry.ledger.run registry.table.live action).2.letGo entry.action).2 := by
  rw [settle_snd]

/-- In a quiet ledger an explicit disposal succeeds if its release function returns. -/
theorem settle_of_released (hquiet : registry.ledger.Quiet)
    (hrun : (registry.ledger.run registry.table.live action).1 = .released) :
    registry.settle (some entry) action = (.ok true, { registry with
      counters := { registry.counters with explicit := registry.counters.explicit + 1 }
      ledger := ((registry.ledger.run registry.table.live action).2.letGo entry.action).2 }) := by
  have hburst := (hquiet.run registry.table.live action).letGo_fst entry.action
  simp [settle, hrun, hburst]

end Leave

/-- Reclaiming takes the entry out of the table, and does not touch the table any more after
that. -/
theorem reclaim_table (key : SlotKey) :
    (registry.reclaim key).2.table = (registry.withdraw key).2.table := by
  unfold reclaim
  cases registry.withdraw key with
  | mk taken rest =>
    cases taken with
    | none => rfl
    | some entry => rfl

/-- In a quiet ledger dropping an entry ends in no panic. -/
theorem release_of_quiet (h : registry.ledger.Quiet) (manner : Manner) (entry : Entry) :
    registry.release manner entry = (none, (registry.release manner entry).2) :=
  Prod.ext ((h.run registry.table.live entry.action).letGo_fst entry.action) rfl

/-- There is no notice to be taken. -/
theorem takeNotice_of_nil (hnotices : registry.notices = []) :
    registry.takeNotice = (none, registry) := by
  unfold takeNotice
  rw [hnotices]

/-- The oldest notice is taken, and its entry is withdrawn. -/
theorem takeNotice_of_cons {key : SlotKey} {waiting : List SlotKey}
    (hnotices : registry.notices = key :: waiting) :
    registry.takeNotice = { registry with notices := waiting }.withdraw key := by
  unfold takeNotice
  rw [hnotices]

/-- What shows neither the queue nor a withdrawal does not show that a notice is taken. -/
theorem takeNotice_view {α : Type} (view : Registry ε → α)
    (hqueue : ∀ waiting, view { registry with notices := waiting } = view registry)
    (hwithdraw : ∀ (registry : Registry ε) key, view (registry.withdraw key).2 = view registry) :
    view registry.takeNotice.2 = view registry := by
  cases hnotices : registry.notices with
  | nil => rw [registry.takeNotice_of_nil hnotices]
  | cons key waiting => rw [registry.takeNotice_of_cons hnotices, hwithdraw, hqueue]

@[simp] theorem takeNotice_ledger : registry.takeNotice.2.ledger = registry.ledger :=
  registry.takeNotice_view (·.ledger) (fun _ => rfl) withdraw_ledger

@[simp] theorem takeNotice_notices : registry.takeNotice.2.notices = registry.notices.tail := by
  cases hnotices : registry.notices with
  | nil => rw [registry.takeNotice_of_nil hnotices, hnotices, List.tail_nil]
  | cons key waiting =>
    rw [registry.takeNotice_of_cons hnotices]
    exact withdraw_notices _ key

@[simp] theorem takeNotice_daemon : registry.takeNotice.2.daemon = registry.daemon :=
  registry.takeNotice_view (·.daemon) (fun _ => rfl) withdraw_daemon

@[simp] theorem takeNotice_counters : registry.takeNotice.2.counters = registry.counters :=
  registry.takeNotice_view (·.counters) (fun _ => rfl) withdraw_counters

/-- A notice waits for the daemon. -/
theorem notify_of_daemon (h : registry.daemon = true) (key : SlotKey) :
    registry.notify key = (.ok (), { registry with notices := registry.notices ++ [key] }) := by
  rw [notify, if_pos h]

/-- **One notice goes**, whether there is an entry for it or not. -/
theorem handleNext_notices (h : registry.ledger.Quiet) :
    registry.handleNext.notices = registry.notices.tail := by
  rw [← takeNotice_notices, handleNext]
  have hquiet : registry.takeNotice.2.ledger.Quiet := by rwa [takeNotice_ledger]
  cases hnotice : registry.takeNotice with
  | mk taken rest =>
    rw [hnotice] at hquiet
    cases taken with
    | none => rfl
    | some entry =>
      simp only
      rw [rest.release_of_quiet hquiet]
      rfl

/-- A notice that comes too late is thrown away. -/
theorem handleNext_of_find?_eq_none {key : SlotKey} {waiting : List SlotKey}
    (hnotices : registry.notices = key :: waiting) (hfound : registry.table.find? key = none) :
    registry.handleNext = { registry with notices := waiting } := by
  have hwithdraw := withdraw_of_find?_eq_none { registry with notices := waiting } hfound
  simp only [handleNext, takeNotice, hnotices, hwithdraw]

/-- The entry that the oldest notice names leaves the table and is released. -/
theorem handleNext_of_take {key : SlotKey} {waiting : List SlotKey} {entry : Entry}
    {rest : SlotTable} (hquiet : registry.ledger.Quiet)
    (hnotices : registry.notices = key :: waiting)
    (htake : registry.table.take key = some (entry, rest)) : registry.handleNext
      = ({ registry with table := rest, notices := waiting }.release .notice entry).2 := by
  have hwithdraw := withdraw_of_take { registry with notices := waiting } htake
  have hrelease :=
    release_of_quiet { registry with table := rest, notices := waiting } hquiet .notice
    entry
  simp only [handleNext, takeNotice, hnotices, hwithdraw]
  rw [hrelease]

/-! ## Owners that come and go -/

section Owners

variable (handle : Handle) (domain : String) (release : Release ε) (owner : Owner)

/-- The entry that is made for a handle. -/
def nextEntry : Entry :=
  ⟨registry.ledger.actions.length, handle, Owner.labelFor domain handle,
    registry.ledger.tokens.length⟩

/-- The owner that a handle gets, if it gets one. -/
def nextOwner : Owner :=
  let entry := registry.nextEntry handle domain
  ⟨(registry.table.place entry).1, entry.action, entry.token, entry.handle, entry.label⟩

/-- A handle without an owner gets one. -/
theorem own_of_not_mem (h : handle.address ∉ registry.table.live) :
    registry.own handle domain release = (.ok (registry.nextOwner handle domain), { registry with
      table := (registry.table.place (registry.nextEntry handle domain)).2
      counters := { registry.counters with registered := registry.counters.registered + 1 }
      ledger :=
        (registry.ledger.prepare handle release).hold registry.ledger.actions.length }) := by
  have hins : registry.table.insert (registry.nextEntry handle domain)
      = .ok (registry.table.place (registry.nextEntry handle domain)) := if_neg h
  unfold nextEntry at hins
  simp [own, register, hins, nextOwner, nextEntry, Ledger.prepare]

/-- A handle that has an owner gets no second one. -/
theorem own_of_mem (h : handle.address ∈ registry.table.live) :
    ∃ abort, registry.own handle domain release = (.error abort, { registry with
      ledger := (((registry.ledger.prepare handle release).kill registry.ledger.tokens.length).letGo
        registry.ledger.actions.length).2 }) := by
  have hins : registry.table.insert (registry.nextEntry handle domain)
      = .error (SlotTable.duplicate (registry.nextEntry handle domain)) := if_pos h
  unfold nextEntry at hins
  cases hburst : (((registry.ledger.prepare handle release).kill
      registry.ledger.tokens.length).letGo registry.ledger.actions.length).1 with
  | none =>
    unfold Ledger.prepare at hburst
    exact ⟨_, by simp [own, register, hins, hburst, Ledger.prepare]; rfl⟩
  | some burst =>
    unfold Ledger.prepare at hburst
    exact ⟨_, by simp [own, register, hins, hburst, Ledger.prepare]; rfl⟩

/-- The notice of an owner waits for the daemon. -/
theorem post_of_daemon (h : registry.daemon = true) :
    registry.post owner =
    (.ok (), { registry with notices := registry.notices ++ [owner.key] }) := by
  rw [post, registry.notify_of_daemon h]

/-- **Without a daemon** the owner does itself what the notice asks for. -/
theorem post_of_not_daemon (h : registry.daemon = false) :
    (registry.post owner).2 = (registry.reclaim owner.key).2 := by
  rw [post, notify, if_neg (by simp [h])]
  cases registry.reclaim owner.key with
  | mk burst rest =>
    cases burst with
    | none => rfl
    | some message => rfl

@[simp] theorem letGo_snd : (registry.letGo owner).2
    = { registry with ledger := ((registry.ledger.kill owner.token).letGo owner.action).2 } := rfl

end Owners

/-! ## The end -/

/-- Without entries there are no orphans. -/
theorem orphans_eq_nil (h : registry.table.entries = []) : registry.orphans = [] := by
  rw [List.eq_nil_iff_forall_not_mem]
  intro key hkey
  obtain ⟨entry, hfound, -⟩ := SlotTable.mem_keysWhere.mp hkey
  have hmem : entry ∈ registry.table.entries := SlotTable.mem_entries.mpr ⟨key, hfound⟩
  rw [h] at hmem
  cases hmem

/-- A sweep that finds no orphans does nothing. -/
theorem sweep_of_orphans_eq_nil (h : registry.orphans = []) :
    registry.sweep = (0, none, registry) := by
  unfold sweep gather
  rw [h]
  rfl

/-- Nothing happens any more when a registry is dropped that has no entries and no notices. -/
theorem close_of_idle (hdaemon : registry.daemon = true) (hnotices : registry.notices = [])
    (hentries : registry.table.entries = []) : registry.close
      = (.ok (), { registry with table := .empty, daemon := false, notices := [] }) := by
  have hflush : registry.flush = registry := by
    rw [flush, hnotices]
    rfl
  have hsweep : registry.sweepOnTime = registry := by
    rw [sweepOnTime, if_pos hdaemon,
      registry.sweep_of_orphans_eq_nil (registry.orphans_eq_nil hentries)]
  have hretire : registry.retire = registry.withoutDaemon := by
    rw [retire, if_pos hdaemon, hflush, hsweep]
  simp [close, hretire, withoutDaemon, hentries, forsake]

end Custody.Registry

import Custody.Proofs.Registry.Steps
import Custody.Proofs.SlotTable.Batches
import Mathlib.Data.List.Forall2

/-!
# What a sweep does

A sweep takes the entries whose token is dead out of the table and then releases them, one after the
other. What releasing several entries does to a registry is put down once (`Registry.Released`): one
release after the other adds up to that, as long as the entries are of different actions
(`Registry.Released.cons`), and a release function that panics makes no difference to the next one.
From this and from what is taken out of the table follows what a sweep does
(`Registry.swept_sweep`).

Every orphan has left the table before the first release function is entered, so that each of them
sees the same table, and one that has been entered before is not entered again. Both are part of the
statement (`Registry.Swept`), which says what is left of the table, of the counters and of the
ledger, and a second sweep finds nothing to do.
-/

namespace Custody

variable {ε : Type}

namespace Ledger

variable {ledger ledger' : Ledger ε} {live : List Address} {entry : Entry} {entries : List Entry}
  {entered : Entered ε} {id : ActionId}

/-- The entries whose handles have not been released yet. -/
def due (ledger : Ledger ε) (entries : List Entry) : List Entry :=
  entries.filter fun entry => !ledger.isCompleted entry.action

/-- How many of the release functions that are due return. -/
def returning (ledger : Ledger ε) (entries : List Entry) : Nat :=
  (ledger.due entries).countP fun entry => !ledger.panics entry.action

/-- How many of the release functions that are due panic. -/
def panicking (ledger : Ledger ε) (entries : List Entry) : Nat :=
  (ledger.due entries).countP fun entry => ledger.panics entry.action

/-- **The release function of an entry is entered** while these addresses have an entry in the
table. -/
structure Enters (ledger : Ledger ε) (live : List Address) (entry : Entry) (entered : Entered ε) :
    Prop where
  /-- It is that of the action of the entry. -/
  action : entered.action = entry.action
  /-- It is entered with the handle of the entry. -/
  handle : entered.handle = entry.handle
  /-- It does what the action stands for. -/
  effect : ledger.effectOf? entry.action = some entered.effect
  /-- The table at that moment. -/
  live : entered.live = live

/-! ## Ledgers with the same actions -/

theorem isCompleted_congr (h : ledger'.actions[id]? = ledger.actions[id]?) :
    ledger'.isCompleted id = ledger.isCompleted id := by
  rw [isCompleted, h, isCompleted]

theorem panics_congr (h : ledger'.actions[id]? = ledger.actions[id]?) :
    ledger'.panics id = ledger.panics id := by
  rw [panics, releaseOf?, h, panics, releaseOf?]

theorem effectOf?_congr (h : ledger'.actions[id]? = ledger.actions[id]?) :
    ledger'.effectOf? id = ledger.effectOf? id := by
  rw [effectOf?, releaseOf?, h, effectOf?, releaseOf?]

theorem due_congr (h : ∀ entry ∈ entries, ledger'.actions[entry.action]?
    = ledger.actions[entry.action]?) : ledger'.due entries = ledger.due entries :=
  List.filter_congr fun entry hentry => by rw [isCompleted_congr (h entry hentry)]

theorem due_cons (h : ∀ entry ∈ entries, ledger'.actions[entry.action]?
    = ledger.actions[entry.action]?) :
    ledger.due (entry :: entries) = ledger.due [entry] ++ ledger'.due entries := by
  rw [due_congr h, due, due, due, ← List.filter_append, List.singleton_append]

/-- Those that panic, and those that do not, are counted one entry after the other. -/
theorem countP_due_cons (counts : Bool → Bool) (h : ∀ entry ∈ entries,
    ledger'.actions[entry.action]? = ledger.actions[entry.action]?) :
    (ledger.due (entry :: entries)).countP (fun other => counts (ledger.panics other.action))
      = (ledger.due [entry]).countP (fun other => counts (ledger.panics other.action))
        + (ledger'.due entries).countP fun other => counts (ledger'.panics other.action) := by
  rw [due_cons h, List.countP_append]
  exact congrArg _ (List.countP_congr fun other hother => by
    rw [panics_congr (h other (List.mem_of_mem_filter hother))])

/-! ## Other actions -/

theorem getElem?_run_of_ne (h : id ≠ entry.action) :
    (ledger.run live entry.action).2.actions[id]? = ledger.actions[id]? := by
  unfold run
  split
  · rfl
  · split
    · rfl
    · exact List.getElem?_set_ne (Ne.symm h)

theorem getElem?_letGo_of_ne (h : id ≠ entry.action) :
    (ledger.letGo entry.action).2.actions[id]? = ledger.actions[id]? := by
  unfold letGo
  split
  · rfl
  · exact List.getElem?_set_ne (Ne.symm h)

/-- Nothing comes of an action that is done. -/
theorem run_of_completed (h : ledger.isCompleted id = true) :
    ledger.run live id = (.spent, ledger) := by
  unfold isCompleted at h
  unfold run
  cases hget : ledger.actions[id]? with
  | none => rfl
  | some action =>
    rw [hget] at h
    exact if_pos h

end Ledger

namespace Registry

variable {registry middle after : Registry ε} {entry : Entry} {entries : List Entry}

/-! ## Releasing several entries -/

/-- **What releasing several entries does to a registry.** -/
structure Released (registry : Registry ε) (entries : List Entry) (after : Registry ε) : Prop where
  /-- The table is as it was. -/
  table : after.table = registry.table
  /-- The release functions that are due are entered, each once and in this order. -/
  entered : ∃ entered, after.ledger.entered = registry.ledger.entered ++ entered
    ∧ List.Forall₂ (registry.ledger.Enters registry.table.live)
      (registry.ledger.due entries) entered
  /-- Those that return and those that panic are counted. -/
  counters : after.counters = { registry.counters with
    swept := registry.counters.swept + registry.ledger.returning entries
    failed := registry.counters.failed + registry.ledger.panicking entries }
  /-- The actions are done. -/
  done : ∀ entry ∈ entries, after.ledger.isCompleted entry.action = true
  /-- All other actions are left alone. -/
  others : ∀ id, id ∉ entries.map Entry.action →
    after.ledger.actions[id]? = registry.ledger.actions[id]?
  /-- So are the tokens. -/
  tokens : after.ledger.tokens = registry.ledger.tokens
  /-- Every release function is still entered once if its action is done, and never otherwise. -/
  tallied : registry.ledger.Tallied → after.ledger.Tallied

theorem released_nil (registry : Registry ε) : registry.Released [] registry where
  table := rfl
  entered := ⟨[], (List.append_nil _).symm, .nil⟩
  counters := rfl
  done := nofun
  others _ _ := rfl
  tokens := rfl
  tallied := id

/-- **One release function is entered** if its action is not done, and its end is counted. -/
theorem entered_release (hhandle : registry.ledger.handleOf? entry.action = some entry.handle) :
    (∃ entered, (registry.release .sweep entry).2.ledger.entered
        = registry.ledger.entered ++ entered
      ∧ List.Forall₂ (registry.ledger.Enters registry.table.live)
        (registry.ledger.due [entry]) entered)
    ∧ (registry.release .sweep entry).2.counters = { registry.counters with
        swept := registry.counters.swept + registry.ledger.returning [entry]
        failed := registry.counters.failed + registry.ledger.panicking [entry] } := by
  have hlt := registry.ledger.lt_of_handleOf? hhandle
  have hrun : (registry.release .sweep entry).2.ledger.entered
      = (registry.ledger.run registry.table.live entry.action).2.entered := by
    rw [release_ledger, Ledger.entered_letGo]
  have hcounters : (registry.release .sweep entry).2.counters = registry.counters.note .sweep
      (registry.ledger.run registry.table.live entry.action).1 := rfl
  cases hcompleted : registry.ledger.isCompleted entry.action with
  | true =>
    -- The handle has been released by somebody else, and nothing is entered or counted.
    have hdue : registry.ledger.due [entry] = [] := by simp [Ledger.due, hcompleted]
    rw [Ledger.run_of_completed hcompleted] at hrun hcounters
    refine ⟨⟨[], ?_, ?_⟩, ?_⟩
    · rw [hrun, List.append_nil]
    · rw [hdue]
      exact .nil
    · rw [hcounters, Ledger.returning, Ledger.panicking, hdue]
      rfl
  | false =>
    have hdue : registry.ledger.due [entry] = [entry] := by simp [Ledger.due, hcompleted]
    obtain ⟨release, hrelease⟩ :
        ∃ release, registry.ledger.releaseOf? entry.action = some release :=
      Option.isSome_iff_exists.mp (by simp [Ledger.releaseOf?, hlt])
    obtain ⟨hattempt, hentered⟩ :=
      registry.ledger.run_of_open registry.table.live entry.action hcompleted hrelease hhandle
    rw [hentered] at hrun
    rw [hattempt] at hcounters
    refine ⟨⟨_, hrun, ?_⟩, ?_⟩
    · rw [hdue]
      exact .cons ⟨rfl, rfl, by rw [Ledger.effectOf?, hrelease]; rfl, rfl⟩ .nil
    · rw [hcounters, Ledger.returning, Ledger.panicking, hdue]
      cases hpanics : release.panics with
      | none => simp [Ledger.panics, hrelease, hpanics, Counters.note]
      | some message => simp [Ledger.panics, hrelease, hpanics, Counters.note]

/-- **One release**, whether the release function panics or not, or has been entered before. -/
theorem released_release (hhandle : registry.ledger.handleOf? entry.action = some entry.handle) :
    registry.Released [entry] (registry.release .sweep entry).2 where
  table := rfl
  entered := (entered_release hhandle).1
  counters := (entered_release hhandle).2
  done other hother := by
    obtain rfl := List.mem_singleton.mp hother
    rw [release_ledger, Ledger.isCompleted_letGo, Ledger.isCompleted_run, if_pos rfl]
    exact decide_eq_true (registry.ledger.lt_of_handleOf? hhandle)
  others id hid := by
    have hne : id ≠ entry.action := fun h => hid (h ▸ List.mem_singleton_self _)
    rw [release_ledger, Ledger.getElem?_letGo_of_ne hne, Ledger.getElem?_run_of_ne hne]
  tokens := by rw [release_ledger, Ledger.tokens_letGo, Ledger.tokens_run]
  tallied h := (h.run registry.table.live entry.action).of_views (Ledger.entered_letGo _ _)
    (Ledger.isCompleted_letGo _ _)

/-- **Releases add up**, of entries that are of different actions. -/
theorem Released.cons (hfirst : registry.Released [entry] middle)
    (hrest : middle.Released entries after) (hdistinct : entry.action ∉ entries.map Entry.action) :
    registry.Released (entry :: entries) after := by
  -- The first release leaves the actions of the others alone.
  have hsame : ∀ other ∈ entries,
      middle.ledger.actions[other.action]? = registry.ledger.actions[other.action]? := by
    intro other hother
    refine hfirst.others _ fun hmem => hdistinct ?_
    rw [← List.mem_singleton.mp hmem]
    exact List.mem_map_of_mem hother
  have hmem : ∀ other ∈ middle.ledger.due entries, other ∈ entries :=
    fun other hother => List.mem_of_mem_filter hother
  have hreturning : registry.ledger.returning (entry :: entries)
      = registry.ledger.returning [entry] + middle.ledger.returning entries :=
    Ledger.countP_due_cons not hsame
  have hpanicking : registry.ledger.panicking (entry :: entries)
      = registry.ledger.panicking [entry] + middle.ledger.panicking entries :=
    Ledger.countP_due_cons id hsame
  refine ⟨hrest.table.trans hfirst.table, ?_, ?_, ?_, ?_, hrest.tokens.trans hfirst.tokens,
    fun h => hrest.tallied (hfirst.tallied h)⟩
  · obtain ⟨entered, hentered, henters⟩ := hfirst.entered
    obtain ⟨later, hlater, henters'⟩ := hrest.entered
    refine ⟨entered ++ later, ?_, ?_⟩
    · rw [hlater, hentered, List.append_assoc]
    · rw [Ledger.due_cons hsame]
      refine List.rel_append henters (((List.forall₂_and_left _ _).mpr ⟨hmem, henters'⟩).imp ?_)
      rintro other deed ⟨hother, haction, hhandle, heffect, hlive⟩
      rw [Ledger.effectOf?_congr (hsame other hother)] at heffect
      exact ⟨haction, hhandle, heffect, hlive.trans (congrArg SlotTable.live hfirst.table)⟩
  · rw [hrest.counters, hfirst.counters, hreturning, hpanicking, ← Nat.add_assoc,
      ← Nat.add_assoc]
  · refine List.forall_mem_cons.mpr ⟨?_, hrest.done⟩
    rw [Ledger.isCompleted_congr (hrest.others _ hdistinct)]
    exact hfirst.done entry (List.mem_singleton_self _)
  · intro id hid
    rw [List.map_cons, List.mem_cons, not_or] at hid
    rw [hrest.others id hid.2]
    exact hfirst.others id fun hmem => hid.1 (List.mem_singleton.mp hmem)

/-- **Several releases**, one after the other. No release function is lost because of those before
it. -/
theorem released_releaseAll (hquiet : registry.ledger.Quiet)
    (hhandles : ∀ entry ∈ entries, registry.ledger.handleOf? entry.action = some entry.handle)
    (hdistinct : (entries.map Entry.action).Nodup) :
    (registry.releaseAll entries).1 = none
      ∧ registry.Released entries (registry.releaseAll entries).2 := by
  induction entries generalizing registry with
  | nil => exact ⟨rfl, released_nil registry⟩
  | cons entry entries ih =>
    obtain ⟨hhandle, hhandles⟩ := List.forall_mem_cons.mp hhandles
    obtain ⟨hne, hdistinct⟩ := List.nodup_cons.mp hdistinct
    have hfirst := released_release hhandle
    have hquiet' : (registry.release .sweep entry).2.ledger.Quiet :=
      (hquiet.run registry.table.live entry.action).letGo entry.action
    obtain ⟨hburst, hrest⟩ := ih hquiet' (fun other hother => by
      rw [release_ledger, Ledger.handleOf?_letGo, Ledger.handleOf?_run]
      exact hhandles other hother) hdistinct
    rw [releaseAll, registry.release_of_quiet hquiet]
    exact ⟨hburst, hfirst.cons hrest hne⟩

/-! ## Orphans -/

/-- **The entries whose token is dead**, in the order of their slots. -/
def orphaned (registry : Registry ε) : List Entry :=
  registry.table.entries.filter fun entry => !registry.ledger.isAlive entry.token

/-- **A registry that is kept in order**: its table agrees with itself, and its entries have the
handles of their actions. -/
structure Kept (registry : Registry ε) : Prop where
  /-- The table agrees with itself. -/
  sound : registry.table.Sound
  /-- An entry has the handle of its action. -/
  handles : ∀ entry ∈ registry.table.entries,
    registry.ledger.handleOf? entry.action = some entry.handle

/-- Entries of the same action are the same entry. -/
theorem Kept.actions_nodup (h : registry.Kept) :
    (registry.table.entries.map Entry.action).Nodup := by
  refine h.sound.entries_nodup.map_on fun entry hentry other hother haction => ?_
  have hhandle := h.handles entry hentry
  rw [haction, h.handles other hother] at hhandle
  exact List.inj_on_of_nodup_map h.sound.addresses_nodup hentry hother
    (congrArg Handle.address (Option.some.inj hhandle)).symm

/-- **What a sweep does to a registry.** -/
structure Swept (registry after : Registry ε) : Prop where
  /-- The orphans leave the table, and every other entry is found under its old key. -/
  found : ∀ key entry, after.table.find? key = some entry
    ↔ registry.table.find? key = some entry ∧ registry.ledger.isAlive entry.token = true
  /-- The release functions of orphans that are due are entered, each once and in the order of the
  slots, when the table is what it is in the end. -/
  entered : ∃ entered, after.ledger.entered = registry.ledger.entered ++ entered
    ∧ List.Forall₂ (registry.ledger.Enters after.table.live)
      (registry.ledger.due registry.orphaned) entered
  /-- No orphan is in the table then. -/
  gone : ∀ entry ∈ registry.orphaned, entry.address ∉ after.table.live
  /-- In the end the release function of every orphan has been entered once. -/
  once : ∀ entry ∈ registry.orphaned, after.ledger.timesEntered entry.action = 1
  /-- Those that return and those that panic are counted. -/
  counters : after.counters = { registry.counters with
    swept := registry.counters.swept + registry.ledger.returning registry.orphaned
    failed := registry.counters.failed + registry.ledger.panicking registry.orphaned }
  /-- The actions of all other entries are left alone. -/
  spared : ∀ entry ∈ after.table.entries,
    after.ledger.actions[entry.action]? = registry.ledger.actions[entry.action]?
      ∧ after.ledger.timesEntered entry.action = registry.ledger.timesEntered entry.action
  /-- So are the tokens. -/
  tokens : after.ledger.tokens = registry.ledger.tokens

theorem mem_orphaned : entry ∈ registry.orphaned
    ↔ entry ∈ registry.table.entries ∧ registry.ledger.isAlive entry.token = false := by
  rw [orphaned, List.mem_filter, Bool.not_eq_true']

theorem fst_gather (registry : Registry ε) : registry.gather.1 = registry.orphaned :=
  (registry.table.takeAll_keysWhere fun entry => !registry.ledger.isAlive entry.token).1

/-- What is left in the table is what is not an orphan, under the keys that it had. -/
theorem find?_gather {key : SlotKey} : registry.gather.2.table.find? key = some entry
    ↔ registry.table.find? key = some entry ∧ registry.ledger.isAlive entry.token = true := by
  rw [← Bool.not_eq_false']
  exact SlotTable.find?_takeAll_keysWhere

theorem mem_entries_gather (h : entry ∈ registry.gather.2.table.entries) :
    entry ∈ registry.table.entries ∧ registry.ledger.isAlive entry.token = true := by
  obtain ⟨key, hkey⟩ := SlotTable.mem_entries.mp h
  obtain ⟨hbefore, halive⟩ := find?_gather.mp hkey
  exact ⟨SlotTable.mem_entries.mpr ⟨key, hbefore⟩, halive⟩

/-- An entry that stays shares nothing with an orphan by which entries are told apart. -/
theorem ne_of_mem_orphaned {α : Type} {view : Entry → α}
    (hview : (registry.table.entries.map view).Nodup) {orphan : Entry}
    (horphan : orphan ∈ registry.orphaned) (hentry : entry ∈ registry.gather.2.table.entries) :
    view orphan ≠ view entry := by
  intro heq
  obtain ⟨hin, hdead⟩ := mem_orphaned.mp horphan
  obtain ⟨hin', halive⟩ := mem_entries_gather hentry
  obtain rfl : orphan = entry := List.inj_on_of_nodup_map hview hin hin' heq
  rw [hdead] at halive
  cases halive

/-- When the orphans have been gathered and released, that was a sweep. -/
theorem Kept.swept (h : registry.Kept) (htallied : registry.ledger.Tallied)
    (hreleased : registry.gather.2.Released registry.orphaned after) : registry.Swept after where
  found key entry := by
    rw [hreleased.table]
    exact find?_gather
  entered := by
    rw [hreleased.table]
    exact hreleased.entered
  gone orphan horphan := by
    rw [hreleased.table]
    intro hlive
    have hsound : registry.gather.2.table.Sound := h.sound.takeAll registry.orphans
    obtain ⟨entry, hentry, haddress⟩ := hsound.mem_live.mp hlive
    exact ne_of_mem_orphaned h.sound.addresses_nodup horphan hentry haddress.symm
  once orphan horphan := by
    rw [hreleased.tallied htallied, hreleased.done orphan horphan]
    rfl
  counters := hreleased.counters
  spared entry hentry := by
    rw [hreleased.table] at hentry
    have hsame : after.ledger.actions[entry.action]? = registry.ledger.actions[entry.action]? := by
      refine hreleased.others entry.action fun hmem => ?_
      obtain ⟨orphan, horphan, haction⟩ := List.mem_map.mp hmem
      exact ne_of_mem_orphaned h.actions_nodup horphan hentry haction
    refine ⟨hsame, ?_⟩
    rw [hreleased.tallied htallied, htallied, Ledger.isCompleted_congr hsame]
  tokens := hreleased.tokens

/-- **A sweep leaves no orphans.** -/
theorem Swept.orphans_eq_nil (h : registry.Swept after) : after.orphans = [] := by
  refine List.eq_nil_iff_forall_not_mem.mpr fun key hkey => ?_
  obtain ⟨entry, hentry, hdead⟩ := SlotTable.mem_keysWhere.mp hkey
  have halive : registry.ledger.isAlive entry.token = true := ((h.found key entry).mp hentry).2
  have hsame : after.ledger.isAlive entry.token = registry.ledger.isAlive entry.token := by
    rw [Ledger.isAlive, h.tokens, Ledger.isAlive]
  rw [hsame, halive] at hdead
  cases hdead

/-- **A sweep** of a registry that is kept in order, and in which release functions can be
destroyed. -/
theorem swept_sweep (h : registry.Kept) (hquiet : registry.ledger.Quiet)
    (htallied : registry.ledger.Tallied) : ∃ after,
      registry.sweep = (registry.orphaned.length, none, after) ∧ registry.Swept after := by
  have hdistinct : (registry.orphaned.map Entry.action).Nodup :=
    h.actions_nodup.sublist (List.filter_sublist.map _)
  obtain ⟨hburst, hreleased⟩ :
      (registry.gather.2.releaseAll registry.orphaned).1 = none
        ∧ registry.gather.2.Released registry.orphaned
          (registry.gather.2.releaseAll registry.orphaned).2 :=
    released_releaseAll hquiet (fun entry hentry => h.handles entry (mem_orphaned.mp hentry).1)
      hdistinct
  refine ⟨_, ?_, h.swept htallied hreleased⟩
  show (registry.gather.1.length, (registry.gather.2.releaseAll registry.gather.1).1,
    (registry.gather.2.releaseAll registry.gather.1).2) = _
  rw [registry.fst_gather, hburst]

end Registry

end Custody

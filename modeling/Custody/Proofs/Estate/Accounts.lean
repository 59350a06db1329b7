import Custody.Proofs.Estate.Released

/-!
# Accounts of a registry

A registry counts how its owners end. What becomes of an owner is its `Fate`: its handle has not
been released yet, or an explicit disposal, a notice or a sweep released it, or its release function
panicked. The counters say how many owners have come to each fate (`Counters.ofFates`), with one
exception. A panic in the course of an explicit disposal goes straight to the caller, and no counter
is touched on its way (`Fate.unrecorded`).

So between operations the owners that were registered are those that are live, those that were
counted, and those that the counters have lost (`owners_are_accounted_for`). Once somebody has
disposed explicitly of a handle whose release function panics, the counters do not add up any more
(`counters_lose_an_owner`).

An owner comes to its end in the move in which its release function runs, and it is in that move
that a counter goes up (`counted_of_released`). Which counter it is was decided earlier: an entry
that a sweep has taken up is marked as swept until it is released, an owner that was dropped is on
the list of those, and any other is disposing of its handle itself. So the fate of an owner that has
not ended yet carries its future ending with it (`Estate.ending`), and the moves in between only
have to leave that alone (`ending_congr`).
-/

namespace Custody

variable {ε : Type}

/-! ## Release functions that panic -/

namespace Ledger

variable (ledger : Ledger ε) (live : List Address) (id other : ActionId)

@[simp] theorem panics_hold : (ledger.hold id).panics other = ledger.panics other := by
  rw [panics, releaseOf?_hold, panics]

@[simp] theorem panics_letGo : (ledger.letGo id).2.panics other = ledger.panics other := by
  rw [panics, releaseOf?_letGo, panics]

@[simp] theorem panics_run : (ledger.run live id).2.panics other = ledger.panics other := by
  rw [panics, releaseOf?_run, panics]

/-- A new action panics as its release function does. -/
theorem panics_prepare (handle : Handle) (release : Release ε) :
    (ledger.prepare handle release).panics id
      = if id = ledger.actions.length then release.panics.isSome else ledger.panics id := by
  rw [panics, releaseOf?_prepare]
  split
  · rfl
  · rfl

variable {ledger id}

/-- The first attempt at a release function that panics ends in its panic. -/
theorem run_of_panics (hopen : ledger.isCompleted id = false) (hpanics : ledger.panics id = true) :
    ∃ message, (ledger.run live id).1 = .panicked message := by
  obtain ⟨release, hrelease, hsome⟩ := (Option.any_eq_true ..).mp hpanics
  obtain ⟨message, hmessage⟩ := Option.isSome_iff_exists.mp hsome
  obtain ⟨action, haction, rfl⟩ := Option.map_eq_some_iff.mp hrelease
  have hhandle : ledger.handleOf? id = some action.handle := by rw [handleOf?, haction]; rfl
  refine ⟨message, ?_⟩
  rw [(ledger.run_of_open live id hopen hrelease hhandle).1, hmessage]
  rfl

/-- The first attempt at any other one succeeds. -/
theorem run_of_not_panics (hlt : id < ledger.actions.length) (hopen : ledger.isCompleted id = false)
    (hpanics : ledger.panics id = false) : (ledger.run live id).1 = .released := by
  have haction : ledger.actions[id]? = some ledger.actions[id] := List.getElem?_eq_getElem hlt
  have hrelease : ledger.releaseOf? id = some ledger.actions[id].release := by
    rw [releaseOf?, haction]
    rfl
  have hhandle : ledger.handleOf? id = some ledger.actions[id].handle := by
    rw [handleOf?, haction]
    rfl
  have hnone : ledger.actions[id].release.panics = none := by
    simpa [panics, hrelease] using hpanics
  rw [(ledger.run_of_open live id hopen hrelease hhandle).1, hnone]
  rfl

end Ledger

/-! ## Fates -/

/-- **What becomes of an owner.** -/
inductive Fate
  /-- Its handle has not been released. -/
  | pending
  /-- It disposed of its handle. -/
  | disposed
  /-- Its handle was released after a notice. -/
  | reclaimed
  /-- Its handle was released by a sweep. -/
  | swept
  /-- It was dropped, and its release function panicked. -/
  | failed
  /-- It disposed of its handle, and its release function panicked. -/
  | unrecorded
  deriving DecidableEq

namespace Counters

/-- **What a registry has counted** when its owners have come to these fates. -/
def ofFates (fates : List Fate) : Counters where
  registered := fates.length
  explicit := fates.count .disposed
  reclaimed := fates.count .reclaimed
  swept := fates.count .swept
  failed := fates.count .failed

/-- The counters when an owner has come to its fate. -/
def record (counters : Counters) : Fate → Counters
  | .pending | .unrecorded => counters
  | .disposed => { counters with explicit := counters.explicit + 1 }
  | .reclaimed => { counters with reclaimed := counters.reclaimed + 1 }
  | .swept => { counters with swept := counters.swept + 1 }
  | .failed => { counters with failed := counters.failed + 1 }

/-- The counters do not depend on the order of the fates. -/
theorem ofFates_perm {fates fates' : List Fate} (h : fates.Perm fates') :
    ofFates fates = ofFates fates' := by
  simp only [ofFates, h.length_eq, h.count_eq]

/-- A new owner is registered, and nothing else. -/
theorem ofFates_pending_cons (fates : List Fate) : ofFates (.pending :: fates)
    = { ofFates fates with registered := (ofFates fates).registered + 1 } := by
  simp [ofFates]

/-- One more fate is counted once more. -/
theorem ofFates_cons (fate : Fate) (rest : List Fate) :
    ofFates (fate :: rest) = (ofFates (.pending :: rest)).record fate := by
  cases fate <;> simp [ofFates, record]

end Counters

/-- Every owner has come to one fate. -/
theorem length_fates (fates : List Fate) : fates.length = fates.count .pending
    + fates.count .disposed + fates.count .reclaimed + fates.count .swept + fates.count .failed
    + fates.count .unrecorded := by
  induction fates with
  | nil => rfl
  | cons fate fates ih =>
    rw [List.length_cons, ih]
    cases fate <;> simp <;> omega

namespace Estate

variable {s s' : Estate ε} {owner : Owner} {key : SlotKey}

/-- The fate that an owner comes to when its handle is released. -/
def ending (s : Estate ε) (owner : Owner) : Fate :=
  if owner ∈ s.dropped then
    if s.registry.ledger.panics owner.action then .failed
    else if owner.action ∈ s.swept then .swept
    else .reclaimed
  else if s.registry.ledger.panics owner.action then .unrecorded
  else .disposed

/-- The fate of an owner. -/
def fate (s : Estate ε) (owner : Owner) : Fate :=
  if s.registry.ledger.isCompleted owner.action then s.ending owner else .pending

/-- The fates of all owners that there ever were. -/
def fates (s : Estate ε) : List Fate := s.accepted.map s.fate

theorem ending_ne_pending : s.ending owner ≠ .pending := by
  unfold ending
  split_ifs <;> exact nofun

/-- A fate is pending as long as the release function was not entered. -/
theorem fate_eq_pending_iff :
    s.fate owner = .pending ↔ s.registry.ledger.isCompleted owner.action = false := by
  unfold fate
  cases s.registry.ledger.isCompleted owner.action with
  | true => simp [ending_ne_pending]
  | false => simp

/-- The ending of an owner depends on three things only. -/
theorem ending_congr
    (hpanics : s'.registry.ledger.panics owner.action = s.registry.ledger.panics owner.action)
    (hdropped : owner ∈ s'.dropped ↔ owner ∈ s.dropped)
    (hswept : owner.action ∈ s'.swept ↔ owner.action ∈ s.swept) :
    s'.ending owner = s.ending owner := by
  simp only [ending, hpanics, hdropped, hswept]

/-- The fate of an owner depends on what became of its action, and on whether it was dropped and
swept. -/
theorem fate_congr
    (hdone : s'.registry.ledger.isCompleted owner.action
      = s.registry.ledger.isCompleted owner.action)
    (hpanics : s'.registry.ledger.panics owner.action = s.registry.ledger.panics owner.action)
    (hdropped : owner ∈ s'.dropped ↔ owner ∈ s.dropped)
    (hswept : owner.action ∈ s'.swept ↔ owner.action ∈ s.swept) :
    s'.fate owner = s.fate owner := by
  rw [fate, fate, hdone, ending_congr hpanics hdropped hswept]

/-- If no fate changes, the list of fates does not. -/
theorem fates_congr (haccepted : s'.accepted = s.accepted)
    (h : ∀ owner ∈ s.accepted, s'.fate owner = s.fate owner) : s'.fates = s.fates := by
  rw [fates, haccepted]
  exact List.map_congr_left h

/-- When one owner comes to its fate, its fate is what the counters have to record. -/
theorem ofFates_of_ended (hnodup : s.accepted.Nodup) (ho : owner ∈ s.accepted)
    (haccepted : s'.accepted = s.accepted) (hpending : s.fate owner = .pending)
    (hrest : ∀ other ∈ s.accepted, other ≠ owner → s'.fate other = s.fate other) :
    Counters.ofFates s'.fates = (Counters.ofFates s.fates).record (s'.fate owner) := by
  have hperm : s.accepted.Perm (owner :: s.accepted.erase owner) := List.perm_cons_erase ho
  have hrest' : (s.accepted.erase owner).map s'.fate = (s.accepted.erase owner).map s.fate :=
    List.map_congr_left fun other hother =>
      hrest other (List.mem_of_mem_erase hother) (hnodup.mem_erase_iff.mp hother).1
  rw [fates, fates, haccepted, Counters.ofFates_perm (hperm.map s'.fate),
    Counters.ofFates_perm (hperm.map s.fate), List.map_cons, List.map_cons, hpending, hrest',
    Counters.ofFates_cons]

/-! ## Accounts in order -/

/-- **The accounts are in order**: the counters say what became of the owners, and everything that
is about to be released will be counted as it should. -/
structure Accounts (s : Estate ε) : Prop where
  /-- The counters say how many owners have come to which fate. -/
  counted : s.registry.counters = .ofFates s.fates
  /-- What the daemon has in hand is that of owners that were dropped, taken up as it says. -/
  in_hand : ∀ pair ∈ s.hand, ∃ owner ∈ s.dropped, owner.entry = pair.2
    ∧ (pair.1 = .sweep ↔ owner.action ∈ s.swept)
  /-- Who disposes of a handle was not dropped. -/
  not_dropped : ∀ pair ∈ s.disposing, pair.1 ∉ s.dropped

/-- In the beginning nothing is counted. -/
theorem accounts_start : (start : Estate ε).Accounts :=
  ⟨rfl, by simp [start], by simp [start]⟩

namespace Coherent

theorem accepted_nodup (h : s.Coherent) : s.accepted.Nodup := h.books.actions_nodup.of_map _

theorem lt_of_accepted (h : s.Coherent) (ho : owner ∈ s.accepted) :
    owner.action < s.registry.ledger.actions.length := (h.books.numbered owner ho).1

/-- Who has an entry and is not held was dropped, and no sweep has taken up its entry. -/
theorem dropped_of_present (h : s.Coherent) (ho : owner ∈ s.accepted) (hout : owner ∉ s.held)
    (hfound : s.registry.table.find? owner.key = some owner.entry) :
    owner ∈ s.dropped ∧ owner.action ∉ s.swept := by
  obtain hheld | hwaits := List.mem_append.mp ((h.present_iff ho).mp hfound)
  · exact absurd hheld hout
  · obtain ⟨hdropped, hnotice⟩ := List.mem_filter.mp hwaits
    exact ⟨hdropped, (of_decide_eq_true hnotice).2⟩

end Coherent

namespace Accounts

/-- Nothing is to be counted while every owner keeps its fate. -/
theorem counted_congr (ha : s.Accounts) (hcounters : s'.registry.counters = s.registry.counters)
    (haccepted : s'.accepted = s.accepted)
    (hfate : ∀ owner ∈ s.accepted, s'.fate owner = s.fate owner) :
    s'.registry.counters = .ofFates s'.fates := by
  rw [fates_congr haccepted hfate, hcounters, ha.counted]

/-- **An owner comes to its end**: its handle is released, and what that leaves to be counted is
counted. -/
theorem counted_of_released (ha : s.Accounts) (h : s.Coherent) (ho : owner ∈ s.accepted)
    (hopen : s.registry.ledger.isCompleted owner.action = false) {live : List Address}
    (hledger : s'.registry.ledger
      = ((s.registry.ledger.run live owner.action).2.letGo owner.action).2)
    (haccepted : s'.accepted = s.accepted) (hdropped : s'.dropped = s.dropped)
    (hswept : s'.swept = s.swept)
    (hcounters : s'.registry.counters = s.registry.counters.record (s.ending owner)) :
    s'.registry.counters = .ofFates s'.fates := by
  have hdone (other : Owner) : s'.registry.ledger.isCompleted other.action
      = if other.action = owner.action then true
        else s.registry.ledger.isCompleted other.action := by
    rw [hledger, Ledger.isCompleted_letGo, Ledger.isCompleted_run,
      decide_eq_true (h.lt_of_accepted ho)]
  have hpanics (other : Owner) : s'.registry.ledger.panics other.action
      = s.registry.ledger.panics other.action := by
    rw [hledger, Ledger.panics_letGo, Ledger.panics_run]
  have hfate : s'.fate owner = s.ending owner := by
    rw [fate, hdone, if_pos rfl, if_pos rfl]
    exact ending_congr (hpanics owner) (by rw [hdropped]) (by rw [hswept])
  have hrest : ∀ other ∈ s.accepted, other ≠ owner → s'.fate other = s.fate other := by
    intro other hother hne
    refine fate_congr ?_ (hpanics other) (by rw [hdropped]) (by rw [hswept])
    rw [hdone, if_neg fun heq => hne (h.books.eq_of_action_eq hother ho heq)]
  rw [hcounters, ← hfate, ha.counted, ofFates_of_ended h.accepted_nodup ho haccepted
    (fate_eq_pending_iff.mpr hopen) hrest]

/-! ## The program -/

/-- A new action is that of no owner so far. -/
theorem fate_of_prepare (h : s.Coherent) (handle : Handle) (release : Release ε)
    (hdone : ∀ id, s'.registry.ledger.isCompleted id
      = (s.registry.ledger.prepare handle release).isCompleted id)
    (hpanics : ∀ id, s'.registry.ledger.panics id
      = (s.registry.ledger.prepare handle release).panics id)
    (hdropped : s'.dropped = s.dropped) (hswept : s'.swept = s.swept) :
    ∀ owner ∈ s.accepted, s'.fate owner = s.fate owner := by
  intro owner ho
  have hne : owner.action ≠ s.registry.ledger.actions.length :=
    h.books.action_ne_length owner ho
  refine fate_congr ?_ ?_ (by rw [hdropped]) (by rw [hswept])
  · rw [hdone, Ledger.isCompleted_prepare]
  · rw [hpanics, Ledger.panics_prepare, if_neg hne]

/-- Nobody's fate changes when a handle comes. -/
theorem fate_own (h : s.Coherent) (handle : Handle) (domain : String) (release : Release ε) :
    ∀ owner ∈ s.accepted, (s.own handle domain release).fate owner = s.fate owner := by
  by_cases hmem : handle.address ∈ s.registry.table.live
  · rw [own_of_mem domain release hmem]
    exact fate_of_prepare h handle release (fun _ => Ledger.isCompleted_letGo _ _ _)
      (fun _ => Ledger.panics_letGo _ _ _) rfl rfl
  · rw [own_of_not_mem domain release hmem]
    exact fate_of_prepare h handle release (fun _ => Ledger.isCompleted_hold _ _ _)
      (fun _ => Ledger.panics_hold _ _ _) rfl rfl

/-- An owner comes, and its fate is pending. -/
theorem own (ha : s.Accounts) (h : s.Coherent) (handle : Handle) (domain : String)
    (release : Release ε) : (s.own handle domain release).Accounts := by
  have hfate := fate_own h handle domain release
  by_cases hmem : handle.address ∈ s.registry.table.live
  · rw [own_of_mem domain release hmem] at hfate ⊢
    exact ⟨ha.counted_congr rfl rfl hfate, ha.in_hand, ha.not_dropped⟩
  · have hnew : (s.own handle domain release).fate (s.registry.nextOwner handle domain)
        = .pending := by
      rw [fate_eq_pending_iff, own_of_not_mem domain release hmem]
      exact (Ledger.isCompleted_hold _ _ _).trans ((Ledger.isCompleted_prepare ..).trans
        (s.registry.ledger.isCompleted_of_le (Nat.le_refl _)))
    have hcounted : (s.own handle domain release).fates = .pending :: s.fates := by
      rw [own_of_not_mem domain release hmem] at hfate hnew ⊢
      show _ :: List.map _ s.accepted = _
      rw [hnew, List.map_congr_left hfate]
      rfl
    refine ⟨?_, ?_, ?_⟩
    · rw [hcounted, Counters.ofFates_pending_cons, ← ha.counted,
        own_of_not_mem domain release hmem]
    · rw [own_of_not_mem domain release hmem]
      exact ha.in_hand
    · rw [own_of_not_mem domain release hmem]
      exact ha.not_dropped

/-- An owner withdraws its entry, and its fate is pending still. -/
theorem withdraw (ha : s.Accounts) (h : s.Coherent) (ho : owner ∈ s.held) :
    (s.withdraw owner).Accounts := by
  obtain ⟨rest, htake⟩ := h.take_of_held ho
  have hout : owner ∉ s.dropped := fun hdropped => (h.queue.not_held owner hdropped).2 ho
  unfold Estate.withdraw
  rw [Registry.withdraw_of_take _ htake]
  exact ⟨ha.counted_congr rfl rfl fun _ _ => rfl, ha.in_hand,
    List.forall_mem_cons.mpr ⟨hout, ha.not_dropped⟩⟩

/-- Whoever disposes of a handle is counted, unless the release function panics. -/
theorem settle (ha : s.Accounts) (h : s.Coherent) {taken : Option Entry}
    (ho : (owner, taken) ∈ s.disposing) : (s.settle owner taken).Accounts := by
  obtain ⟨hacc, htaken⟩ := h.own_entry _ ho
  obtain rfl : taken = some owner.entry := htaken
  have hopen : s.registry.ledger.isCompleted owner.action = false :=
    (h.books.located owner hacc).not_done_of_moving
      (List.mem_append_left _ (List.mem_map.mpr ⟨_, ho, rfl⟩))
  have hcounters : (s.settle owner (some owner.entry)).registry.counters
      = s.registry.counters.record (s.ending owner) := by
    rw [ending, if_neg (ha.not_dropped _ ho), Estate.settle, Registry.settle_snd]
    cases hpanics : s.registry.ledger.panics owner.action with
    | true =>
      obtain ⟨message, hrun⟩ := Ledger.run_of_panics s.registry.table.live hopen hpanics
      simp [hrun, Counters.record]
    | false =>
      simp [Ledger.run_of_not_panics _ (h.lt_of_accepted hacc) hopen hpanics, Counters.record]
  exact ⟨ha.counted_of_released h hacc hopen (s.registry.settle_some_ledger ..) rfl rfl rfl
    hcounters, ha.in_hand, fun pair hpair => ha.not_dropped pair (List.mem_of_mem_erase hpair)⟩

/-- An owner is dropped, and its fate is pending still. -/
theorem post (ha : s.Accounts) (h : s.Coherent) (ho : owner ∈ s.held) :
    (s.post owner).Accounts := by
  have hacc := h.holding.accepted owner ho
  have hlocated := h.books.located owner hacc
  have hfound := h.holding.present owner ho
  unfold Estate.post
  rw [Registry.post_of_daemon _ _ h.daemon]
  refine ⟨ha.counted_congr rfl rfl fun other hother => ?_, fun pair hpair => ?_,
    fun pair hpair => ?_⟩
  · by_cases heq : other = owner
    · subst heq
      have hopen := hlocated.not_done_of_found hfound
      rw [fate_eq_pending_iff.mpr hopen, fate_eq_pending_iff]
      exact hopen
    · exact fate_congr rfl rfl (List.mem_cons.trans (or_iff_right heq)) Iff.rfl
  · obtain ⟨other, hother, hentry⟩ := ha.in_hand pair hpair
    exact ⟨other, List.mem_cons_of_mem _ hother, hentry⟩
  · -- Who disposes of a handle has taken out its entry, while this owner still has its own.
    rw [List.mem_cons, not_or]
    refine ⟨fun heq => ?_, ha.not_dropped pair hpair⟩
    exact hlocated.not_moving_of_found hfound
      (List.mem_append_left _ (List.mem_map.mpr ⟨pair, hpair, congrArg Owner.entry heq⟩))

/-- That an owner goes for good is counted nowhere. -/
theorem letGo (ha : s.Accounts) : (s.letGo owner).Accounts := by
  unfold Estate.letGo
  rw [Registry.letGo_snd]
  refine ⟨ha.counted_congr rfl rfl fun other _ => ?_, ha.in_hand, ha.not_dropped⟩
  exact fate_congr (Ledger.isCompleted_letGo _ _ _) (Ledger.panics_letGo _ _ _) Iff.rfl Iff.rfl

/-! ## The daemon -/

/-- The daemon takes the entry of an owner into its hand that was dropped. -/
theorem take (ha : s.Accounts) (h : s.Coherent) (ho : owner ∈ s.accepted) (hout : owner ∉ s.held)
    (hfound : s.registry.table.find? owner.key = some owner.entry) (manner : Manner)
    {registry : Registry ε} (hcounters : registry.counters = s.registry.counters)
    (hledger : registry.ledger = s.registry.ledger) :
    Accounts { s with
      registry := registry
      hand := s.hand ++ [(manner, owner.entry)]
      swept := if manner = .sweep then owner.action :: s.swept else s.swept } := by
  obtain ⟨hdropped, hswept⟩ := h.dropped_of_present ho hout hfound
  have hlocated := h.books.located owner ho
  have hopen := hlocated.not_done_of_found hfound
  refine ⟨ha.counted_congr hcounters rfl fun other hother => ?_, fun pair hpair => ?_,
    ha.not_dropped⟩
  · -- The fate of the owner stays open, and those of the others do not see what is noted of it.
    by_cases heq : other = owner
    · subst heq
      rw [fate_eq_pending_iff.mpr hopen, fate_eq_pending_iff]
      exact hledger ▸ hopen
    · have hne : other.action ≠ owner.action := fun hc =>
        heq (h.books.eq_of_action_eq hother ho hc)
      refine fate_congr (by rw [hledger]) (by rw [hledger]) Iff.rfl ?_
      cases manner with
      | notice => rfl
      | sweep => exact List.mem_cons.trans (or_iff_right hne)
  · cases List.mem_append.mp hpair with
    | inl hmem =>
      obtain ⟨other, hother, hentry, hmanner⟩ := ha.in_hand pair hmem
      have hne : other.action ≠ owner.action := by
        intro hc
        rw [h.books.eq_of_action_eq (h.queue.not_held other hother).1 ho hc] at hentry
        exact hlocated.not_moving_of_found hfound
          (List.mem_append_right _ (List.mem_map.mpr ⟨pair, hmem, hentry.symm⟩))
      refine ⟨other, hother, hentry, hmanner.trans ?_⟩
      cases manner with
      | notice => rfl
      | sweep => exact (List.mem_cons.trans (or_iff_right hne)).symm
    | inr hmem =>
      rw [List.mem_singleton.mp hmem]
      refine ⟨owner, hdropped, rfl, ?_⟩
      cases manner with
      | notice => exact iff_of_false nofun hswept
      | sweep => exact iff_of_true rfl List.mem_cons_self

/-- An entry that a sweep takes up is marked as swept, and not counted yet. -/
theorem takeUp_sweep (ha : s.Accounts) (h : s.Coherent)
    (hout : ∀ owner ∈ s.held, owner.key ≠ key) : (takeUp .sweep s key).Accounts := by
  cases hfound : s.registry.table.find? key with
  | none =>
    rw [takeUp_of_find?_eq_none _ hfound]
    exact ha
  | some entry =>
    obtain ⟨owner, ho, rest, rfl, rfl, htake⟩ := h.take_of_find? hfound
    rw [takeUp_of_take _ htake]
    exact ha.take h ho (fun hc => hout owner hc rfl) hfound .sweep rfl rfl

/-- The daemon takes up several entries of owners that are not held. -/
theorem takeUps (ha : s.Accounts) (h : s.Coherent) (keys : List SlotKey)
    (hlast : (keys.foldl (takeUp .sweep) s).Lasting)
    (hout : ∀ key ∈ keys, ∀ owner ∈ s.held, owner.key ≠ key) :
    (keys.foldl (takeUp .sweep) s).Accounts := by
  induction keys generalizing s with
  | nil => exact ha
  | cons key keys ih =>
    have hlast' : s.Lasting := (ages_takeUps (key :: keys) s).lasting hlast
    have hkey := hout key List.mem_cons_self
    refine ih (ha.takeUp_sweep h hkey) (h.takeUp_sweep hlast' hkey) hlast ?_
    rw [(SameProgram.takeUp .sweep s key).held]
    exact fun other hother => hout other (List.mem_cons_of_mem _ hother)

/-- Entries that a sweep takes up are not counted before they are released. -/
theorem sweep (ha : s.Accounts) (h : s.Coherent) (hlast : s.sweep.Lasting) : s.sweep.Accounts :=
  ha.takeUps h _ hlast fun _ hkey => h.key_ne_of_mem_orphans hkey

/-- An entry that comes by a notice is not counted before it is released. -/
theorem notice (ha : s.Accounts) (h : s.Coherent) : s.notice.Accounts := by
  cases hnotices : s.registry.notices with
  | nil =>
    unfold Estate.notice
    rw [hnotices]
    exact ha
  | cons key waiting =>
    cases hfound : s.registry.table.find? key with
    | none =>
      rw [notice_of_find?_eq_none hnotices hfound]
      exact ⟨ha.counted_congr rfl rfl fun _ _ => rfl, ha.in_hand, ha.not_dropped⟩
    | some entry =>
      obtain ⟨owner, ho, rest, rfl, rfl, htake⟩ := h.take_of_find? hfound
      have hqueue := h.queue
      rw [hnotices] at hqueue
      have hout := hqueue.key_ne h.books h.holding List.mem_cons_self
      rw [notice_of_take hnotices htake]
      exact ha.take h ho (fun hc => hout owner hc rfl) hfound .notice rfl rfl

/-- What the daemon releases is counted as it was taken up, or as a failure. -/
theorem release (ha : s.Accounts) (h : s.Coherent) : s.release.Accounts := by
  cases hhand : s.hand with
  | nil =>
    unfold Estate.release
    rw [hhand]
    exact ha
  | cons first rest =>
    obtain ⟨manner, entry⟩ := first
    -- What the daemon has in hand is the entry of a dropped owner, and still to be released.
    have hfirst : (manner, entry) ∈ s.hand := hhand ▸ List.mem_cons_self
    obtain ⟨owner, hdropped, hentry, hmanner⟩ := ha.in_hand _ hfirst
    obtain rfl : owner.entry = entry := hentry
    have hacc := (h.queue.not_held owner hdropped).1
    have hopen : s.registry.ledger.isCompleted owner.action = false :=
      (h.books.located owner hacc).not_done_of_moving
        (List.mem_append_right _ (List.mem_map.mpr ⟨_, hfirst, rfl⟩))
    have hcounters : s.registry.counters.note manner
        (s.registry.ledger.run s.registry.table.live owner.action).1
          = s.registry.counters.record (s.ending owner) := by
      rw [ending, if_pos hdropped]
      cases hpanics : s.registry.ledger.panics owner.action with
      | true =>
        obtain ⟨message, hrun⟩ := Ledger.run_of_panics s.registry.table.live hopen hpanics
        rw [hrun]
        rfl
      | false =>
        rw [Ledger.run_of_not_panics _ (h.lt_of_accepted hacc) hopen hpanics]
        cases manner with
        | notice => rw [if_neg Bool.noConfusion, if_neg fun hc => nomatch hmanner.mpr hc]; rfl
        | sweep => rw [if_neg Bool.noConfusion, if_pos (hmanner.mp rfl)]; rfl
    rw [release_of_hand_eq hhand]
    exact ⟨ha.counted_of_released h hacc hopen (s.registry.release_ledger ..) rfl rfl rfl hcounters,
      fun pair hpair => ha.in_hand pair (hhand ▸ List.mem_cons_of_mem _ hpair), ha.not_dropped⟩

/-! ## Runs -/

/-- **Every move keeps the accounts in order.** -/
theorem step (ha : s.Accounts) (h : s.Coherent) (move : Move ε) (hlast : (s.step move).Lasting) :
    (s.step move).Accounts := by
  revert hlast
  refine step_induction (motive := fun s' => s'.Lasting → s'.Accounts)
    move ?own ?withdraw ?settle ?post ?letGo ?notice ?sweep ?release ?nothing
  case own => exact fun handle domain effect panics _ _ => ha.own h handle domain _
  case withdraw => exact fun owner ho _ => ha.withdraw h ho
  case settle => exact fun owner taken ho _ => ha.settle h ho
  case post => exact fun owner ho _ => ha.post h ho
  case letGo => exact fun owner _ _ => ha.letGo
  case notice => exact fun _ => ha.notice h
  case sweep => exact fun hlast => ha.sweep h hlast
  case release => exact fun _ => ha.release h
  case nothing => exact fun _ => ha

/-- **The counters are those of the fates**, after any moves. -/
theorem after (ha : s.Accounts) (h : s.Coherent) (moves : List (Move ε))
    (hlast : (s.after moves).Lasting) : (s.after moves).Accounts := by
  induction moves generalizing s with
  | nil => exact ha
  | cons move moves ih =>
    have hstep : (s.step move).Lasting := (ages_after (s.step move) moves).lasting hlast
    exact ih (ha.step h move hstep) (h.step move hstep) hlast

end Accounts

/-- **Every run leaves the accounts in order.** -/
theorem accounts_run (moves : List (Move ε)) (hlast : (run moves).Lasting) : (run moves).Accounts :=
  accounts_start.after coherent_start moves hlast

/-! ## Owners that are not done -/

namespace Coherent

/-- An owner whose handle is not released has its entry in the table, or on its way. -/
theorem open_iff (h : s.Coherent) (ho : owner ∈ s.accepted) :
    s.registry.ledger.isCompleted owner.action = false
      ↔ owner.entry ∈ s.registry.table.entries ++ s.moving := by
  have hlocated := h.books.located owner ho
  rw [List.mem_append, h.books.entries_iff]
  constructor
  · intro hopen
    cases hlocated with
    | present found => exact .inl ⟨owner, ho, rfl, found⟩
    | moving gone moves => exact .inr moves
    | released gone still done => exact absurd (hopen.symm.trans done) Bool.noConfusion
  · rintro (⟨other, hother, hentry, hfound⟩ | hmoving)
    · obtain rfl := h.books.eq_of_entry_eq hother ho hentry
      exact hlocated.not_done_of_found hfound
    · exact hlocated.not_done_of_moving hmoving

/-- What is in the table or on its way is the entry of an owner. -/
theorem exists_owner (h : s.Coherent) {entry : Entry}
    (hentry : entry ∈ s.registry.table.entries ++ s.moving) :
    ∃ owner ∈ s.accepted, owner.entry = entry := by
  cases List.mem_append.mp hentry with
  | inl hmem =>
    obtain ⟨owner, ho, heq, -⟩ := h.books.entries_iff.mp hmem
    exact ⟨owner, ho, heq⟩
  | inr hmoving => exact h.books.owned_moving entry hmoving

/-- No entry is both in the table and on its way. -/
theorem entries_moving_nodup (h : s.Coherent) :
    (s.registry.table.entries ++ s.moving).Nodup := by
  rw [List.nodup_append]
  refine ⟨h.books.sound.entries_nodup, h.books.moving_nodup, ?_⟩
  rintro entry hentry _ hmoving rfl
  obtain ⟨owner, ho, rfl, hfound⟩ := h.books.entries_iff.mp hentry
  exact (h.books.located owner ho).not_moving_of_found hfound hmoving

/-- The handles that are not released are those of entries in the table or on their way. -/
theorem count_pending (h : s.Coherent) :
    s.fates.count .pending = s.registry.liveCount + s.disposing.length + s.hand.length := by
  have hnodup : ((s.accepted.filter fun owner => s.fate owner == .pending).map Owner.entry).Nodup :=
    (h.accepted_nodup.filter _).map_on fun owner ho other hp heq =>
      h.books.eq_of_entry_eq (List.mem_of_mem_filter ho) (List.mem_of_mem_filter hp) heq
  have hperm : ((s.accepted.filter fun owner => s.fate owner == .pending).map Owner.entry).Perm
      (s.registry.table.entries ++ s.moving) := by
    rw [List.perm_ext_iff_of_nodup hnodup h.entries_moving_nodup]
    intro entry
    rw [List.mem_map]
    constructor
    · rintro ⟨owner, ho, rfl⟩
      obtain ⟨hacc, hpending⟩ := List.mem_filter.mp ho
      exact (h.open_iff hacc).mp (fate_eq_pending_iff.mp (beq_iff_eq.mp hpending))
    · intro hentry
      obtain ⟨owner, ho, rfl⟩ := h.exists_owner hentry
      have hpending := fate_eq_pending_iff.mpr ((h.open_iff ho).mpr hentry)
      exact ⟨owner, List.mem_filter.mpr ⟨ho, beq_iff_eq.mpr hpending⟩, rfl⟩
  have hlength := hperm.length_eq
  rw [List.length_map, ← List.countP_eq_length_filter, List.length_append, moving,
    List.length_append, List.length_map, List.length_map, ← h.books.sound.size_eq] at hlength
  rw [fates, List.count, List.countP_map, Registry.liveCount, Nat.add_assoc]
  exact hlength

end Coherent

/-! ## What the counters add up to -/

/-- **Every owner is accounted for, or got lost in an explicit disposal.** In every state of a run:

* the counters say how many owners were registered, and how many of them have come to each fate;
* the owners whose handle is not released are those with an entry in the table, or with one that
  somebody has taken out and is about to release;
* so between operations the owners that were registered are those that are live and those that
  were counted, together with those that disposed of a handle whose release function panicked;
* and the counters add up exactly if there are none of these. -/
theorem owners_are_accounted_for (moves : List (Move ε)) (hlast : (run moves).Lasting) :
    let s := run moves
    let counters := s.registry.counters
    counters = .ofFates s.fates
    ∧ s.fates.count .pending = s.registry.liveCount + s.disposing.length + s.hand.length
    ∧ (s.disposing = [] → s.hand = [] →
      counters.registered = s.registry.liveCount + counters.explicit + counters.reclaimed
          + counters.swept + counters.failed + s.fates.count .unrecorded
      ∧ (counters.registered = s.registry.liveCount + counters.explicit + counters.reclaimed
          + counters.swept + counters.failed
        ↔ ∀ owner ∈ s.accepted, s.fate owner ≠ .unrecorded)) := by
  intro s counters
  have hcounted : counters = .ofFates s.fates := (accounts_run moves hlast).counted
  have hpending := (coherent_run moves hlast).count_pending
  refine ⟨hcounted, hpending, fun hdisposing hhand => ?_⟩
  rw [hdisposing, hhand] at hpending
  have hlength := length_fates s.fates
  -- With nothing under way the pending owners are the live ones, and only the unrecorded are in no
  -- counter.
  have hregistered : counters.registered = s.registry.liveCount + counters.explicit
      + counters.reclaimed + counters.swept + counters.failed + s.fates.count .unrecorded := by
    rw [hcounted]
    show s.fates.length = s.registry.liveCount + s.fates.count .disposed
      + s.fates.count .reclaimed + s.fates.count .swept + s.fates.count .failed + _
    rw [hlength, hpending]
    rfl
  have hnone : s.fates.count .unrecorded = 0
      ↔ ∀ owner ∈ s.accepted, s.fate owner ≠ .unrecorded := by
    rw [List.count_eq_zero, fates, List.mem_map]
    exact ⟨fun h owner ho heq => h ⟨owner, ho, heq⟩, fun h ⟨owner, ho, heq⟩ => h owner ho heq⟩
  refine ⟨hregistered, ?_⟩
  rw [← hnone, hregistered]
  omega

/-- A run in which an owner is dropped and reclaimed, and another one disposes of a handle whose
release function panics. -/
def exampleStuck : List (Move Unit) :=
  let file : Handle := ⟨0x11, by decide⟩
  let pipe : Handle := ⟨0x12, by decide⟩
  let first : Owner := ⟨⟨0, 0⟩, 0, 0, file, Owner.labelFor "File" file⟩
  let second : Owner := ⟨⟨1, 0⟩, 1, 1, pipe, Owner.labelFor "Pipe" pipe⟩
  [.own file "File" () none, .own pipe "Pipe" () (some "stuck"), .post first, .letGo first, .notice,
    .release, .withdraw second, .settle second, .letGo second]

/-- Nobody is live at the end of it, and of two owners one was counted. -/
theorem owners_are_accounted_for_exampleStuck :
    let s := run exampleStuck
    (s.Lasting ∧ s.disposing = [] ∧ s.hand = [])
    ∧ s.registry.counters.registered = s.registry.liveCount + s.registry.counters.explicit
      + s.registry.counters.reclaimed + s.registry.counters.swept + s.registry.counters.failed
      + s.fates.count .unrecorded
    ∧ s.registry.counters = ⟨2, 0, 1, 0, 0⟩ := by
  intro s
  have hlast : s.Lasting := by decide +kernel
  have hdisposing : s.disposing = [] := by decide +kernel
  have hhand : s.hand = [] := by decide +kernel
  obtain ⟨-, -, hidle⟩ := owners_are_accounted_for exampleStuck hlast
  exact ⟨⟨hlast, hdisposing, hhand⟩, (hidle hdisposing hhand).1, by decide +kernel⟩

/-- The counters need not add up when no operation is in progress: after the run of the example one
owner is in none of them, because its release function has panicked while it was being disposed
of. -/
theorem counters_lose_an_owner : ¬ ∀ moves : List (Move Unit), (run moves).Lasting →
    (run moves).disposing = [] → (run moves).hand = [] →
    (run moves).registry.counters.registered
      = (run moves).registry.liveCount + (run moves).registry.counters.explicit
        + (run moves).registry.counters.reclaimed + (run moves).registry.counters.swept
        + (run moves).registry.counters.failed := by
  intro h
  have hsum := h exampleStuck (by decide +kernel) (by decide +kernel) (by decide +kernel)
  exact absurd hsum (by decide +kernel)

end Estate

end Custody

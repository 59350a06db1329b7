import Custody.Proofs.Estate.Roster

/-!
# Schedules of the daemon

A program of operations leaves open when the daemon gets its turns: when it takes up which notice,
and when it sweeps. A run that says so is a schedule of the program (`Schedules`).

Whether a sweep or a notice finds the entry of a dropped owner differs from one schedule to the
other, and so do the slots that the owners get. But once the daemon has been waited for it is idle,
and everything that a registry shows then can be read off the roster, which is the same for all
schedules: whose handles have been released (`AtRest.released_perm`), which addresses are live
(`AtRest.live_perm`), and what was counted, up to whether it was reclaimed or swept
(`AtRest.merged_counters`).

The proof does not compare two runs move by move. Each of them is compared with the roster that it
leads to, and the roster is the same for both (`Estate.roster_of_schedules`). What a registry shows
in the end is read off the roster under the hypothesis that the estate is at rest (`AtRest`), with
the owners that were accepted as the common index. That no handle is refused is where it is used
that all handles of the program are different.
-/

namespace Custody

variable {ε : Type}

/-! ## What sweeps and notices have in common -/

/-- A fate, no matter whether a sweep or a notice brings it about. -/
def Fate.merged : Fate → Fate
  | .swept => .reclaimed
  | fate => fate

/-- The counters, no matter what was reclaimed after a notice and what by a sweep. -/
def Counters.merged (counters : Counters) : Counters :=
  { counters with reclaimed := counters.reclaimed + counters.swept, swept := 0 }

/-- The merged counters count merged fates. -/
theorem Counters.ofFates_merged (fates : List Fate) :
    (ofFates fates).merged = ofFates (fates.map Fate.merged) := by
  induction fates with
  | nil => rfl
  | cons fate fates ih =>
    simp only [ofFates, merged, Counters.mk.injEq] at ih ⊢
    cases fate <;> simp [Fate.merged] <;> omega

namespace Ledger.Tallied

variable {ledger : Ledger ε} (h : ledger.Tallied)

include h

/-- No release function was entered twice. -/
theorem nodup : (ledger.entered.map Entered.action).Nodup := by
  refine List.nodup_iff_count_le_one.mpr fun id => ?_
  have hcount : (ledger.entered.map Entered.action).count id = ledger.timesEntered id := by
    rw [List.count, List.countP_map]
    rfl
  rw [hcount, h id]
  exact Bool.toNat_le _

/-- Those that were entered are those of the actions that are done. -/
theorem mem_iff {id : ActionId} :
    id ∈ ledger.entered.map Entered.action ↔ ledger.isCompleted id = true := by
  have hpos : id ∈ ledger.entered.map Entered.action ↔ 0 < ledger.timesEntered id := by
    rw [Ledger.timesEntered, List.countP_pos_iff, List.mem_map]
    simp
  rw [hpos, h id]
  cases ledger.isCompleted id <;> simp

end Ledger.Tallied

namespace Estate

variable {s s' : Estate ε} {owner : Owner}

/-! ## Operations -/

/-- An operation of a program. It names an owner by its number. -/
inductive Operation (ε : Type)
  /-- Takes a handle into ownership. -/
  | own (handle : Handle) (domain : String) (effect : ε) (panics : Option String)
  /-- Disposes of a handle. -/
  | dispose (number : ActionId)
  /-- Drops an owner. -/
  | drop (number : ActionId)
  /-- Waits for the daemon. -/
  | flush
  /-- Has the daemon sweep, and waits for it. It takes up the notices first. -/
  | sweepNow

namespace Operation

/-- The steps of an operation, between which the daemon may take its turns. -/
def steps : Operation ε → List (Step ε)
  | own handle domain effect panics => [.own handle domain effect panics]
  | dispose number => [.withdraw number, .settle number, .letGo number]
  | drop number => [.post number, .letGo number]
  | flush => [.await]
  | sweepNow => [.await, .sweep]

/-- The handle that an operation takes into ownership. -/
def handle? : Operation ε → Option Handle
  | own handle _ _ _ => some handle
  | _ => none

/-- Of the steps of an operation one brings its handle, if it has one. -/
theorem handle?_steps (operation : Operation ε) :
    operation.steps.filterMap Step.handle? = operation.handle?.toList := by
  cases operation with
  | own | dispose | drop | flush | sweepNow => rfl

end Operation

/-- A program that waits for the daemon in the end and has it sweep. -/
def concluded (operations : List (Operation ε)) : List (Operation ε) :=
  operations ++ [.flush, .sweepNow]

/-- The waits in the end bring no handles. -/
theorem handles_concluded (operations : List (Operation ε)) :
    (concluded operations).filterMap Operation.handle?
      = operations.filterMap Operation.handle? := by
  rw [concluded, List.filterMap_append]
  exact List.append_nil _

/-- **A schedule of a program**: the steps of its operations one after the other, and the turns of
the daemon anywhere among them. -/
def Schedules (operations : List (Operation ε)) (events : List (Event ε)) : Prop :=
  events.filterMap Event.step? = operations.flatMap Operation.steps

/-- A program takes the handles of its operations into ownership. -/
theorem handles_flatMap (operations : List (Operation ε)) :
    (operations.flatMap Operation.steps).filterMap Step.handle?
      = operations.filterMap Operation.handle? := by
  induction operations with
  | nil => rfl
  | cons operation operations ih =>
    rw [List.flatMap_cons, List.filterMap_append, ih, operation.handle?_steps, List.filterMap_cons]
    cases operation.handle? with
    | none => rfl
    | some handle => rfl

namespace Roster

/-- A run brings the handles of its steps, one after the other. -/
theorem handles_foldl (steps : List (Step ε)) (roster : Roster ε) :
    (steps.foldl step roster).handles = roster.handles ++ steps.filterMap Step.handle? := by
  induction steps generalizing roster with
  | nil => exact (List.append_nil _).symm
  | cons first rest ih =>
    rw [List.foldl_cons, ih, handles_step, List.append_assoc, List.filterMap_cons]
    cases first.handle? with
    | none => rfl
    | some handle => rfl

/-- After an operation nobody is about to dispose of a handle. -/
theorem disposing_operation {roster : Roster ε} (h : roster.disposing = [])
    (operation : Operation ε) : (operation.steps.foldl step roster).disposing = [] := by
  cases operation with
  | own | flush | sweepNow => exact h
  | dispose number =>
    by_cases hmem : number ∈ roster.held
    · simp [Operation.steps, step, hmem, h]
    · simp [Operation.steps, step, hmem, h]
  | drop number =>
    by_cases hmem : number ∈ roster.held
    · simp [Operation.steps, step, hmem, h]
    · simp [Operation.steps, step, hmem, h]

/-- **An operation finishes what it has begun**: nobody is left disposing of a handle. -/
theorem disposing_operations {roster : Roster ε} (h : roster.disposing = [])
    (operations : List (Operation ε)) :
    ((operations.flatMap Operation.steps).foldl step roster).disposing = [] := by
  induction operations generalizing roster with
  | nil => exact h
  | cons operation operations ih =>
    rw [List.flatMap_cons, List.foldl_append]
    exact ih (disposing_operation h operation)

end Roster

/-! ## What was released -/

/-- The handles that were released, the first one first. -/
def released (s : Estate ε) : List Handle := s.registry.ledger.entered.map Entered.handle

/-- **What was released belonged to an owner.** -/
def Attributed (s : Estate ε) : Prop := ∀ entered ∈ s.registry.ledger.entered,
  ∃ owner ∈ s.accepted, owner.action = entered.action ∧ owner.handle = entered.handle

namespace Attributed

/-- In the beginning nothing has been entered. -/
theorem start : (start : Estate ε).Attributed := by simp [Attributed, Estate.start, Registry.empty,
  Ledger.empty]

theorem congr (ha : s.Attributed)
    (hentered : s'.registry.ledger.entered = s.registry.ledger.entered)
    (haccepted : s.accepted ⊆ s'.accepted) : s'.Attributed := by
  intro entered hmem
  obtain ⟨owner, ho, heq⟩ := ha entered (hentered ▸ hmem)
  exact ⟨owner, haccepted ho, heq⟩

/-- What the program does not see, and what enters nothing, changes no attribution. -/
theorem of_sameProgram (ha : s.Attributed) (h : SameProgram s s')
    (hledger : s'.registry.ledger = s.registry.ledger) : s'.Attributed :=
  ha.congr (congrArg Ledger.entered hledger) (by rw [h.accepted]; exact List.Subset.refl _)

/-- A release function is entered with the handle of its owner. -/
theorem run (ha : s.Attributed) (h : s.Coherent) (ho : owner ∈ s.accepted) {live : List Address}
    (hledger : s'.registry.ledger
      = ((s.registry.ledger.run live owner.action).2.letGo owner.action).2)
    (haccepted : s'.accepted = s.accepted) : s'.Attributed := by
  intro entered hmem
  rw [haccepted]
  rw [hledger, Ledger.entered_letGo, Ledger.entered_run, List.mem_append] at hmem
  obtain hold | hnew := hmem
  · exact ha entered hold
  · have hhandle := h.books.handled owner ho
    rw [Ledger.handleOf?] at hhandle
    cases hget : s.registry.ledger.actions[owner.action]? with
    | none => simp [hget] at hnew
    | some action =>
      rw [hget] at hnew hhandle
      have hsame : action.handle = owner.handle := Option.some.inj hhandle
      cases hdone : action.completed with
      | true => simp [hdone] at hnew
      | false =>
        obtain rfl : entered = _ := List.mem_singleton.mp (by simpa [hdone] using hnew)
        exact ⟨owner, ho, rfl, hsame.symm⟩

theorem step (ha : s.Attributed) (h : s.Coherent) (move : Move ε) : (s.step move).Attributed := by
  refine step_induction (motive := Attributed)
    move ?own ?withdraw ?settle ?post ?letGo ?notice ?sweep ?release ?nothing
  case own =>
    intro handle domain effect panics _
    by_cases hmem : handle.address ∈ s.registry.table.live
    · rw [own_of_mem domain _ hmem]
      exact ha.congr (Ledger.entered_letGo ..) (List.Subset.refl _)
    · rw [own_of_not_mem domain _ hmem]
      exact ha.congr (Ledger.entered_hold ..) (List.subset_cons_self ..)
  case withdraw =>
    intro owner _
    exact ha.congr (congrArg _ (Registry.withdraw_ledger ..)) (List.Subset.refl _)
  case settle =>
    intro owner taken hmem
    obtain ⟨hacc, htaken⟩ := h.own_entry _ hmem
    obtain rfl : taken = some owner.entry := htaken
    exact ha.run h hacc (Registry.settle_some_ledger ..) rfl
  case post =>
    intro owner _
    rw [post, Registry.post_of_daemon _ _ h.daemon]
    exact ha.congr rfl (List.Subset.refl _)
  case letGo =>
    intro owner _
    rw [letGo, Registry.letGo_snd]
    exact ha.congr (Ledger.entered_letGo ..) (List.Subset.refl _)
  case notice => exact ha.of_sameProgram (SameProgram.notice s) (ledger_notice s)
  case sweep => exact ha.of_sameProgram (SameProgram.sweep s) (ledger_takeUps .sweep _ s)
  case release =>
    cases hhand : s.hand with
    | nil =>
      unfold release
      rw [hhand]
      exact ha
    | cons first rest =>
      obtain ⟨manner, entry⟩ := first
      -- What is on its way is the entry of an accepted owner, also in the hand of the daemon.
      have hmem : entry ∈ s.moving := by
        rw [moving, hhand]
        exact List.mem_append_right _ List.mem_cons_self
      obtain ⟨owner, ho, rfl⟩ := h.books.owned_moving entry hmem
      rw [release_of_hand_eq hhand]
      exact ha.run h ho rfl rfl
  case nothing => exact ha

/-- **Every entered release function is that of an accepted owner**, after any moves. -/
theorem after (ha : s.Attributed) (h : s.Coherent) (moves : List (Move ε))
    (hlast : (s.after moves).Lasting) : (s.after moves).Attributed := by
  induction moves generalizing s with
  | nil => exact ha
  | cons move moves ih =>
    have hstep : (s.step move).Lasting := (ages_after (s.step move) moves).lasting hlast
    exact ih (ha.step h move) (h.step move hstep) hlast

end Attributed

/-! ## A daemon that is idle -/

/-- The daemon has nothing to do. -/
structure Idle (s : Estate ε) : Prop where
  /-- It has nothing in hand. -/
  hand : s.hand = []
  /-- No notice waits for it. -/
  notices : s.registry.notices = []

/-- After a wait the daemon has nothing to do. -/
theorem idle_flush (s : Estate ε) : s.flush.Idle := ⟨s.hand_flush, s.notices_flush⟩

namespace Idle

variable (hidle : s.Idle)

include hidle

/-- Where the daemon has nothing to do, nobody awaits it. -/
theorem awaiting : s.awaiting = [] := by
  unfold Estate.awaiting
  rw [hidle.notices]
  simp

/-- Who was dropped has been released, so that there are no orphans. -/
theorem orphans (h : s.Coherent) : s.registry.orphans = [] := by
  refine List.eq_nil_iff_forall_not_mem.mpr fun key hkey => ?_
  obtain ⟨entry, hfound, -⟩ := SlotTable.mem_keysWhere.mp hkey
  obtain ⟨owner, ho, rfl, rfl⟩ := h.books.owned key entry hfound
  have hheld : owner ∈ s.held := by
    have hpresent := (h.present_iff ho).mp hfound
    rwa [hidle.awaiting, List.append_nil] at hpresent
  exact h.key_ne_of_mem_orphans hkey owner hheld rfl

/-- Nothing comes of the turns of an idle daemon. -/
theorem step_daemon (h : s.Coherent) {move : Move ε} (hmove : move.ofDaemon = true) :
    s.step move = s := by
  cases move with
  | notice =>
    show s.notice = s
    unfold notice
    rw [hidle.notices]
  | sweep =>
    show s.sweep = s
    rw [sweep, hidle.orphans h]
    rfl
  | release =>
    show s.release = s
    unfold release
    rw [hidle.hand]
  | own | withdraw | settle | post | letGo => exact absurd hmove Bool.noConfusion

/-- **An idle daemon changes nothing**, whatever moves it is given. -/
theorem after_daemon (h : s.Coherent) {moves : List (Move ε)}
    (hmoves : ∀ move ∈ moves, move.ofDaemon = true) : s.after moves = s := by
  induction moves with
  | nil => rfl
  | cons move moves ih =>
    obtain ⟨hmove, hrest⟩ := List.forall_mem_cons.mp hmoves
    show (s.step move).after moves = s
    rw [hidle.step_daemon h hmove]
    exact ih hrest

/-- Nothing happens any more while the program only waits. -/
theorem through (h : s.Coherent) (events : List (Event ε))
    (hwaits : ∀ step ∈ events.filterMap Event.step?, step = .await ∨ step = .sweep) :
    s.through events = s := by
  induction events with
  | nil => rfl
  | cons event events ih =>
    have hdaemon : ∀ move ∈ event.moves s, move.ofDaemon = true := by
      cases event with
      | program step =>
        obtain rfl | rfl := hwaits step (List.mem_filterMap.mpr ⟨_, List.mem_cons_self, rfl⟩)
        · exact ofDaemon_errands
        · exact ofDaemon_sweeping
      | notice | sweep | release => simp [Event.moves, Move.ofDaemon]
    have hrest : ∀ step ∈ events.filterMap Event.step?, step = .await ∨ step = .sweep := by
      intro step hstep
      obtain ⟨other, hother, heq⟩ := List.mem_filterMap.mp hstep
      exact hwaits step (List.mem_filterMap.mpr ⟨other, List.mem_cons_of_mem _ hother, heq⟩)
    show (s.after (event.moves s)).through events = s
    rw [hidle.after_daemon h hdaemon]
    exact ih hrest

end Idle

/-! ## Runs -/

/-- One run of events after another. -/
theorem through_append (s : Estate ε) (first second : List (Event ε)) :
    s.through (first ++ second) = (s.through first).through second := List.foldl_append

/-- No run of events makes a slot younger. -/
theorem ages_through (s : Estate ε) (events : List (Event ε)) :
    Registry.Ages s.registry (s.through events).registry := by
  obtain ⟨moves, hmoves⟩ := exists_after s events
  rw [hmoves]
  exact ages_after s moves

/-- Coherent estates stay so through events. -/
theorem Coherent.through (h : s.Coherent) (events : List (Event ε))
    (hlast : (s.through events).Lasting) : (s.through events).Coherent := by
  obtain ⟨moves, hmoves⟩ := exists_after s events
  rw [hmoves] at hlast ⊢
  exact h.after moves hlast

/-- A program that waits for the daemon in the end leaves it idle. -/
theorem idle_through {operations : List (Operation ε)} {events : List (Event ε)}
    (hevents : Schedules (concluded operations) events)
    (hlast : (start.through events).Lasting) : (start.through events).Idle := by
  rw [Schedules, concluded, List.flatMap_append] at hevents
  -- The first time that it waits, the daemon becomes idle, and it stays so.
  obtain ⟨first, final, rfl, -, hfinal⟩ := List.filterMap_eq_append_iff.mp hevents
  obtain ⟨turns, event, later, rfl, -, hevent, hlater⟩ := List.filterMap_eq_cons_iff.mp hfinal
  obtain rfl : event = .program .await := by
    cases event with
    | program step => exact congrArg Event.program (Option.some.inj hevent)
    | notice | sweep | release => exact absurd hevent nofun
  have hflush : start.through (first ++ (turns ++ [.program .await]))
      = ((start.through first).through turns).flush := by
    rw [through_append, through_append]
    rfl
  have hsplit : start.through (first ++ (turns ++ .program .await :: later))
      = ((start.through first).through turns).flush.through later := by
    rw [through_append, through_append]
    rfl
  have hidle := idle_flush ((start.through first).through turns)
  rw [hsplit] at hlast ⊢
  have hlast' := (ages_through _ later).lasting hlast
  have hcoherent : ((start.through first).through turns).flush.Coherent := by
    rw [← hflush] at hlast' ⊢
    exact coherent_start.through _ hlast'
  rw [hidle.through hcoherent later ?_]
  · exact hidle
  · rw [hlater]
    intro step hstep
    have hmem : step = .await ∨ step = .await ∨ step = .sweep := by
      simpa [Operation.steps] using hstep
    exact hmem.elim .inl id

/-! ## At rest -/

/-- **An estate at rest**: everything is in order, and nobody is about to do anything. -/
structure AtRest (s : Estate ε) : Prop where
  /-- Everything agrees. -/
  coherent : s.Coherent
  /-- The accounts are in order. -/
  accounts : s.Accounts
  /-- A release function was entered if its action is done. -/
  tallied : s.registry.ledger.Tallied
  /-- What was released belonged to an owner. -/
  attributed : s.Attributed
  /-- The daemon is idle. -/
  idle : s.Idle
  /-- Nobody is about to dispose of a handle. -/
  disposing : s.disposing = []

namespace Roster

/-- The handle that an owner was made for. -/
def handleOf? (roster : Roster ε) (number : ActionId) : Option Handle := roster.handles[number]?

/-- The owners that are not held any more. -/
def gone (roster : Roster ε) : List ActionId :=
  roster.accepted.filter fun number => number ∉ roster.held

/-- What becomes of an owner, whether a sweep or a notice finds its entry. -/
def fate (roster : Roster ε) (number : ActionId) : Fate :=
  let panics := roster.contracts[number]?.any fun contract => contract.2.panics.isSome
  if number ∈ roster.held then .pending
  else if number ∈ roster.dropped then if panics then .failed else .reclaimed
  else if panics then .unrecorded
  else .disposed

end Roster

namespace AtRest

variable (h : s.AtRest)

include h

/-- The handle of an owner has been released, unless the owner is held. -/
theorem isCompleted_iff (ho : owner ∈ s.accepted) :
    s.registry.ledger.isCompleted owner.action = true ↔ owner ∉ s.held := by
  have hlocated := h.coherent.books.located owner ho
  have hpresent := h.coherent.present_iff ho
  rw [h.idle.awaiting, List.append_nil] at hpresent
  constructor
  · intro hdone hheld
    exact absurd (hdone.symm.trans (hlocated.not_done_of_found (hpresent.mpr hheld))) nofun
  · intro hout
    refine hlocated.done_of_gone (fun hfound => hout (hpresent.mp hfound)) ?_
    rw [moving, h.disposing, h.idle.hand]
    exact List.not_mem_nil

/-- An owner is held just if its number is, on the roster. -/
theorem mem_held_iff (ho : owner ∈ s.accepted) :
    owner.action ∈ s.roster.held ↔ owner ∈ s.held := by
  refine ⟨fun hmem => ?_, List.mem_map_of_mem⟩
  obtain ⟨other, hother, heq⟩ := List.mem_map.mp hmem
  exact h.coherent.books.eq_of_action_eq (h.coherent.holding.accepted other hother) ho heq ▸ hother

/-- An owner was dropped just if its number was, on the roster. -/
theorem mem_dropped_iff (ho : owner ∈ s.accepted) :
    owner.action ∈ s.roster.dropped ↔ owner ∈ s.dropped := by
  refine ⟨fun hmem => ?_, List.mem_map_of_mem⟩
  obtain ⟨other, hother, heq⟩ := List.mem_map.mp hmem
  exact h.coherent.books.eq_of_action_eq (h.coherent.queue.not_held other hother).1 ho heq ▸ hother

/-- The roster knows the handle of every owner that was accepted. -/
theorem handleOf?_eq (ho : owner ∈ s.accepted) :
    s.roster.handleOf? owner.action = some owner.handle := by
  rw [Roster.handleOf?, Roster.handles, List.getElem?_map, roster, ← Ledger.handleOf?_eq]
  exact h.coherent.books.handled owner ho

/-! ### Handles -/

/-- From the numbers of owners the roster reads their handles. -/
theorem map_handle {owners : List Owner} (howners : owners ⊆ s.accepted) :
    (owners.map Owner.action).filterMap s.roster.handleOf? = owners.map Owner.handle := by
  rw [List.filterMap_map, ← List.filterMap_eq_map]
  exact List.filterMap_congr fun owner ho => h.handleOf?_eq (howners ho)

/-- The addresses that are live are those of the owners that are held. -/
theorem live_perm : s.registry.table.live.Perm
    ((s.roster.held.filterMap s.roster.handleOf?).map Handle.address) := by
  have hentries := h.coherent.entries_perm
  rw [h.idle.awaiting, List.append_nil] at hentries
  have hheld : s.roster.held.filterMap s.roster.handleOf? = s.held.map Owner.handle :=
    h.map_handle fun owner ho => h.coherent.holding.accepted owner ho
  rw [hheld, List.map_map]
  exact h.coherent.books.sound.live_perm.trans ((hentries.map Entry.address).trans
    (by rw [List.map_map]; exact .refl _))

/-- Nobody is gone twice. -/
theorem gone_nodup : s.roster.gone.Nodup :=
  List.Nodup.filter _ h.coherent.books.actions_nodup

/-- The owners whose handle has been released are those that are gone. -/
theorem entered_perm :
    (s.registry.ledger.entered.map Entered.action).Perm s.roster.gone := by
  rw [List.perm_ext_iff_of_nodup h.tallied.nodup h.gone_nodup]
  intro id
  rw [h.tallied.mem_iff, Roster.gone, List.mem_filter, decide_eq_true_eq]
  constructor
  · intro hdone
    obtain ⟨entered, hentered, rfl⟩ := List.mem_map.mp (h.tallied.mem_iff.mpr hdone)
    obtain ⟨owner, ho, haction, -⟩ := h.attributed entered hentered
    rw [← haction] at hdone ⊢
    exact ⟨List.mem_map_of_mem ho, (h.mem_held_iff ho).not.mpr ((h.isCompleted_iff ho).mp hdone)⟩
  · rintro ⟨hacc, hout⟩
    obtain ⟨owner, ho, rfl⟩ := List.mem_map.mp hacc
    exact (h.isCompleted_iff ho).mpr ((h.mem_held_iff ho).not.mp hout)

/-- **The handles that were released are those of the owners that are gone.** -/
theorem released_perm : s.released.Perm (s.roster.gone.filterMap s.roster.handleOf?) := by
  have hreleased : s.released
      = (s.registry.ledger.entered.map Entered.action).filterMap s.roster.handleOf? := by
    rw [released, List.filterMap_map, ← List.filterMap_eq_map]
    refine List.filterMap_congr fun entered hentered => ?_
    obtain ⟨owner, ho, haction, hhandle⟩ := h.attributed entered hentered
    show some entered.handle = s.roster.handleOf? entered.action
    rw [← haction, ← hhandle, h.handleOf?_eq ho]
  rw [hreleased]
  exact h.entered_perm.filterMap _

/-- No handle was released twice, if all were different. -/
theorem released_nodup (hdistinct : s.roster.handles.Nodup) : s.released.Nodup := by
  refine h.released_perm.nodup_iff.mpr (h.gone_nodup.filterMap fun id other handle hid hother => ?_)
  have hlt : id < s.roster.handles.length := (List.getElem?_eq_some_iff.mp hid).1
  exact (List.getElem?_inj hlt hdistinct).mp (Eq.trans hid hother.symm)

/-! ### Counters -/

/-- **The merged fate of an owner is on the roster**, where no schedule shows. -/
theorem merged_fate (ho : owner ∈ s.accepted) :
    (s.fate owner).merged = s.roster.fate owner.action := by
  have hpanics : s.registry.ledger.panics owner.action
      = s.roster.contracts[owner.action]?.any fun contract => contract.2.panics.isSome :=
    s.registry.ledger.panics_eq owner.action
  by_cases hheld : owner ∈ s.held
  · have hopen := mt (h.isCompleted_iff ho).mp (not_not_intro hheld)
    rw [fate, if_neg hopen, Roster.fate, if_pos ((h.mem_held_iff ho).mpr hheld)]
    rfl
  · rw [fate, if_pos ((h.isCompleted_iff ho).mpr hheld), ending, Roster.fate,
      if_neg ((h.mem_held_iff ho).not.mpr hheld)]
    simp only [← hpanics, h.mem_dropped_iff ho]
    split_ifs <;> rfl

/-- **The counters**, up to what was reclaimed and what was swept. -/
theorem merged_counters : s.registry.counters.merged
    = .ofFates (s.roster.accepted.map s.roster.fate) := by
  rw [h.accounts.counted, Counters.ofFates_merged, fates, List.map_map, roster, List.map_map]
  exact congrArg _ (List.map_congr_left fun owner ho => h.merged_fate ho)

end AtRest

/-! ## Two schedules of one program -/

/-- The roster of a program, however the daemon gets its turns. -/
theorem roster_of_schedules {operations : List (Operation ε)} {events : List (Event ε)}
    (hdistinct : (operations.filterMap Operation.handle?).Nodup)
    (hevents : Schedules operations events) (hlast : (start.through events).Lasting) :
    (start.through events).roster
      = (operations.flatMap Operation.steps).foldl Roster.step (start : Estate ε).roster := by
  rw [← hevents]
  refine roster_through coherent_start events hlast ?_
  rw [hevents, handles_flatMap]
  exact hdistinct

/-- A program that waits for the daemon in the end comes to rest. -/
theorem atRest_through {operations : List (Operation ε)} {events : List (Event ε)}
    (hdistinct : (operations.filterMap Operation.handle?).Nodup)
    (hevents : Schedules (concluded operations) events)
    (hlast : (start.through events).Lasting) : (start.through events).AtRest := by
  have hhandles : ((concluded operations).filterMap Operation.handle?).Nodup := by
    rw [handles_concluded]
    exact hdistinct
  have hroster := roster_of_schedules hhandles hevents hlast
  have hidle := idle_through hevents hlast
  obtain ⟨moves, hmoves⟩ := exists_after start events
  rw [hmoves] at hlast hroster hidle ⊢
  refine
    { coherent := coherent_run moves hlast
      accounts := accounts_run moves hlast
      tallied := tallied_run moves hlast
      attributed := Attributed.start.after coherent_start moves hlast
      idle := hidle
      disposing := ?_ }
  have hnone : (start.after moves).roster.disposing = [] := by
    rw [hroster]
    exact Roster.disposing_operations rfl _
  exact List.map_eq_nil_iff.mp hnone

/-- **It does not matter when the daemon gets its turns.** Take any program of operations on owners
of different handles, which waits for the daemon in the end and has it sweep. Then any two schedules
of it

* have released the same handles, each once;
* have the same addresses live;
* and have counted the same, up to whether it was reclaimed or swept. -/
theorem schedules_agree (operations : List (Operation ε)) (events events' : List (Event ε))
    (hdistinct : (operations.filterMap Operation.handle?).Nodup)
    (hevents : Schedules (concluded operations) events)
    (hevents' : Schedules (concluded operations) events')
    (hlast : (start.through events).Lasting) (hlast' : (start.through events').Lasting) :
    let s := start.through events
    let s' := start.through events'
    (s.released.Nodup ∧ s'.released.Nodup ∧ s'.released.Perm s.released)
    ∧ s'.registry.table.live.Perm s.registry.table.live
    ∧ s'.registry.counters.registered = s.registry.counters.registered
    ∧ s'.registry.counters.explicit = s.registry.counters.explicit
    ∧ s'.registry.counters.failed = s.registry.counters.failed
    ∧ s'.registry.counters.reclaimed + s'.registry.counters.swept
      = s.registry.counters.reclaimed + s.registry.counters.swept := by
  intro s s'
  have hrest : s.AtRest := atRest_through hdistinct hevents hlast
  have hrest' : s'.AtRest := atRest_through hdistinct hevents' hlast'
  have hhandles : ((concluded operations).filterMap Operation.handle?).Nodup := by
    rw [handles_concluded]
    exact hdistinct
  -- Both runs end at rest with one roster, and all that is asked can be read off that.
  have hroster : s.roster = _ := roster_of_schedules hhandles hevents hlast
  have hroster' : s'.roster = s.roster :=
    (roster_of_schedules hhandles hevents' hlast').trans hroster.symm
  have hnodup : s.roster.handles.Nodup := by
    rw [hroster, Roster.handles_foldl, handles_flatMap]
    exact hhandles
  refine ⟨⟨hrest.released_nodup hnodup, hrest'.released_nodup (hroster' ▸ hnodup), ?_⟩, ?_, ?_⟩
  · refine hrest'.released_perm.trans ?_
    rw [hroster']
    exact hrest.released_perm.symm
  · refine hrest'.live_perm.trans ?_
    rw [hroster']
    exact hrest.live_perm.symm
  · have hmerged : s'.registry.counters.merged = s.registry.counters.merged := by
      rw [hrest'.merged_counters, hroster', hrest.merged_counters]
    simp only [Counters.merged, Counters.mk.injEq] at hmerged
    obtain ⟨hregistered, hexplicit, hreclaimed, -, hfailed⟩ := hmerged
    exact ⟨hregistered, hexplicit, hfailed, hreclaimed⟩

/-- A program with four owners, of which one is dropped, one is dropped whose release function
panics, one disposes of its handle, and one is held to the end. -/
def exampleOperations : List (Operation Unit) :=
  [.own ⟨0x21, by decide⟩ "File" () none, .own ⟨0x22, by decide⟩ "Pipe" () (some "stuck"),
    .own ⟨0x23, by decide⟩ "Socket" () none, .drop 0, .drop 1,
    .own ⟨0x24, by decide⟩ "File" () none, .dispose 2]

/-- The daemon takes up each notice as soon as it can. -/
def examplePrompt : List (Event Unit) :=
  ((concluded exampleOperations).flatMap Operation.steps).flatMap fun step =>
    [.program step, .notice, .release]

/-- The daemon does nothing but sweep after every step. -/
def exampleSweeping : List (Event Unit) :=
  ((concluded exampleOperations).flatMap Operation.steps).flatMap fun step =>
    [.program step, .sweep, .release]

/-- With one of the schedules the owner that was dropped is reclaimed, with the other one it is
swept. -/
theorem schedules_agree_example :
    let s := start.through examplePrompt
    let s' := start.through exampleSweeping
    (s.Lasting ∧ s'.Lasting) ∧ s'.released.Perm s.released
    ∧ s.registry.counters = ⟨4, 1, 1, 0, 1⟩ ∧ s'.registry.counters = ⟨4, 1, 0, 1, 1⟩ := by
  intro s s'
  have hlast : s.Lasting := by decide +kernel
  have hlast' : s'.Lasting := by decide +kernel
  obtain ⟨⟨-, -, hreleased⟩, -⟩ := schedules_agree exampleOperations examplePrompt exampleSweeping
    (by decide +kernel) rfl rfl hlast hlast'
  exact ⟨⟨hlast, hlast'⟩, hreleased, by decide +kernel, by decide +kernel⟩

end Estate

end Custody

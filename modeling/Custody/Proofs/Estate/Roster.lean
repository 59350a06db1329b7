import Custody.Proofs.Estate.Accounts
import Custody.Proofs.Estate.Operations

/-!
# Rosters

A program does not know which slots its owners get: it names an owner by when its handle was taken
into ownership. So does a `Roster`, which has what the program has made of its owners so far, and
leaves out everything that the daemon has a hand in. A run of the program and the daemon together is
a list of events (`Estate.through`), in which the daemon may take any turn between any two steps of
the program.

The daemon leaves the roster as it is, and each step of the program has its effect on the roster
alone (`Estate.roster_through`). So however the daemon gets its turns, the program comes to the same
roster, as long as no handle is refused; and none is when all handles are different.

The roster numbers the owners in the order in which they came. That is also the number of their
action in the ledger, which is why the daemon cannot disturb it: actions are added and never taken
away. An owner is found again by its number (`withNumber`).
-/

namespace Custody

variable {ε : Type}

/-! ## Contracts -/

namespace Ledger

variable (ledger : Ledger ε) (live : List Address) (id : ActionId)

/-- What the actions were made with, in the order in which they were made. -/
def contracts : List (Handle × Release ε) :=
  ledger.actions.map fun action => (action.handle, action.release)

theorem length_contracts : ledger.contracts.length = ledger.actions.length := List.length_map _

theorem getElem?_contracts : ledger.contracts[id]?
    = ledger.actions[id]?.map fun action => (action.handle, action.release) := List.getElem?_map

/-- The handle of an action is in its contract. -/
theorem handleOf?_eq : ledger.handleOf? id = ledger.contracts[id]?.map Prod.fst := by
  rw [getElem?_contracts, Option.map_map]
  rfl

/-- Whether the release function of an action panics is in its contract. -/
theorem panics_eq : ledger.panics id
    = ledger.contracts[id]?.any fun contract => contract.2.panics.isSome := by
  rw [getElem?_contracts, panics, releaseOf?]
  cases ledger.actions[id]? with
  | none => rfl
  | some action => rfl

@[simp] theorem contracts_hold : (ledger.hold id).contracts = ledger.contracts := by
  refine List.ext_getElem? fun other => ?_
  rw [getElem?_contracts, getElem?_contracts]
  exact ledger.map_hold id other _ fun _ _ => rfl

@[simp] theorem contracts_letGo : (ledger.letGo id).2.contracts = ledger.contracts := by
  refine List.ext_getElem? fun other => ?_
  rw [getElem?_contracts, getElem?_contracts]
  exact ledger.map_letGo id other _ fun _ _ => rfl

@[simp] theorem contracts_run : (ledger.run live id).2.contracts = ledger.contracts := by
  refine List.ext_getElem? fun other => ?_
  rw [getElem?_contracts, getElem?_contracts]
  exact ledger.map_run live id other _ fun _ _ => rfl

/-- **A new action brings its contract along**, and the others keep theirs. -/
@[simp] theorem contracts_prepare (handle : Handle) (release : Release ε) :
    (ledger.prepare handle release).contracts = ledger.contracts ++ [(handle, release)] :=
  List.map_append

end Ledger

/-- Whether a move is one of the daemon. -/
def Move.ofDaemon : Move ε → Bool
  | notice | sweep | release => true
  | _ => false

namespace Estate

/-! ## Programs -/

/-- A step of a program. It names an owner by its number: how many handles were taken into ownership
before. -/
inductive Step (ε : Type)
  /-- Takes a handle into ownership. -/
  | own (handle : Handle) (domain : String) (effect : ε) (panics : Option String)
  /-- An owner begins to dispose of its handle. -/
  | withdraw (number : ActionId)
  /-- It releases the handle. -/
  | settle (number : ActionId)
  /-- An owner is dropped and posts its notice. -/
  | post (number : ActionId)
  /-- An owner goes for good. -/
  | letGo (number : ActionId)
  /-- Waits for the daemon. -/
  | await
  /-- Has the daemon sweep, and waits for it. -/
  | sweep

/-- What happens next in a run: a step of the program, or a turn of the daemon. -/
inductive Event (ε : Type)
  /-- A step of the program. -/
  | program (step : Step ε)
  /-- The daemon takes up the oldest notice. -/
  | notice
  /-- The daemon takes up the orphans. -/
  | sweep
  /-- The daemon releases the first thing that it has in hand. -/
  | release

/-- The step of the program in an event. -/
def Event.step? : Event ε → Option (Step ε)
  | program step => some step
  | _ => none

/-- The handle that a step takes into ownership. -/
def Step.handle? : Step ε → Option Handle
  | own handle _ _ _ => some handle
  | _ => none

variable {s s' : Estate ε} {owner : Owner} {owners : List Owner} {number : ActionId}

/-- The owner with a number. -/
def withNumber (owners : List Owner) (number : ActionId) : Option Owner :=
  owners.find? (·.action = number)

/-- The moves that a step of the program stands for. There are none where the owner is not there. -/
def Step.moves (s : Estate ε) : Step ε → List (Move ε)
  | own handle domain effect panics => [.own handle domain effect panics]
  | withdraw number => (withNumber s.held number).toList.map .withdraw
  | settle number => (withNumber (s.disposing.map Prod.fst) number).toList.map .settle
  | post number => (withNumber s.held number).toList.map .post
  | letGo number => (withNumber s.leaving number).toList.map .letGo
  | await => s.errands
  | sweep => s.sweeping

/-- The moves that an event stands for. -/
def Event.moves (s : Estate ε) : Event ε → List (Move ε)
  | program step => step.moves s
  | notice => [.notice]
  | sweep => [.sweep]
  | release => [.release]

/-- **The estate after a run** of the program with the daemon. -/
def through (s : Estate ε) (events : List (Event ε)) : Estate ε :=
  events.foldl (fun s event => s.after (event.moves s)) s

/-- What happens to an estate comes down to moves of the program and of the daemon. -/
theorem exists_after (s : Estate ε) (events : List (Event ε)) :
    ∃ moves, s.through events = s.after moves := by
  induction events generalizing s with
  | nil => exact ⟨[], rfl⟩
  | cons event events ih =>
    obtain ⟨moves, hmoves⟩ := ih (s.after (event.moves s))
    exact ⟨event.moves s ++ moves, by rw [after_append, ← hmoves]; rfl⟩

/-! ## Rosters -/

/-- **What a program has made of its owners**, each of which goes by its number. -/
structure Roster (ε : Type) where
  /-- Those that it holds. -/
  held : List ActionId
  /-- Those that have begun to dispose of their handle. -/
  disposing : List ActionId
  /-- All that there ever were. -/
  accepted : List ActionId
  /-- Those that were dropped. -/
  dropped : List ActionId
  /-- What each was made with. -/
  contracts : List (Handle × Release ε)

namespace Roster

/-- The roster after a step of the program, if no handle is refused. -/
def step (roster : Roster ε) : Step ε → Roster ε
  | .own handle _ effect panics =>
    { roster with
      held := roster.contracts.length :: roster.held
      accepted := roster.contracts.length :: roster.accepted
      contracts := roster.contracts ++ [(handle, ⟨effect, panics, none⟩)] }
  | .withdraw number =>
    if number ∈ roster.held then
      { roster with held := roster.held.erase number, disposing := number :: roster.disposing }
    else roster
  | .settle number => { roster with disposing := roster.disposing.erase number }
  | .post number =>
    if number ∈ roster.held then
      { roster with held := roster.held.erase number, dropped := number :: roster.dropped }
    else roster
  | .letGo _ | .await | .sweep => roster

/-- The handles that were taken into ownership. -/
def handles (roster : Roster ε) : List Handle := roster.contracts.map Prod.fst

/-- A step brings at most one handle. -/
theorem handles_step (roster : Roster ε) (step : Step ε) :
    (roster.step step).handles = roster.handles ++ step.handle?.toList := by
  unfold handles
  cases step with
  | own handle domain effect panics => exact List.map_append
  | settle | letGo | await | sweep => exact (List.append_nil _).symm
  | withdraw number | post number =>
    by_cases h : number ∈ roster.held
    · simp [Roster.step, h, Step.handle?]
    · simp [Roster.step, h, Step.handle?]

end Roster

/-- The roster of an estate. -/
def roster (s : Estate ε) : Roster ε where
  held := s.held.map Owner.action
  disposing := s.disposing.map (·.1.action)
  accepted := s.accepted.map Owner.action
  dropped := s.dropped.map Owner.action
  contracts := s.registry.ledger.contracts

/-- A roster shows only what the program did. -/
theorem SameProgram.roster (h : SameProgram s s')
    (hcontracts : s'.registry.ledger.contracts = s.registry.ledger.contracts) :
    s'.roster = s.roster := by
  unfold Estate.roster
  rw [h.held, h.disposing, h.accepted, h.dropped, hcontracts]

/-! ## The daemon -/

theorem SameProgram.sweep (s : Estate ε) : SameProgram s s.sweep := .takeUps .sweep _ s

/-- **What the daemon does is not seen on the roster.** -/
theorem roster_daemon {move : Move ε} (h : move.ofDaemon = true) (s : Estate ε) :
    (s.step move).roster = s.roster := by
  cases move with
  | notice => exact (SameProgram.notice s).roster (congrArg _ (ledger_notice s))
  | sweep => exact (SameProgram.sweep s).roster (congrArg _ (ledger_takeUps .sweep _ s))
  | release =>
    refine (SameProgram.release s).roster ?_
    show s.release.registry.ledger.contracts = _
    unfold release
    split
    · rfl
    · simp
  | own | withdraw | settle | post | letGo => exact absurd h Bool.noConfusion

/-- Whatever the daemon does in one go is not seen either. -/
theorem roster_daemons {moves : List (Move ε)} (h : ∀ move ∈ moves, move.ofDaemon = true)
    (s : Estate ε) : (s.after moves).roster = s.roster := by
  induction moves generalizing s with
  | nil => rfl
  | cons move moves ih =>
    obtain ⟨hmove, hmoves⟩ := List.forall_mem_cons.mp h
    exact (ih hmoves (s.step move)).trans (roster_daemon hmove s)

/-- All errands are the daemon's. -/
theorem ofDaemon_errands : ∀ move ∈ s.errands, move.ofDaemon = true := by
  intro move hmove
  obtain rfl | rfl := mem_errands hmove
  · rfl
  · rfl

/-- All moves of a sweep are the daemon's. -/
theorem ofDaemon_sweeping : ∀ move ∈ s.sweeping, move.ofDaemon = true := by
  intro move hmove
  obtain rfl | hrelease := List.mem_cons.mp hmove
  · rfl
  · rw [List.eq_of_mem_replicate hrelease]
    rfl

/-! ## The program -/

/-- Who is found under a number is among those that were looked through, and has it. -/
theorem withNumber_eq_some (h : withNumber owners number = some owner) :
    owner ∈ owners ∧ owner.action = number :=
  ⟨List.mem_of_find?_eq_some h, by simpa using List.find?_some h⟩

/-- If nobody is found under a number, nobody has it. -/
theorem withNumber_eq_none (h : withNumber owners number = none) :
    number ∉ owners.map Owner.action := by
  rintro hmem
  obtain ⟨owner, ho, haction⟩ := List.mem_map.mp hmem
  exact absurd (decide_eq_true haction) (List.find?_eq_none.mp h owner ho)

/-- Taking out an element takes out its image, if no other element has the same one. -/
theorem map_erase_of_inj {α β : Type} [BEq α] [LawfulBEq α] [BEq β] [LawfulBEq β] (f : α → β)
    {l : List α} {a : α} (hinj : ∀ b ∈ l, f b = f a → b = a) :
    (l.erase a).map f = (l.map f).erase (f a) := by
  induction l with
  | nil => rfl
  | cons b l ih =>
    obtain ⟨hb, hl⟩ := List.forall_mem_cons.mp hinj
    by_cases heq : b = a
    · simp [heq]
    · rw [List.erase_cons_tail (by simpa using heq), List.map_cons, List.map_cons,
        List.erase_cons_tail (by simpa using fun hc => heq (hb hc)), ih hl]

namespace Coherent

variable (h : s.Coherent)

include h

/-- An owner leaves those that are held, and its number leaves theirs. -/
theorem map_held_erase (ho : owner ∈ s.held) :
    (s.held.erase owner).map Owner.action = s.roster.held.erase owner.action :=
  map_erase_of_inj Owner.action fun other hother =>
    h.books.eq_of_action_eq (h.holding.accepted other hother) (h.holding.accepted owner ho)

/-- An owner leaves those that dispose of their handle, and its number leaves theirs. -/
theorem map_disposing_erase {taken : Option Entry} (ho : (owner, taken) ∈ s.disposing) :
    (s.disposing.erase (owner, taken)).map (·.1.action)
      = s.roster.disposing.erase owner.action := by
  refine map_erase_of_inj (fun pair : Owner × Option Entry => pair.1.action)
    fun pair hpair heq => ?_
  obtain ⟨hacc, htaken⟩ := h.own_entry _ ho
  obtain ⟨hacc', htaken'⟩ := h.own_entry pair hpair
  have hsame : pair.1 = owner := h.books.eq_of_action_eq hacc' hacc heq
  refine Prod.ext hsame ?_
  rw [htaken', hsame]
  exact htaken.symm

/-- A handle that was never taken into ownership has no entry. -/
theorem not_mem_live {handle : Handle} (hfresh : handle ∉ s.roster.handles) :
    handle.address ∉ s.registry.table.live := by
  intro hmem
  obtain ⟨entry, hentry, haddress⟩ := h.books.sound.mem_live.mp hmem
  obtain ⟨owner, ho, rfl, -⟩ := h.books.entries_iff.mp hentry
  have hhandle : owner.handle ∈ s.roster.handles := by
    obtain ⟨contract, hcontract, heq⟩ := Option.map_eq_some_iff.mp
      ((s.registry.ledger.handleOf?_eq owner.action).symm.trans (h.books.handled owner ho))
    exact heq ▸ List.mem_map_of_mem (List.mem_of_getElem? hcontract)
  have hsame : owner.handle = handle := by
    cases hown : owner.handle
    cases handle
    simp_all [Entry.address, Owner.entry]
  exact hfresh (hsame ▸ hhandle)

/-- An owner that comes with a new handle comes on the roster. -/
theorem roster_own {handle : Handle} {domain : String} {effect : ε} {panics : Option String}
    (hfresh : handle ∉ s.roster.handles) :
    (s.own handle domain ⟨effect, panics, none⟩).roster
      = s.roster.step (.own handle domain effect panics) := by
  rw [Estate.own_of_not_mem domain _ (h.not_mem_live hfresh)]
  unfold roster Roster.step
  simp [Registry.nextOwner, Registry.nextEntry, Ledger.length_contracts]

/-- An owner that begins to dispose of its handle does so on the roster. -/
theorem roster_withdraw (ho : owner ∈ s.held) :
    (s.withdraw owner).roster = s.roster.step (.withdraw owner.action) := by
  have hmem : owner.action ∈ s.roster.held := List.mem_map_of_mem ho
  rw [Roster.step, if_pos hmem, ← h.map_held_erase ho, roster, Estate.withdraw,
    Registry.withdraw_ledger]
  rfl

/-- An owner whose release function runs is done on the roster. -/
theorem roster_settle {taken : Option Entry} (ho : (owner, taken) ∈ s.disposing) :
    (s.settle owner taken).roster = s.roster.step (.settle owner.action) := by
  obtain ⟨-, htaken⟩ := h.own_entry _ ho
  obtain rfl : taken = some owner.entry := htaken
  rw [Roster.step, ← h.map_disposing_erase ho, roster, Estate.settle, Registry.settle_some_ledger,
    Ledger.contracts_letGo, Ledger.contracts_run]
  rfl

/-- An owner that is dropped is dropped on the roster. -/
theorem roster_post (ho : owner ∈ s.held) :
    (s.post owner).roster = s.roster.step (.post owner.action) := by
  have hmem : owner.action ∈ s.roster.held := List.mem_map_of_mem ho
  rw [Roster.step, if_pos hmem, ← h.map_held_erase ho, roster, Estate.post,
    Registry.post_of_daemon _ _ h.daemon]
  rfl

omit h in
/-- That an owner goes, after all is done, is not seen on the roster. -/
theorem roster_letGo (owner : Owner) : (s.letGo owner).roster = s.roster := by
  rw [roster, Estate.letGo, Registry.letGo_snd, Ledger.contracts_letGo]
  rfl

omit h in
/-- What somebody who disposes of a handle has taken is found under it. -/
theorem exists_lookup (ho : owner ∈ s.disposing.map Prod.fst) :
    ∃ taken, s.disposing.lookup owner = some taken ∧ (owner, taken) ∈ s.disposing := by
  cases hlookup : s.disposing.lookup owner with
  | none =>
    obtain ⟨pair, hpair, rfl⟩ := List.mem_map.mp ho
    exact absurd (List.lookup_eq_none_iff.mp hlookup pair hpair) (by simp)
  | some taken =>
    obtain ⟨before, later, heq, -⟩ := List.lookup_eq_some_iff.mp hlookup
    exact ⟨taken, rfl, heq ▸ List.mem_append_right _ List.mem_cons_self⟩

/-- **Each step of the program has its effect on the roster.** -/
theorem roster_step (step : Step ε)
    (hfresh : ∀ handle, step.handle? = some handle → handle ∉ s.roster.handles) :
    (s.after (step.moves s)).roster = s.roster.step step := by
  cases step with
  | own handle domain effect panics => exact h.roster_own (hfresh handle rfl)
  | withdraw number =>
    show (s.after ((withNumber s.held number).toList.map .withdraw)).roster = _
    cases hfind : withNumber s.held number with
    | none => exact (if_neg (withNumber_eq_none hfind)).symm
    | some owner =>
      obtain ⟨ho, rfl⟩ := withNumber_eq_some hfind
      show (s.step (.withdraw owner)).roster = _
      rw [Estate.step, if_pos ho, h.roster_withdraw ho]
  | settle number =>
    show (s.after ((withNumber (s.disposing.map Prod.fst) number).toList.map .settle)).roster = _
    cases hfind : withNumber (s.disposing.map Prod.fst) number with
    | none =>
      -- Nobody disposes under this number, and the roster has nobody with it either.
      have hnone : number ∉ s.roster.disposing := by
        simpa [roster] using withNumber_eq_none hfind
      rw [Roster.step, List.erase_of_not_mem hnone]
      rfl
    | some owner =>
      obtain ⟨hmem, rfl⟩ := withNumber_eq_some hfind
      obtain ⟨taken, hlookup, ho⟩ := exists_lookup hmem
      show (s.step (.settle owner)).roster = _
      rw [Estate.step, hlookup, h.roster_settle ho]
  | post number =>
    show (s.after ((withNumber s.held number).toList.map .post)).roster = _
    cases hfind : withNumber s.held number with
    | none => exact (if_neg (withNumber_eq_none hfind)).symm
    | some owner =>
      obtain ⟨ho, rfl⟩ := withNumber_eq_some hfind
      show (s.step (.post owner)).roster = _
      rw [Estate.step, if_pos ho, h.roster_post ho]
  | letGo number =>
    show (s.after ((withNumber s.leaving number).toList.map .letGo)).roster = _
    cases hfind : withNumber s.leaving number with
    | none => rfl
    | some owner =>
      obtain ⟨ho, rfl⟩ := withNumber_eq_some hfind
      show (s.step (.letGo owner)).roster = _
      rw [Estate.step, if_pos ho, roster_letGo]
      rfl
  | await => exact roster_daemons ofDaemon_errands s
  | sweep => exact roster_daemons ofDaemon_sweeping s

end Coherent

/-! ## Runs -/

/-- What the daemon does leaves the roster as it is. -/
theorem roster_of_daemon {event : Event ε} (hdaemon : event.step? = none) :
    (s.after (event.moves s)).roster = s.roster := by
  cases event with
  | program step => exact absurd hdaemon nofun
  | notice => exact roster_daemon (rfl : Move.ofDaemon .notice = true) s
  | sweep => exact roster_daemon (rfl : Move.ofDaemon .sweep = true) s
  | release => exact roster_daemon (rfl : Move.ofDaemon .release = true) s

/-- **A run of the program with the daemon comes to the roster of the program**, if all handles are
different. -/
theorem roster_through (h : s.Coherent) (events : List (Event ε))
    (hlast : (s.through events).Lasting)
    (hdistinct : (s.roster.handles
      ++ (events.filterMap Event.step?).filterMap Step.handle?).Nodup) :
    (s.through events).roster = (events.filterMap Event.step?).foldl Roster.step s.roster := by
  induction events generalizing s with
  | nil => rfl
  | cons event events ih =>
    obtain ⟨moves, hmoves⟩ := exists_after (s.after (event.moves s)) events
    have hlast' : (s.after (event.moves s)).Lasting := by
      refine (ages_after _ moves).lasting ?_
      rw [← hmoves]
      exact hlast
    have hrest := ih (h.after _ hlast') hlast
    show ((s.after (event.moves s)).through events).roster = _
    cases hevent : event.step? with
    | none =>
      rw [List.filterMap_cons_none hevent] at hdistinct ⊢
      rw [roster_of_daemon hevent] at hrest
      exact hrest hdistinct
    | some step =>
      rw [List.filterMap_cons_some hevent] at hdistinct ⊢
      -- The handle of the first step is none of those on the roster, nor of those to come.
      have hsteps : (step :: events.filterMap Event.step?).filterMap Step.handle?
          = step.handle?.toList ++ (events.filterMap Event.step?).filterMap Step.handle? := by
        rw [List.filterMap_cons]
        cases step.handle? with
        | none => rfl
        | some handle => rfl
      rw [hsteps, ← List.append_assoc] at hdistinct
      obtain rfl : event = .program step := by
        cases event with
        | program other => exact congrArg Event.program (Option.some.inj hevent)
        | notice | sweep | release => exact absurd hevent nofun
      have hstep : (s.after (step.moves s)).roster = s.roster.step step := by
        refine h.roster_step step fun handle hhandle hmem => ?_
        have hleft := (List.nodup_append.mp hdistinct).1
        rw [hhandle] at hleft
        exact List.disjoint_of_nodup_append hleft hmem List.mem_cons_self
      rw [Event.moves, hstep, Roster.handles_step] at hrest
      exact hrest hdistinct

end Estate

end Custody

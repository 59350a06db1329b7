import Custody.Proofs.Estate.Basic
import Custody.Proofs.Registry.Ages
import Custody.Proofs.Registry.Queue

/-!
# Coherent estates

What holds in every state between two moves: the books of the registry are in order on all
owners that there ever were (`Books`), the owners that are held have their entries (`Holding`),
those that were dropped their notices (`Queue`), and an owner that has begun to dispose of its
handle has its own entry in hand.

Every move keeps this (`Coherent.step`), as long as no slot has been vacated 2 ^ 32 times: from
then on a key may find what is not its own. Slots are never un-vacated (`ages_after`), so that
this holds of every state of a run if it holds of the last one.

There is one lemma for each move, and each comes from the corresponding facts about the books, about
the owners that are held and about the queue of notices, which were proved for the registry on its
own. What ties these three together is the place of an entry. It is in the table and belongs to an
owner that is held or dropped, or it is on its way to be released, in the hand of an owner that
disposes of its handle or in the hand of the daemon.
-/

namespace Custody.Estate

variable {ε : Type} {s : Estate ε} {owner : Owner} {key : SlotKey}

/-- **Everything in an estate agrees.** -/
structure Coherent (s : Estate ε) : Prop where
  /-- The books are in order. -/
  books : Books s.registry.table s.registry.ledger s.accepted s.refused s.moving
  /-- The owners that are held have their entries. -/
  holding : Holding s.registry.table s.registry.ledger s.accepted s.held
  /-- The owners that were dropped have their notices. -/
  queue : Queue s.registry.table s.registry.notices s.accepted s.held s.dropped s.swept
  /-- The daemon runs. -/
  daemon : s.registry.daemon = true
  /-- An owner that disposes of its handle has taken out its own entry. -/
  own_entry : ∀ pair ∈ s.disposing, pair.1 ∈ s.accepted ∧ pair.2 = some pair.1.entry
  /-- An owner that is still to go is not held any more. -/
  not_held : ∀ owner ∈ s.leaving, owner ∈ s.accepted ∧ owner ∉ s.held

/-- **In the beginning** there are no owners, and nothing can be at odds. -/
theorem coherent_start : (start : Estate ε).Coherent where
  books := books_empty
  holding := ⟨List.nodup_nil, by simp [start], by simp [start], by simp [start]⟩
  queue := ⟨List.nodup_nil, by simp [start, Registry.empty], by simp [start], by simp [start],
    by simp [start], List.nodup_nil, by simp [start]⟩
  daemon := rfl
  own_entry := by simp [start]
  not_held := by simp [start]

namespace Coherent

/-! ## The program -/

/-- The tokens that are alive stay alive when a new one is made. -/
theorem holding_prepare (h : s.Coherent) (handle : Handle) (release : Release ε) :
    Holding s.registry.table (s.registry.ledger.prepare handle release) s.accepted s.held := by
  refine h.holding.of_alive fun owner ho => ?_
  have hlt := s.registry.ledger.lt_of_isAlive (h.holding.alive owner ho)
  rw [Ledger.isAlive_prepare, if_neg (Nat.ne_of_lt hlt)]

/-- A handle is refused. -/
theorem own_of_mem (h : s.Coherent) {handle : Handle} {release : Release ε}
    (hrelease : release.bursts = none) (domain : String)
    (hmem : handle.address ∈ s.registry.table.live) : (s.own handle domain release).Coherent := by
  have hbooks := ((h.books.prepare hrelease handle).kill s.registry.ledger.tokens.length).letGo
    s.registry.ledger.actions.length
  have hidle : s.registry.ledger.isCompleted s.registry.ledger.actions.length = false :=
    s.registry.ledger.isCompleted_of_le (Nat.le_refl _)
  have hholding : Holding s.registry.table
      ((s.registry.ledger.prepare handle release).kill s.registry.ledger.tokens.length)
      s.accepted s.held := by
    refine (h.holding_prepare handle release).of_alive fun owner ho => ?_
    have hlt := s.registry.ledger.lt_of_isAlive (h.holding.alive owner ho)
    rw [Ledger.isAlive_kill, if_neg (Nat.ne_of_lt hlt)]
  rw [Estate.own_of_mem domain release hmem]
  refine
    { books := hbooks.refuse (by simp) ?_ h.books.action_ne_length
      holding := hholding.of_tokens (by simp)
      queue := h.queue
      daemon := h.daemon
      own_entry := h.own_entry
      not_held := h.not_held }
  rw [Ledger.isCompleted_letGo]
  exact (s.registry.ledger.isCompleted_prepare handle release _).trans hidle

/-- A handle gets an owner. -/
theorem own_of_not_mem (h : s.Coherent) (hlast : s.Lasting) {handle : Handle} {release : Release ε}
    (hrelease : release.bursts = none) (domain : String)
    (hmem : handle.address ∉ s.registry.table.live) : (s.own handle domain release).Coherent := by
  -- The new action and the new token have numbers that nobody knows yet.
  have hfresh := h.books.action_ne_length
  have hidle : s.registry.ledger.isCompleted s.registry.ledger.actions.length = false :=
    s.registry.ledger.isCompleted_of_le (Nat.le_refl _)
  have hprepare := h.books.prepare hrelease handle
  have halive : (s.registry.ledger.prepare handle release).isAlive s.registry.ledger.tokens.length
      = true := by
    rw [Ledger.isAlive_prepare, if_pos rfl]
  have hhandle : (s.registry.ledger.prepare handle release).handleOf?
      s.registry.ledger.actions.length = some handle := by
    rw [Ledger.handleOf?_prepare, if_pos rfl]
  have hrefused : s.registry.ledger.actions.length ∉ s.refused :=
    fun hc => Nat.lt_irrefl _ (h.books.refused_idle _ hc).1
  have hbooks := hprepare.place (s.registry.nextOwner handle domain) hlast hmem rfl
    (by simp [Registry.nextOwner, Registry.nextEntry]) h.books.paired hhandle
    (by simpa [Registry.nextOwner, Registry.nextEntry] using hidle) hfresh hrefused
  rw [Estate.own_of_not_mem domain release hmem]
  exact
    { books := hbooks.of_ledger
        (fun id found hfound => hbooks.quiet id found (by simpa using hfound))
        (by simp) (by simp) (by simp) (by simp)
      holding := ((h.holding_prepare handle release).place
        (s.registry.nextOwner handle domain) hprepare hlast rfl hfresh halive).of_tokens (by simp)
      queue := h.queue.place (s.registry.nextOwner handle domain) h.books hlast hfresh
      daemon := h.daemon
      own_entry := fun pair hpair => ⟨List.mem_cons_of_mem _ (h.own_entry pair hpair).1,
        (h.own_entry pair hpair).2⟩
      not_held := by
        intro owner ho
        obtain ⟨hacc, hout⟩ := h.not_held owner ho
        refine ⟨List.mem_cons_of_mem _ hacc, ?_⟩
        rw [List.mem_cons, not_or]
        exact ⟨fun heq => hfresh owner hacc (congrArg Owner.action heq), hout⟩ }

/-- An owner comes, with a handle that has none yet or with one that has. -/
theorem own (h : s.Coherent) (hlast : s.Lasting) (handle : Handle) (domain : String)
    {release : Release ε} (hrelease : release.bursts = none) :
    (s.own handle domain release).Coherent := by
  by_cases hmem : handle.address ∈ s.registry.table.live
  · exact h.own_of_mem hrelease domain hmem
  · exact h.own_of_not_mem hlast hrelease domain hmem

/-- An owner that is held takes its own entry out of the table. -/
theorem take_of_held (h : s.Coherent) (ho : owner ∈ s.held) :
    ∃ rest, s.registry.table.take owner.key = some (owner.entry, rest) :=
  ⟨_, SlotTable.take_eq_some_iff.mpr ⟨h.holding.present owner ho, rfl⟩⟩

/-- An owner takes its entry out of the table. -/
theorem withdraw (h : s.Coherent) (hlast : s.Lasting) (ho : owner ∈ s.held) :
    (s.withdraw owner).Coherent := by
  obtain ⟨rest, htake⟩ := h.take_of_held ho
  have hacc := h.holding.accepted owner ho
  have hout : owner ∉ s.held.erase owner := fun hc => (h.holding.nodup.mem_erase_iff.mp hc).1 rfl
  unfold Estate.withdraw
  rw [Registry.withdraw_of_take _ htake]
  exact
    { books := h.books.take hlast hacc htake
      holding := (h.holding.erase owner).take h.books hacc hout htake
      queue := h.queue.withdraw h.books h.holding ho htake
      daemon := h.daemon
      own_entry := List.forall_mem_cons.mpr ⟨⟨hacc, rfl⟩, h.own_entry⟩
      not_held := fun other hp => ⟨(h.not_held other hp).1,
        fun hc => (h.not_held other hp).2 (List.mem_of_mem_erase hc)⟩ }

/-- An owner runs its release function. -/
theorem settle (h : s.Coherent) {taken : Option Entry} (ho : (owner, taken) ∈ s.disposing) :
    (s.settle owner taken).Coherent := by
  obtain ⟨hacc, htaken⟩ := h.own_entry _ ho
  obtain rfl : taken = some owner.entry := htaken
  have hmoving : s.moving.Perm (owner.entry :: (s.settle owner (some owner.entry)).moving) :=
    ((List.perm_cons_erase ho).map (·.1.entry)).append_right _
  -- Its entry has left the table, while those of the owners that are held have not.
  have hout : owner ∉ s.held := by
    intro hc
    have hmem : owner.entry ∈ s.moving :=
      List.mem_append_left _ (List.mem_map.mpr ⟨_, ho, rfl⟩)
    exact (h.books.located owner hacc).not_found_of_moving hmem (h.holding.present owner hc)
  have hbooks := ((h.books.perm hmoving).run s.registry.table.live).letGo owner.action
  exact
    { books := by
        simp only [Estate.settle, Registry.settle_table, Registry.settle_some_ledger]
        exact hbooks
      holding := by
        simp only [Estate.settle, Registry.settle_table, Registry.settle_some_ledger]
        exact h.holding.of_tokens (by simp)
      queue := by
        simp only [Estate.settle, Registry.settle_table, Registry.settle_notices]
        exact h.queue
      daemon := by
        simp only [Estate.settle, Registry.settle_daemon]
        exact h.daemon
      own_entry := fun pair hpair => h.own_entry pair (List.mem_of_mem_erase hpair)
      not_held := List.forall_mem_cons.mpr ⟨⟨hacc, hout⟩, h.not_held⟩ }

/-- An owner is dropped, and its notice waits for the daemon. -/
theorem post (h : s.Coherent) (ho : owner ∈ s.held) : (s.post owner).Coherent := by
  have hout : owner ∉ s.held.erase owner := fun hc => (h.holding.nodup.mem_erase_iff.mp hc).1 rfl
  unfold Estate.post
  rw [Registry.post_of_daemon _ _ h.daemon]
  exact
    { books := h.books
      holding := h.holding.erase owner
      queue := h.queue.post h.books h.holding ho
      daemon := h.daemon
      own_entry := h.own_entry
      not_held := List.forall_mem_cons.mpr ⟨⟨h.holding.accepted owner ho, hout⟩,
        fun other hp => ⟨(h.not_held other hp).1,
          fun hc => (h.not_held other hp).2 (List.mem_of_mem_erase hc)⟩⟩ }

/-- An owner goes for good, and its token with it. -/
theorem letGo (h : s.Coherent) (ho : owner ∈ s.leaving) : (s.letGo owner).Coherent := by
  obtain ⟨hacc, hout⟩ := h.not_held owner ho
  unfold Estate.letGo
  rw [Registry.letGo_snd]
  exact
    { books := (h.books.kill owner.token).letGo owner.action
      holding := (h.holding.kill h.books hacc hout).of_tokens (by simp)
      queue := h.queue
      daemon := h.daemon
      own_entry := h.own_entry
      not_held := fun other hp => h.not_held other (List.mem_of_mem_erase hp) }

/-! ## The daemon -/

/-- The books and the owners that are held, when the daemon takes up an entry of somebody who is
not held. -/
theorem takeUp_entry (h : s.Coherent) (hlast : s.Lasting) {rest : SlotTable} (manner : Manner)
    (ho : owner ∈ s.accepted) (hout : owner ∉ s.held)
    (htake : s.registry.table.take owner.key = some (owner.entry, rest)) :
    Books rest s.registry.ledger s.accepted s.refused
        (s.disposing.map (·.1.entry) ++ (s.hand ++ [(manner, owner.entry)]).map (·.2))
      ∧ Holding rest s.registry.ledger s.accepted s.held := by
  refine ⟨(h.books.take hlast ho htake).perm ?_, h.holding.take h.books ho hout htake⟩
  rw [List.map_append, ← List.append_assoc]
  exact (List.perm_append_singleton _ _).symm

/-- What a key finds is the entry of an owner under its own key. -/
theorem take_of_find? (h : s.Coherent) {entry : Entry}
    (hfound : s.registry.table.find? key = some entry) :
    ∃ owner ∈ s.accepted, ∃ rest, owner.key = key ∧ owner.entry = entry
      ∧ s.registry.table.take owner.key = some (owner.entry, rest) := by
  obtain ⟨owner, ho, rfl, rfl⟩ := h.books.owned key entry hfound
  exact ⟨owner, ho, _, rfl, rfl, SlotTable.take_eq_some_iff.mpr ⟨hfound, rfl⟩⟩

/-- A sweep takes up an entry that nobody holds. -/
theorem takeUp_sweep (h : s.Coherent) (hlast : s.Lasting)
    (hout : ∀ owner ∈ s.held, owner.key ≠ key) : (takeUp .sweep s key).Coherent := by
  cases hfound : s.registry.table.find? key with
  | none =>
    rw [takeUp_of_find?_eq_none _ hfound]
    exact h
  | some entry =>
    obtain ⟨owner, ho, rest, rfl, rfl, htake⟩ := h.take_of_find? hfound
    obtain ⟨hbooks, hholding⟩ := h.takeUp_entry hlast .sweep ho (fun hc => hout owner hc rfl) htake
    rw [takeUp_of_take _ htake]
    exact
      { books := hbooks
        holding := hholding
        queue := h.queue.sweep h.books ho htake
        daemon := h.daemon
        own_entry := h.own_entry
        not_held := h.not_held }

/-- The daemon takes a notice, and the entry that it names if that is still there. -/
theorem notice (h : s.Coherent) (hlast : s.Lasting) : s.notice.Coherent := by
  cases hnotices : s.registry.notices with
  | nil =>
    unfold Estate.notice
    rw [hnotices]
    exact h
  | cons key waiting =>
    -- The notice may be late, so that the key finds nothing any more.
    have hqueue := h.queue
    rw [hnotices] at hqueue
    have hout := hqueue.key_ne h.books h.holding List.mem_cons_self
    cases hfound : s.registry.table.find? key with
    | none =>
      rw [notice_of_find?_eq_none hnotices hfound]
      exact { h with queue := hqueue.late hfound }
    | some entry =>
      obtain ⟨owner, ho, rest, rfl, rfl, htake⟩ := h.take_of_find? hfound
      obtain ⟨hbooks, hholding⟩ :=
        h.takeUp_entry hlast .notice ho (fun hc => hout owner hc rfl) htake
      rw [notice_of_take hnotices htake]
      exact
        { books := hbooks
          holding := hholding
          queue := hqueue.notice h.books ho htake
          daemon := h.daemon
          own_entry := h.own_entry
          not_held := h.not_held }

/-- The daemon runs a release function. -/
theorem release (h : s.Coherent) : s.release.Coherent := by
  cases hhand : s.hand with
  | nil =>
    unfold Estate.release
    rw [hhand]
    exact h
  | cons first rest =>
    obtain ⟨manner, entry⟩ := first
    rw [release_of_hand_eq hhand]
    have hmoving : s.moving.Perm (entry :: (s.disposing.map (·.1.entry) ++ rest.map (·.2))) := by
      rw [moving, hhand]
      exact List.perm_middle
    exact
      { books := ((h.books.perm hmoving).run s.registry.table.live).letGo entry.action
        holding := h.holding.of_tokens (by simp)
        queue := h.queue
        daemon := h.daemon
        own_entry := h.own_entry
        not_held := h.not_held }

end Coherent

/-! ## Slots are never un-vacated -/

/-- A new entry vacates no slot. -/
theorem ages_own (s : Estate ε) (handle : Handle) (domain : String) (release : Release ε) :
    Registry.Ages s.registry (s.own handle domain release).registry := by
  have hown := Registry.Ages.own s.registry handle domain release
  unfold own
  split
  · rename_i heq
    rwa [heq] at hown
  · rename_i heq
    rwa [heq] at hown

/-- An entry that is taken up vacates its slot. -/
theorem ages_takeUp (manner : Manner) (s : Estate ε) (key : SlotKey) :
    Registry.Ages s.registry (takeUp manner s key).registry := by
  have hwithdraw := Registry.Ages.withdraw s.registry key
  unfold takeUp
  split
  · exact .refl s.registry
  · rename_i heq
    rwa [heq] at hwithdraw

/-- Several entries that are taken up vacate their slots one after the other. -/
theorem ages_takeUps (keys : List SlotKey) (s : Estate ε) :
    Registry.Ages s.registry (keys.foldl (takeUp .sweep) s).registry := by
  induction keys generalizing s with
  | nil => exact .refl s.registry
  | cons key keys ih => exact (ages_takeUp .sweep s key).trans (ih (takeUp .sweep s key))

theorem ages_notice (s : Estate ε) : Registry.Ages s.registry s.notice.registry := by
  unfold notice
  split
  · exact .refl s.registry
  · rename_i key waiting _
    exact ages_takeUp .notice { s with registry := { s.registry with notices := waiting } } key

theorem ages_release (s : Estate ε) : Registry.Ages s.registry s.release.registry := by
  unfold release
  split
  · exact .refl s.registry
  · exact .release s.registry _ _

/-- **No move makes a slot younger.** -/
theorem ages_step (s : Estate ε) (move : Move ε) :
    Registry.Ages s.registry (s.step move).registry := by
  refine step_induction (motive := fun s' => Registry.Ages s.registry s'.registry)
    move ?own ?withdraw ?settle ?post ?letGo ?notice ?sweep ?release ?nothing
  case own => exact fun handle domain effect panics _ => ages_own s handle domain _
  case withdraw => exact fun owner _ => .withdraw s.registry owner.key
  case settle => exact fun owner taken _ => .settle s.registry taken owner.action
  case post => exact fun owner _ => .post s.registry owner
  case letGo => exact fun owner _ => .letGo s.registry owner
  case notice => exact ages_notice s
  case sweep => exact ages_takeUps _ s
  case release => exact ages_release s
  case nothing => exact .refl s.registry

/-- **No slot was vacated less often after a run.** -/
theorem ages_after (s : Estate ε) (moves : List (Move ε)) :
    Registry.Ages s.registry (s.after moves).registry := by
  induction moves generalizing s with
  | nil => exact .refl s.registry
  | cons move moves ih => exact (ages_step s move).trans (ih (s.step move))

/-! ## Runs -/

namespace Coherent

/-- The daemon takes up several entries of owners that are not held. -/
theorem takeUps (h : s.Coherent) (keys : List SlotKey)
    (hlast : (keys.foldl (takeUp .sweep) s).Lasting)
    (hout : ∀ key ∈ keys, ∀ owner ∈ s.held, owner.key ≠ key) :
    (keys.foldl (takeUp .sweep) s).Coherent := by
  induction keys generalizing s with
  | nil => exact h
  | cons key keys ih =>
    have hheld : (takeUp .sweep s key).held = s.held := by
      unfold takeUp
      split
      · rfl
      · rfl
    refine ih (h.takeUp_sweep ?_ (hout key List.mem_cons_self)) hlast ?_
    · exact (ages_takeUps (key :: keys) s).lasting hlast
    · rw [hheld]
      exact fun other hother => hout other (List.mem_cons_of_mem _ hother)

/-- An orphan is not held, since its token is dead. -/
theorem key_ne_of_mem_orphans (h : s.Coherent) (hkey : key ∈ s.registry.orphans) :
    ∀ owner ∈ s.held, owner.key ≠ key := by
  rintro owner ho rfl
  obtain ⟨entry, hfound, hdead⟩ := SlotTable.mem_keysWhere.mp hkey
  rw [h.holding.present owner ho] at hfound
  have hentry := Option.some.inj hfound
  rw [← hentry] at hdead
  simp [Owner.entry, h.holding.alive owner ho] at hdead

/-- **A whole sweep** keeps an estate coherent, if the slots last. -/
theorem sweep (h : s.Coherent) (hlast : s.sweep.Lasting) : s.sweep.Coherent :=
  h.takeUps _ hlast fun _ hkey => h.key_ne_of_mem_orphans hkey

/-- **Every move keeps an estate coherent.** -/
theorem step (h : s.Coherent) (move : Move ε) (hlast : (s.step move).Lasting) :
    (s.step move).Coherent := by
  have hlast' : s.Lasting := (ages_step s move).lasting hlast
  revert hlast
  refine step_induction (motive := fun s' => s'.Lasting → s'.Coherent)
    move ?own ?withdraw ?settle ?post ?letGo ?notice ?sweep ?release ?nothing
  case own => exact fun handle domain effect panics _ _ => h.own hlast' handle domain rfl
  case withdraw => exact fun owner ho _ => h.withdraw hlast' ho
  case settle => exact fun owner taken ho _ => h.settle ho
  case post => exact fun owner ho _ => h.post ho
  case letGo => exact fun owner ho _ => h.letGo ho
  case notice => exact fun _ => h.notice hlast'
  case sweep => exact fun hlast => h.sweep hlast
  case release => exact fun _ => h.release
  case nothing => exact fun _ => h

/-- **A run that begins in a coherent estate stays in coherent ones.** -/
theorem after (h : s.Coherent) (moves : List (Move ε)) (hlast : (s.after moves).Lasting) :
    (s.after moves).Coherent := by
  induction moves generalizing s with
  | nil => exact h
  | cons move moves ih =>
    have hstep : (s.step move).Lasting := (ages_after (s.step move) moves).lasting hlast
    exact ih (h.step move hstep) hlast

end Coherent

/-- **Every run leads to a coherent estate.** -/
theorem coherent_run (moves : List (Move ε)) (hlast : (run moves).Lasting) : (run moves).Coherent :=
  coherent_start.after moves hlast

end Custody.Estate

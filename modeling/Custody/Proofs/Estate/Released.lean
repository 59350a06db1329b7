import Custody.Proofs.Estate.Flush

/-!
# Who has an entry, and whose handle is released

The two things that a registry promises. Its table mirrors the owners (`Coherent.entries_perm`):
it holds one entry for every owner that is held, one for every owner that was dropped and whose
notice nobody has taken up yet, and nothing else. And it enters the release function of every
owner that it accepted exactly once, after that owner has gone (`entered_once`), whatever the
program, the daemon and the release functions do.

The second follows from the first: what is in the table has not been released, what has left the
table is on its way to be released or done, and nothing is on its way when the daemon has
finished.

Both statements hold in every state of a run, for every list of moves: the one hypothesis that is
left is that no slot was vacated 2 ^ 32 times. A release function that panics was entered all the
same, and the count of how often it was entered does not tell the difference.
-/

namespace Custody.Estate

variable {ε : Type} {s : Estate ε} {owner : Owner}

/-! ## The table -/

namespace Coherent

/-- An owner has its entry in the table exactly if it is held, or its notice waits for the
daemon. -/
theorem present_iff (h : s.Coherent) (ho : owner ∈ s.accepted) :
    s.registry.table.find? owner.key = some owner.entry ↔ owner ∈ s.held ++ s.awaiting := by
  rw [List.mem_append, awaiting, List.mem_filter, decide_eq_true_eq]
  constructor
  · intro hfound
    refine (h.queue.waiting owner ho hfound).imp_right fun ⟨hdropped, hnotice⟩ =>
      ⟨hdropped, hnotice, fun hswept => ?_⟩
    -- What a sweep has taken up is not in the table, and this entry is.
    obtain ⟨other, hp, haction, hgone⟩ := h.queue.swept_gone _ hswept
    rw [h.books.eq_of_action_eq hp ho haction] at hgone
    exact hgone hfound
  · rintro (hheld | ⟨hdropped, hnotice, hswept⟩)
    · exact h.holding.present owner hheld
    · exact (h.queue.queued owner hdropped hnotice).resolve_right hswept

theorem accepted_of_mem (h : s.Coherent) (ho : owner ∈ s.held ++ s.awaiting) :
    owner ∈ s.accepted := by
  cases List.mem_append.mp ho with
  | inl hheld => exact h.holding.accepted owner hheld
  | inr hwaits => exact (h.queue.not_held owner (List.mem_of_mem_filter hwaits)).1

theorem owners_nodup (h : s.Coherent) : (s.held ++ s.awaiting).Nodup := by
  rw [List.nodup_append]
  refine ⟨h.holding.nodup, h.queue.dropped_nodup.filter _, ?_⟩
  rintro owner hheld other hwaits rfl
  exact (h.queue.not_held owner (List.mem_of_mem_filter hwaits)).2 hheld

/-- **The table mirrors the owners**: its entries are those of the owners that are held, and of
those whose notice waits for the daemon. -/
theorem entries_perm (h : s.Coherent) :
    s.registry.table.entries.Perm ((s.held ++ s.awaiting).map Owner.entry) := by
  have hnodup : ((s.held ++ s.awaiting).map Owner.entry).Nodup :=
    h.owners_nodup.map_on fun owner ho other hp heq =>
      h.books.eq_of_entry_eq (h.accepted_of_mem ho) (h.accepted_of_mem hp) heq
  rw [List.perm_ext_iff_of_nodup h.books.sound.entries_nodup hnodup]
  intro entry
  rw [h.books.entries_iff, List.mem_map]
  constructor
  · rintro ⟨owner, ho, hentry, hfound⟩
    exact ⟨owner, (h.present_iff ho).mp hfound, hentry⟩
  · rintro ⟨owner, ho, hentry⟩
    have hacc := h.accepted_of_mem ho
    exact ⟨owner, hacc, hentry, (h.present_iff hacc).mpr ho⟩

/-- The owners that are held have different handles. -/
theorem held_addresses_nodup (h : s.Coherent) :
    (s.held.map fun owner => owner.handle.address).Nodup := by
  have hperm := h.entries_perm.map Entry.address
  rw [List.map_map, List.map_append] at hperm
  exact (List.nodup_append.mp (hperm.nodup_iff.mp h.books.sound.addresses_nodup)).1

/-! ## Waiting for the daemon -/

theorem flush (h : s.Coherent) (hlast : s.flush.Lasting) : s.flush.Coherent := h.after _ hlast

theorem awaiting_flush (s : Estate ε) : s.flush.awaiting = [] := by
  unfold awaiting
  rw [notices_flush]
  simp

/-- When the daemon has been waited for, the table has the entries of the owners that are held
and no others. -/
theorem entries_flush (h : s.Coherent) (hlast : s.flush.Lasting) :
    s.flush.registry.table.entries.Perm (s.held.map Owner.entry) := by
  have hperm := (h.flush hlast).entries_perm
  rwa [awaiting_flush, List.append_nil, (sameProgram_flush s).held] at hperm

theorem liveCount_flush (h : s.Coherent) (hlast : s.flush.Lasting) :
    s.flush.registry.liveCount = s.held.length := by
  rw [Registry.liveCount, (h.flush hlast).books.sound.size_eq, (h.entries_flush hlast).length_eq,
    List.length_map]

/-- When the daemon has been waited for and nobody is about to dispose of a handle, the handle
of every owner that is not held has been released. -/
theorem done_flush (h : s.Coherent) (hlast : s.flush.Lasting) (hidle : s.disposing = [])
    (ho : owner ∈ s.accepted) (hout : owner ∉ s.held) :
    s.flush.registry.ledger.isCompleted owner.action = true := by
  have hflush := h.flush hlast
  have hsame := sameProgram_flush s
  have hacc : owner ∈ s.flush.accepted := hsame.accepted ▸ ho
  refine (hflush.books.located owner hacc).done_of_gone ?_ ?_
  · rw [ne_eq, hflush.present_iff hacc, awaiting_flush, List.append_nil, hsame.held]
    exact hout
  · rw [moving, hsame.disposing, hidle, hand_flush]
    exact List.not_mem_nil

end Coherent

/-! ## Release functions -/

/-- A release function is entered when its action is done, and at no other time. -/
theorem tallied_step (h : s.Coherent) (ht : s.registry.ledger.Tallied) (move : Move ε) :
    (s.step move).registry.ledger.Tallied := by
  refine step_induction (motive := fun s' => s'.registry.ledger.Tallied)
    move ?own ?withdraw ?settle ?post ?letGo ?notice ?sweep ?release ?nothing
  case own =>
    intro handle domain effect panics _
    let release : Release ε := ⟨effect, panics, none⟩
    by_cases hmem : handle.address ∈ s.registry.table.live
    · rw [own_of_mem domain release hmem]
      exact ht.of_views (by simp) fun id => by
        rw [Ledger.isCompleted_letGo]
        exact s.registry.ledger.isCompleted_prepare handle release id
    · rw [own_of_not_mem domain release hmem]
      exact ht.of_views (by simp) (by simp)
  case withdraw =>
    intro owner _
    rw [withdraw, Registry.withdraw_ledger]
    exact ht
  case settle =>
    intro owner taken hmem
    obtain ⟨-, htaken⟩ := h.own_entry _ hmem
    obtain rfl : taken = some owner.entry := htaken
    -- What is let go afterwards is only a reference, which no view of the ledger shows.
    rw [settle, Registry.settle_some_ledger]
    exact (ht.run s.registry.table.live owner.action).of_views (by simp) (by simp [Owner.entry])
  case post =>
    intro owner _
    rw [post, Registry.post_of_daemon _ _ h.daemon]
    exact ht
  case letGo =>
    intro owner _
    rw [letGo, Registry.letGo_snd]
    exact ht.of_views (by simp) fun id => Ledger.isCompleted_letGo _ _ id
  case notice => rwa [ledger_notice]
  case sweep => rwa [sweep, ledger_takeUps]
  case release =>
    unfold release
    split
    · exact ht
    · rename_i manner entry _ _
      exact (ht.run s.registry.table.live entry.action).of_views (by simp) (by simp)
  case nothing => exact ht

theorem tallied_after (h : s.Coherent) (ht : s.registry.ledger.Tallied) (moves : List (Move ε))
    (hlast : (s.after moves).Lasting) : (s.after moves).registry.ledger.Tallied := by
  induction moves generalizing s with
  | nil => exact ht
  | cons move moves ih =>
    have hstep : (s.step move).Lasting := (ages_after (s.step move) moves).lasting hlast
    exact ih (h.step move hstep) (tallied_step h ht move) hlast

theorem tallied_run (moves : List (Move ε)) (hlast : (run moves).Lasting) :
    (run moves).registry.ledger.Tallied :=
  tallied_after coherent_start Ledger.tallied_empty moves hlast

namespace Coherent

theorem timesEntered_eq_zero (h : s.Coherent) (ht : s.registry.ledger.Tallied)
    (ho : owner ∈ s.held) :
    s.timesEntered owner.action = 0 := by
  have hlocated := h.books.located owner (h.holding.accepted owner ho)
  rw [timesEntered, ht, hlocated.not_done_of_found (h.holding.present owner ho)]
  rfl

theorem timesEntered_refused (h : s.Coherent) (ht : s.registry.ledger.Tallied) {id : ActionId}
    (hid : id ∈ s.refused) : s.timesEntered id = 0 := by
  rw [timesEntered, ht, (h.books.refused_idle id hid).2.1]
  rfl

theorem timesEntered_of_done (ht : s.registry.ledger.Tallied) {id : ActionId}
    (hdone : s.registry.ledger.isCompleted id = true) : s.timesEntered id = 1 := by
  rw [timesEntered, ht, hdone]
  rfl

/-- Nothing is released any more when a registry is dropped whose owners have all gone and whose
daemon has finished. -/
theorem ledger_close (h : s.Coherent) (hlast : s.flush.Lasting) (hgone : s.held = []) :
    s.close.registry.ledger = s.flush.registry.ledger := by
  have hentries : s.flush.registry.table.entries = [] := by
    have hperm := h.entries_flush hlast
    rw [hgone] at hperm
    exact hperm.eq_nil
  rw [close, Registry.close_of_idle _ (h.flush hlast).daemon s.notices_flush hentries]

end Coherent

/-! ## What holds of every run -/

/-- A run in which a handle that has an owner is refused, an owner that disposes of its handle
is overtaken by a sweep, and an owner that was dropped is swept before its notice is taken
up. -/
def exampleRun : List (Move Unit) :=
  let file : Handle := ⟨1, by decide⟩
  let pipe : Handle := ⟨2, by decide⟩
  let first : Owner := ⟨⟨0, 0⟩, 0, 0, file, Owner.labelFor "File" file⟩
  let second : Owner := ⟨⟨1, 0⟩, 2, 2, pipe, Owner.labelFor "Pipe" pipe⟩
  [.own file "File" () none, .own file "File" () none, .own pipe "Pipe" () (some "stuck"),
    .withdraw first, .sweep, .settle first, .post second, .letGo second, .sweep, .letGo first,
    .notice]

/-- **The table mirrors the owners** in every state of a run: its entries are those of the
owners that are held and of the dropped ones whose notice waits and which no sweep has taken up,
one for each, and each of these owners finds its own entry. So when the daemon has been waited
for and nobody is about to dispose of a handle, the handle of every owner that was dropped
before has been released, and the entries are as many as the owners that are held. -/
theorem table_mirrors_owners (moves : List (Move ε)) (hlast : (run moves).Lasting) :
    let s := run moves
    s.registry.table.entries.Perm ((s.held ++ s.awaiting).map Owner.entry)
    ∧ (s.held ++ s.awaiting).Nodup
    ∧ (∀ owner ∈ s.held ++ s.awaiting, s.registry.table.find? owner.key = some owner.entry)
    ∧ (s.flush.Lasting → s.disposing = [] →
        (∀ owner ∈ s.dropped, s.flush.timesEntered owner.action = 1)
        ∧ s.flush.registry.liveCount = s.held.length) := by
  intro s
  have h : s.Coherent := coherent_run moves hlast
  have ht : s.registry.ledger.Tallied := tallied_run moves hlast
  refine ⟨h.entries_perm, h.owners_nodup, ?_, ?_⟩
  · intro owner ho
    exact (h.present_iff (h.accepted_of_mem ho)).mpr ho
  · intro hflush hidle
    refine ⟨fun owner ho => ?_, h.liveCount_flush hflush⟩
    obtain ⟨hacc, hout⟩ := h.queue.not_held owner ho
    exact Coherent.timesEntered_of_done (tallied_after h ht _ hflush)
      (h.done_flush hflush hidle hacc hout)

/-- In the middle of the run nobody is held any more, and the owner that was dropped is not
waiting either, since a sweep came first. -/
theorem table_mirrors_owners_exampleRun : (run exampleRun).Lasting ∧
    (run exampleRun).registry.table.entries.Perm
      (((run exampleRun).held ++ (run exampleRun).awaiting).map Owner.entry)
    ∧ (run exampleRun).flush.registry.liveCount = 0 := by
  have hlast : (run exampleRun).Lasting := by decide +kernel
  obtain ⟨hperm, -, -, hflush⟩ := table_mirrors_owners exampleRun hlast
  refine ⟨hlast, hperm, ?_⟩
  exact (hflush (by decide +kernel) (by decide +kernel)).2

/-- **Every handle is released exactly once.** In every state of a run the release function of
an owner that is held has not been entered, that of a handle that was refused has not been
entered, and none has been entered twice. When all owners have gone and the registry is dropped,
the release function of every owner that there ever was has been entered once, and still none of
a handle that was refused. -/
theorem entered_once (moves : List (Move ε)) (hlast : (run moves).Lasting) :
    let s := run moves
    (∀ owner ∈ s.held, s.timesEntered owner.action = 0)
    ∧ (∀ id ∈ s.refused, s.timesEntered id = 0)
    ∧ (∀ id, s.timesEntered id ≤ 1)
    ∧ (s.flush.Lasting → s.held = [] → s.disposing = [] →
        (∀ owner ∈ s.accepted, s.close.timesEntered owner.action = 1)
        ∧ ∀ id ∈ s.refused, s.close.timesEntered id = 0) := by
  intro s
  have h : s.Coherent := coherent_run moves hlast
  have ht : s.registry.ledger.Tallied := tallied_run moves hlast
  refine ⟨fun owner ho => h.timesEntered_eq_zero ht ho, fun id hid => h.timesEntered_refused ht hid,
    fun id => ?_, ?_⟩
  · rw [timesEntered, ht]
    exact Bool.toNat_le _
  · intro hflush hgone hidle
    have hafter : s.flush.registry.ledger.Tallied := tallied_after h ht _ hflush
    -- When the registry goes, the flush has already released whatever there was.
    have hclose : ∀ id, s.close.timesEntered id = s.flush.timesEntered id := by
      intro id
      rw [timesEntered, h.ledger_close hflush hgone, timesEntered]
    constructor
    · intro owner ho
      rw [hclose]
      refine Coherent.timesEntered_of_done hafter (h.done_flush hflush hidle ho ?_)
      rw [hgone]
      exact List.not_mem_nil
    · intro id hid
      rw [hclose]
      exact (h.flush hflush).timesEntered_refused hafter ((sameProgram_flush s).refused ▸ hid)

/-- The first and the third handle are released, the second was refused. -/
theorem entered_once_exampleRun : (run exampleRun).Lasting ∧ (run exampleRun).flush.Lasting
    ∧ (run exampleRun).close.timesEntered 0 = 1 ∧ (run exampleRun).close.timesEntered 1 = 0
    ∧ (run exampleRun).close.timesEntered 2 = 1 := by
  have hlast : (run exampleRun).Lasting := by decide +kernel
  have hflush : (run exampleRun).flush.Lasting := by decide +kernel
  obtain ⟨-, -, -, hclose⟩ := entered_once exampleRun hlast
  obtain ⟨haccepted, hrefused⟩ := hclose hflush (by decide +kernel) (by decide +kernel)
  have howners : (run exampleRun).accepted.map Owner.action = [2, 0] := by decide +kernel
  have htimes : ∀ id ∈ (run exampleRun).accepted.map Owner.action,
      (run exampleRun).close.timesEntered id = 1 := by
    intro id hid
    obtain ⟨owner, ho, rfl⟩ := List.mem_map.mp hid
    exact haccepted owner ho
  rw [howners] at htimes
  exact ⟨hlast, hflush, htimes 0 (by simp), hrefused 1 (by decide +kernel), htimes 2 (by simp)⟩

end Custody.Estate

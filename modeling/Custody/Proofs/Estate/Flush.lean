import Custody.Proofs.Estate.Coherent

/-!
# Waiting for the daemon

While the daemon is waited for, it does nothing but take up notices and release what it has in
hand. That leaves the program as it was (`SameProgram`), and when it is over the daemon has
nothing in hand and no notice is left (`hand_flush`, `notices_flush`).

The wait is a list of moves (`Estate.errands`) that is fixed when it begins: as many releases as
there are entries in hand, and then for every notice the move that takes it and the one that
releases what it names. A notice whose entry has gone before leaves nothing to release, and the
release that was meant for it finds the hand empty, which changes nothing. So the list is long
enough in any case, and it never takes up anything that was not there when the wait began.
-/

namespace Custody.Estate

variable {ε : Type} {s s' s'' : Estate ε}

/-- What the daemon does leaves the owners of the program as they were. -/
structure SameProgram (s s' : Estate ε) : Prop where
  held : s'.held = s.held
  disposing : s'.disposing = s.disposing
  leaving : s'.leaving = s.leaving
  accepted : s'.accepted = s.accepted
  refused : s'.refused = s.refused
  dropped : s'.dropped = s.dropped

namespace SameProgram

theorem refl (s : Estate ε) : SameProgram s s := ⟨rfl, rfl, rfl, rfl, rfl, rfl⟩

/-- What is the same before and after each of two stretches is so over both. -/
theorem trans (h : SameProgram s s') (h' : SameProgram s' s'') : SameProgram s s'' where
  held := h'.held.trans h.held
  disposing := h'.disposing.trans h.disposing
  leaving := h'.leaving.trans h.leaving
  accepted := h'.accepted.trans h.accepted
  refused := h'.refused.trans h.refused
  dropped := h'.dropped.trans h.dropped

/-- The daemon takes up an entry, and the program does not see it. -/
theorem takeUp (manner : Manner) (s : Estate ε) (key : SlotKey) :
    SameProgram s (takeUp manner s key) := by
  unfold Estate.takeUp
  split
  · exact refl s
  · exact ⟨rfl, rfl, rfl, rfl, rfl, rfl⟩

/-- The program does not see that several entries are taken up. -/
theorem takeUps (manner : Manner) (keys : List SlotKey) (s : Estate ε) :
    SameProgram s (keys.foldl (Estate.takeUp manner) s) := by
  induction keys generalizing s with
  | nil => exact refl s
  | cons key keys ih => exact (takeUp manner s key).trans (ih _)

/-- The program does not see that a notice is taken. -/
theorem notice (s : Estate ε) : SameProgram s s.notice := by
  unfold Estate.notice
  split
  · exact refl s
  · rename_i key waiting _
    have h := takeUp .notice { s with registry := { s.registry with notices := waiting } } key
    exact ⟨h.held, h.disposing, h.leaving, h.accepted, h.refused, h.dropped⟩

/-- The program does not see that an entry is released. -/
theorem release (s : Estate ε) : SameProgram s s.release := by
  unfold Estate.release
  split
  · exact refl s
  · exact ⟨rfl, rfl, rfl, rfl, rfl, rfl⟩

end SameProgram

/-! ## Errands -/

/-- The errands of the daemon are of two kinds. -/
theorem mem_errands {move : Move ε} (h : move ∈ s.errands) : move = .notice ∨ move = .release := by
  unfold errands at h
  cases List.mem_append.mp h with
  | inl hmem => exact Or.inr (List.eq_of_mem_replicate hmem)
  | inr hmem =>
    obtain ⟨pair, hpair, hmove⟩ := List.mem_flatten.mp hmem
    rw [List.eq_of_mem_replicate hpair] at hmove
    simpa using hmove

/-- **Errands leave the program where it is.** -/
theorem SameProgram.after {moves : List (Move ε)}
    (h : ∀ move ∈ moves, move = .notice ∨ move = .release) : SameProgram s (s.after moves) := by
  induction moves generalizing s with
  | nil => exact refl s
  | cons move moves ih =>
    have hrest := ih (s := s.step move) fun other hother => h other (List.mem_cons_of_mem _ hother)
    refine SameProgram.trans ?_ hrest
    cases h move List.mem_cons_self with
    | inl heq => exact heq ▸ notice s
    | inr heq => exact heq ▸ release s

/-- **The program is as it was** after the daemon has been waited for. -/
theorem sameProgram_flush (s : Estate ε) : SameProgram s s.flush :=
  SameProgram.after fun _ hmove => mem_errands hmove

/-- To take up an entry runs nothing. -/
theorem ledger_takeUp (manner : Manner) (s : Estate ε) (key : SlotKey) :
    (takeUp manner s key).registry.ledger = s.registry.ledger := by
  have hkept := s.registry.withdraw_ledger key
  unfold takeUp
  split
  · rfl
  · rename_i heq
    rwa [heq] at hkept

theorem ledger_takeUps (manner : Manner) (keys : List SlotKey) (s : Estate ε) :
    (keys.foldl (takeUp manner) s).registry.ledger = s.registry.ledger := by
  induction keys generalizing s with
  | nil => rfl
  | cons key keys ih => exact (ih _).trans (ledger_takeUp manner s key)

/-- To take a notice runs nothing. -/
theorem ledger_notice (s : Estate ε) : s.notice.registry.ledger = s.registry.ledger := by
  unfold notice
  split
  · rfl
  · exact ledger_takeUp .notice _ _

/-- Each release empties the hand by one entry. -/
theorem hand_release (s : Estate ε) : s.release.hand = s.hand.tail := by
  unfold release
  cases hhand : s.hand with
  | nil => exact hhand
  | cons first rest => rfl

theorem notices_release (s : Estate ε) : s.release.registry.notices = s.registry.notices := by
  unfold release
  split
  · rfl
  · rfl

theorem notices_takeUp (manner : Manner) (s : Estate ε) (key : SlotKey) :
    (takeUp manner s key).registry.notices = s.registry.notices := by
  have hkept := s.registry.withdraw_notices key
  unfold takeUp
  split
  · rfl
  · rename_i heq
    rwa [heq] at hkept

/-- Each notice that is taken shortens the queue by one. -/
theorem notices_notice (s : Estate ε) : s.notice.registry.notices = s.registry.notices.tail := by
  unfold notice
  split
  · rename_i hnil
    rw [hnil]
    rfl
  · rename_i key waiting hcons
    rw [hcons]
    exact notices_takeUp .notice _ key

/-- The daemon takes one entry into its hand for a notice, or none. -/
theorem hand_notice_tail (h : s.hand = []) : s.notice.hand.tail = [] := by
  unfold notice
  split
  · rw [h]
    rfl
  · unfold takeUp
    split
    · exact congrArg List.tail h
    · rw [h]
      rfl

/-- The daemon empties its hand. -/
theorem after_releases (hand : List (Manner × Entry)) (h : s.hand = hand) :
    (s.after (List.replicate hand.length .release)).hand = []
      ∧ (s.after (List.replicate hand.length .release)).registry.notices = s.registry.notices := by
  induction hand generalizing s with
  | nil => exact ⟨h, rfl⟩
  | cons first rest ih =>
    have hrest := ih (s := s.release) (by rw [hand_release, h]; rfl)
    rw [notices_release] at hrest
    exact hrest

/-- The daemon takes up one notice after the other. -/
theorem after_chores (notices : List SlotKey) (h : s.hand = [])
    (hnotices : s.registry.notices = notices) :
    (s.after (List.replicate notices.length [.notice, .release]).flatten).hand = []
      ∧ (s.after (List.replicate notices.length [.notice, .release]).flatten).registry.notices
        = [] := by
  induction notices generalizing s with
  | nil => exact ⟨h, hnotices⟩
  | cons key rest ih =>
    -- One notice puts at most one entry into an empty hand, and the release takes it out again.
    refine ih (s := s.notice.release) ?_ ?_
    · rw [hand_release, hand_notice_tail h]
    · rw [notices_release, notices_notice, hnotices]
      rfl

/-- **After the wait the daemon has nothing in hand, and no notice waits.** -/
theorem flush_idle (s : Estate ε) : s.flush.hand = [] ∧ s.flush.registry.notices = [] := by
  obtain ⟨hhand, hnotices⟩ := after_releases s.hand rfl
  rw [flush, errands, after_append, ← hnotices]
  exact after_chores _ hhand rfl

/-- **The daemon has nothing in hand** when it has been waited for. -/
theorem hand_flush (s : Estate ε) : s.flush.hand = [] := s.flush_idle.1

/-- **No notice is left** when the daemon has been waited for. -/
theorem notices_flush (s : Estate ε) : s.flush.registry.notices = [] := s.flush_idle.2

end Custody.Estate

import Custody.Proofs.Estate.Flush

/-!
# Operations as moves

The operations of a registry are done in one go, while an estate makes them in several moves.
Here each of them is put down as the moves that it stands for: made one after the other, with
nothing in between, they lead to the same registry. What holds of every run of moves holds
therefore of every program that uses a registry through its operations, with the daemon taking
its turns in between.

For an operation that the program makes there is a sequence of moves by one owner; for the daemon
there are its errands (`Estate.errands`) and its sweep (`Estate.sweeping`). The equations are about
the registry alone. What else an estate keeps, the lists of owners that are held or dropped, is no
part of a registry, and is what makes the statements about runs possible.
-/

namespace Custody.Estate

variable {ε : Type} {s : Estate ε} {owner : Owner} {key : SlotKey}

/-! ## The program -/

/-- What an owner does that disposes of its handle. -/
def disposal (owner : Owner) : List (Move ε) := [.withdraw owner, .settle owner, .letGo owner]

/-- What an owner does that is dropped. -/
def departure (owner : Owner) : List (Move ε) := [.post owner, .letGo owner]

theorem registry_own (s : Estate ε) (handle : Handle) (domain : String) (effect : ε)
    (panics : Option String) : (s.step (.own handle domain effect panics)).registry
      = (s.registry.own handle domain ⟨effect, panics, none⟩).2 := by
  show (s.own handle domain ⟨effect, panics, none⟩).registry = _
  unfold own
  cases s.registry.own handle domain ⟨effect, panics, none⟩ with
  | mk result registry =>
    cases result with
    | ok owner => rfl
    | error abort => rfl

theorem after_disposal (ho : owner ∈ s.held) : s.after (disposal owner)
    = ((s.withdraw owner).settle owner (s.registry.withdraw owner.key).1).letGo owner := by
  simp [after, disposal, step, ho, withdraw, settle]

theorem registry_disposal (ho : owner ∈ s.held) :
    (s.after (disposal owner)).registry = (s.registry.dispose owner).2 := by
  rw [after_disposal ho]
  rfl

theorem registry_departure (ho : owner ∈ s.held) :
    (s.after (departure owner)).registry = (s.registry.abandon owner).2 := by
  simp [after, departure, step, ho, post, letGo, Registry.abandon]

/-- Lending an owner to a body is what the body does and then the disposal of the owner. -/
theorem registry_lend {α : Type} (moves : List (Move ε))
    (body : Registry ε → Except Abort α × Registry ε)
    (hbody : (body s.registry).2 = (s.after moves).registry) (ho : owner ∈ (s.after moves).held) :
    (s.after (moves ++ disposal owner)).registry = (s.registry.lend owner body).2 := by
  rw [after_append, registry_disposal ho, ← hbody]
  rfl

/-! ## The daemon -/

theorem quiet_notice (h : s.registry.ledger.Quiet) : s.notice.registry.ledger.Quiet := by
  rwa [ledger_notice]

theorem quiet_release (h : s.registry.ledger.Quiet) : s.release.registry.ledger.Quiet := by
  unfold release
  split
  · exact h
  · rename_i manner entry _ _
    exact (h.run s.registry.table.live entry.action).letGo entry.action

/-- What the daemon takes up by a notice is what the registry takes out of its table. -/
theorem notice_eq (s : Estate ε) : s.notice.registry = s.registry.takeNotice.2
    ∧ s.notice.hand = s.hand ++ s.registry.takeNotice.1.toList.map (Manner.notice, ·) := by
  unfold Registry.takeNotice
  cases hnotices : s.registry.notices with
  | nil => simp [notice, hnotices]
  | cons key waiting =>
    cases hfound : s.registry.table.find? key with
    | none =>
      rw [notice_of_find?_eq_none hnotices hfound]
      simp [Registry.withdraw_of_find?_eq_none { s.registry with notices := waiting } hfound]
    | some entry =>
      have htake := SlotTable.take_eq_some_iff.mpr ⟨hfound, rfl⟩
      rw [notice_of_take hnotices htake]
      simp [Registry.withdraw_of_take { s.registry with notices := waiting } htake]

/-- The daemon takes up a notice and releases what it names. -/
theorem registry_chore (hquiet : s.registry.ledger.Quiet) (hhand : s.hand = []) :
    s.notice.release.registry = s.registry.handleNext := by
  cases hnotices : s.registry.notices with
  | nil => simp [Registry.handleNext, Registry.takeNotice, notice, hnotices, release, hhand]
  | cons key waiting =>
    cases hfound : s.registry.table.find? key with
    | none =>
      rw [notice_of_find?_eq_none hnotices hfound,
        Registry.handleNext_of_find?_eq_none _ hnotices hfound]
      simp [release, hhand]
    | some entry =>
      have htake := SlotTable.take_eq_some_iff.mpr ⟨hfound, rfl⟩
      rw [notice_of_take hnotices htake, Registry.handleNext_of_take _ hquiet hnotices htake, hhand]
      rfl

/-- The daemon takes up one notice after the other. -/
theorem registry_chores (n : Nat) (hquiet : s.registry.ledger.Quiet) (hhand : s.hand = []) :
    (s.after (List.replicate n [.notice, .release]).flatten).registry
      = s.registry.handleUpTo n := by
  induction n generalizing s with
  | zero => rfl
  | succ n ih =>
    have hrest := ih (s := s.notice.release) (quiet_release (quiet_notice hquiet))
      (by rw [hand_release, hand_notice_tail hhand])
    rw [registry_chore hquiet hhand] at hrest
    exact hrest

/-- Waiting for the daemon. -/
theorem registry_flush (hquiet : s.registry.ledger.Quiet) (hhand : s.hand = []) :
    s.flush.registry = s.registry.flush := by
  rw [flush, errands, hhand, after_append]
  exact registry_chores _ hquiet hhand

/-- What the daemon does that sweeps. -/
def sweeping (s : Estate ε) : List (Move ε) :=
  .sweep :: List.replicate s.sweep.hand.length .release

/-- The daemon takes several entries into its hand. -/
theorem takeUps_eq (keys : List SlotKey) (s : Estate ε) :
    (keys.foldl (takeUp .sweep) s).registry
        = { s.registry with table := (s.registry.table.takeAll keys).2 }
      ∧ (keys.foldl (takeUp .sweep) s).hand
        = s.hand ++ (s.registry.table.takeAll keys).1.map (Manner.sweep, ·) := by
  induction keys generalizing s with
  | nil => simp [SlotTable.takeAll]
  | cons key keys ih =>
    cases htake : s.registry.table.take key with
    | none =>
      have hnone := (SlotTable.take_eq_none_iff _ _).mp htake
      have hrest := ih s
      rw [List.foldl_cons, takeUp_of_find?_eq_none _ hnone, SlotTable.takeAll, htake]
      exact hrest
    | some taken =>
      obtain ⟨entry, rest⟩ := taken
      have hrest := ih (takeUp .sweep s key)
      rw [List.foldl_cons, SlotTable.takeAll, htake]
      rw [takeUp_of_take _ htake] at hrest ⊢
      simpa using hrest

/-- What the daemon takes up by a sweep is what the registry gathers. -/
theorem sweep_eq (s : Estate ε) : s.sweep.registry = s.registry.gather.2
    ∧ s.sweep.hand = s.hand ++ s.registry.gather.1.map (Manner.sweep, ·) :=
  takeUps_eq s.registry.orphans s

/-- The daemon releases what it has in hand. -/
theorem registry_releases (entries : List Entry) (hquiet : s.registry.ledger.Quiet)
    (hhand : s.hand = entries.map (Manner.sweep, ·)) :
    (s.after (List.replicate entries.length .release)).registry = (s.registry.releaseAll entries).2
      ∧ (s.registry.releaseAll entries).1 = none := by
  induction entries generalizing s with
  | nil => exact ⟨rfl, rfl⟩
  | cons entry entries ih =>
    have hrelease := release_of_hand_eq hhand
    have hregistry : s.release.registry = (s.registry.release .sweep entry).2 := by rw [hrelease]
    have hrest := ih (s := s.release) (quiet_release hquiet) (by rw [hrelease])
    rw [hregistry] at hrest
    rw [Registry.releaseAll, Registry.release_of_quiet _ hquiet]
    exact hrest

/-- A sweep. -/
theorem registry_sweeping (hquiet : s.registry.ledger.Quiet) (hhand : s.hand = []) :
    s.registry.sweep = (s.sweep.hand.length, none, (s.after s.sweeping).registry) := by
  obtain ⟨hregistry, hswept⟩ := s.sweep_eq
  rw [hhand, List.nil_append] at hswept
  have hquiet' : s.sweep.registry.ledger.Quiet := by
    rw [hregistry]
    exact hquiet
  obtain ⟨hafter, hburst⟩ := registry_releases (s := s.sweep) _ hquiet' hswept
  have hlength : s.sweep.hand.length = s.registry.gather.1.length := by
    rw [hswept, List.length_map]
  have hsweeping : (s.after s.sweeping).registry
      = (s.sweep.registry.releaseAll s.registry.gather.1).2 := by
    rw [← hafter, sweeping, hlength]
    rfl
  unfold Registry.sweep
  rw [hsweeping, hlength]
  simp [← hregistry, hburst]

/-- The daemon sweeps on its own account. -/
theorem registry_sweepOnTime (hquiet : s.registry.ledger.Quiet) (hdaemon : s.registry.daemon = true)
    (hhand : s.hand = []) : (s.after s.sweeping).registry = s.registry.sweepOnTime := by
  rw [Registry.sweepOnTime, if_pos hdaemon, registry_sweeping hquiet hhand]

/-- The program asks for a sweep and waits for it: the daemon takes the notices first. -/
theorem registry_sweepNow (h : s.Coherent) (hlast : s.flush.Lasting) (hhand : s.hand = []) :
    (s.flush.after s.flush.sweeping).registry = s.registry.sweepNow.2 := by
  have hflush : s.flush.Coherent := h.after _ hlast
  simp only [Registry.sweepNow, if_pos h.daemon, ← registry_flush h.books.quiet hhand,
    if_pos hflush.daemon, registry_sweeping hflush.books.quiet s.hand_flush]

/-- Dropping the registry. -/
theorem registry_close (h : s.Coherent) (hlast : s.flush.Lasting) (hhand : s.hand = []) :
    s.close.registry = s.registry.close.2 := by
  have hflushed : s.flush.Coherent := h.after _ hlast
  have hdaemon := hflushed.daemon
  -- No notice is left, so that waiting for the daemon a second time does nothing.
  have hflush : s.registry.flush.flush = s.registry.flush := by
    rw [← registry_flush h.books.quiet hhand, Registry.flush, notices_flush]
    rfl
  rw [registry_flush h.books.quiet hhand] at hdaemon
  have hretire : s.registry.flush.retire = s.registry.retire := by
    rw [Registry.retire, if_pos hdaemon, Registry.retire, if_pos h.daemon, hflush]
  rw [close, registry_flush h.books.quiet hhand, Registry.close, Registry.close, hretire]

end Custody.Estate

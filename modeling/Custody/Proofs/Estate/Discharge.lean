import Custody.Proofs.Estate.Operations
import Mathlib.Data.List.Forall2

/-!
# What leaves the table is released

An account of entries over a run in which no owner comes (`Discharge`): what was in the table or
on its way in the beginning is still there in the end, or its release function was entered in
the meantime, with the handle of the entry and the effect of its action. Nothing gets lost, and
nothing is released that was not there.

The account is needed where somebody else keeps records of his own about what a registry answers
for, a native library with its contexts, say. It is stated without a word about such records: a list
of entries that were released, and a list of entries into release functions that this came to, of
the same length and in the same order. A run of several moves adds up to one account
(`Discharge.trans`), and the one move that is left out is that in which an owner comes, since it
adds to what there is to be answered for.
-/

namespace Custody.Estate

variable {ε : Type} {s s' s'' : Estate ε} {released released' : List Entry}
  {entered entered' : List (Entered ε)}

/-- Entering a release function on behalf of an entry. -/
structure Enters (ledger : Ledger ε) (entry : Entry) (entered : Entered ε) : Prop where
  /-- It is entered with the handle of the entry. -/
  handle : entered.handle = entry.handle
  /-- Its effect is that of the action of the entry. -/
  effect : ledger.effectOf? entry.action = some entered.effect

/-- **The account between two states**: which entries were released, and which entries into
release functions that came to. -/
structure Discharge (s s' : Estate ε) (released : List Entry) (entered : List (Entered ε)) :
    Prop where
  /-- What is not released is still there. -/
  conserved : (s.registry.table.entries ++ s.moving).Perm
    (released ++ (s'.registry.table.entries ++ s'.moving))
  /-- These release functions were entered. -/
  history : s'.registry.ledger.entered = s.registry.ledger.entered ++ entered
  /-- No action changes its effect. -/
  effects : ∀ id, s'.registry.ledger.effectOf? id = s.registry.ledger.effectOf? id
  /-- They were entered on behalf of these entries. -/
  behalf : List.Forall₂ (Enters s.registry.ledger) released entered

namespace Discharge

theorem refl (s : Estate ε) : Discharge s s [] [] where
  conserved := List.Perm.refl _
  history := (List.append_nil _).symm
  effects _ := rfl
  behalf := List.Forall₂.nil

/-- What two stretches release is what they release together. -/
theorem trans (h : Discharge s s' released entered) (h' : Discharge s' s'' released' entered') :
    Discharge s s'' (released ++ released') (entered ++ entered') where
  conserved := by
    rw [List.append_assoc]
    exact h.conserved.trans (h'.conserved.append_left _)
  history := by rw [h'.history, h.history, List.append_assoc]
  effects id := (h'.effects id).trans (h.effects id)
  behalf := List.rel_append h.behalf
    (h'.behalf.imp fun _ _ hb => ⟨hb.handle, (h.effects _).symm.trans hb.effect⟩)

/-- Entries that leave the table and are on their way. -/
theorem of_moving (hentries : (s.registry.table.entries ++ s.moving).Perm
      (s'.registry.table.entries ++ s'.moving))
    (hledger : s'.registry.ledger = s.registry.ledger) : Discharge s s' [] [] where
  conserved := hentries
  history := by rw [hledger, List.append_nil]
  effects id := by rw [hledger]
  behalf := List.Forall₂.nil

/-- An entry that was on its way is released. -/
theorem of_release (h : s.Coherent) {entry : Entry} (hmoving : s.moving.Perm (entry :: s'.moving))
    (htable : s'.registry.table = s.registry.table)
    (hledger : s'.registry.ledger
      = ((s.registry.ledger.run s.registry.table.live entry.action).2.letGo entry.action).2) :
    ∃ entered, Discharge s s' [entry] [entered] := by
  have hmem : entry ∈ s.moving := hmoving.mem_iff.mpr List.mem_cons_self
  obtain ⟨owner, ho, rfl⟩ := h.books.owned_moving entry hmem
  -- What is on its way is not done, so that its release function is entered now.
  have hopen := (h.books.located owner ho).not_done_of_moving hmem
  obtain ⟨entered, hhistory, hhandle, heffect⟩ := s.registry.ledger.entered_run_of_open
    s.registry.table.live owner.action (h.books.numbered owner ho).1 hopen
  rw [h.books.handled owner ho] at hhandle
  refine ⟨entered, ?_, ?_, ?_, ?_⟩
  · rw [htable]
    exact (hmoving.append_left _).trans List.perm_middle
  · rw [hledger, Ledger.entered_letGo]
    exact hhistory
  · intro id
    rw [hledger, Ledger.effectOf?_letGo, Ledger.effectOf?_run]
  · exact List.Forall₂.cons ⟨(Option.some.inj hhandle).symm, heffect⟩ List.Forall₂.nil

/-! ## Moves -/

/-- To take up an entry releases nothing: it is on its way from the table into the hand. -/
theorem takeUp (manner : Manner) (s : Estate ε) (key : SlotKey) :
    Discharge s (takeUp manner s key) [] [] := by
  cases htake : s.registry.table.take key with
  | none =>
    rw [takeUp_of_find?_eq_none _ ((SlotTable.take_eq_none_iff _ _).mp htake)]
    exact refl s
  | some taken =>
    obtain ⟨entry, rest⟩ := taken
    rw [takeUp_of_take _ htake]
    refine of_moving ?_ rfl
    have hmoving : (s.moving ++ [entry]).Perm (s.disposing.map (·.1.entry)
        ++ (s.hand ++ [(manner, entry)]).map (·.2)) := by
      rw [List.map_append, ← List.append_assoc]
      exact List.Perm.refl _
    refine ((SlotTable.entries_take htake).append_right _).trans ?_
    refine List.Perm.trans ?_ (hmoving.append_left _)
    rw [List.cons_append, ← List.append_assoc]
    exact (List.perm_append_singleton _ _).symm

/-- To take up several entries releases nothing. -/
theorem takeUps (manner : Manner) (keys : List SlotKey) (s : Estate ε) :
    Discharge s (keys.foldl (Estate.takeUp manner) s) [] [] := by
  induction keys generalizing s with
  | nil => exact refl s
  | cons key keys ih => exact (takeUp manner s key).trans (ih _)

/-- A notice brings its entry into the hand, or is too late. -/
theorem notice (s : Estate ε) : Discharge s s.notice [] [] := by
  unfold Estate.notice
  split
  · exact refl s
  · rename_i key waiting _
    have h := takeUp .notice { s with registry := { s.registry with notices := waiting } } key
    exact ⟨h.conserved, h.history, h.effects, h.behalf⟩

/-- **A release lets one entry of the hand go**, and enters its function if nobody has. -/
theorem release (h : s.Coherent) : ∃ released entered, Discharge s s.release released entered := by
  cases hhand : s.hand with
  | nil =>
    unfold Estate.release
    rw [hhand]
    exact ⟨[], [], refl s⟩
  | cons first rest =>
    obtain ⟨manner, entry⟩ := first
    have hmoving : s.moving.Perm (entry :: s.release.moving) := by
      rw [release_of_hand_eq hhand, moving, hhand]
      exact List.perm_middle
    have htable : s.release.registry.table = s.registry.table := by
      rw [release_of_hand_eq hhand, Registry.release_table]
    have hledger : s.release.registry.ledger
        = ((s.registry.ledger.run s.registry.table.live entry.action).2.letGo entry.action).2 := by
      rw [release_of_hand_eq hhand]
      rfl
    obtain ⟨entered, hdischarge⟩ := of_release h hmoving htable hledger
    exact ⟨[entry], [entered], hdischarge⟩

/-- An owner that withdraws its entry has it in hand. -/
theorem withdraw (h : s.Coherent) {owner : Owner} (ho : owner ∈ s.held) :
    Discharge s (s.withdraw owner) [] [] := by
  obtain ⟨rest, htake⟩ := h.take_of_held ho
  unfold Estate.withdraw
  rw [Registry.withdraw_of_take _ htake]
  refine of_moving ?_ rfl
  refine ((SlotTable.entries_take htake).append_right _).trans ?_
  exact List.perm_middle.symm

/-- **An owner that settles lets its entry go.** -/
theorem settle (h : s.Coherent) {owner : Owner} {taken : Option Entry}
    (ho : (owner, taken) ∈ s.disposing) :
    ∃ released entered, Discharge s (s.settle owner taken) released entered := by
  obtain ⟨-, htaken⟩ := h.own_entry _ ho
  obtain rfl : taken = some owner.entry := htaken
  have hmoving : s.moving.Perm (owner.entry :: (s.settle owner (some owner.entry)).moving) :=
    ((List.perm_cons_erase ho).map (·.1.entry)).append_right _
  obtain ⟨entered, hdischarge⟩ := of_release h hmoving (Registry.settle_table ..)
    (Registry.settle_some_ledger ..)
  exact ⟨_, _, hdischarge⟩

/-- Every move but that by which an owner comes is a discharge. -/
theorem step (h : s.Coherent) (move : Move ε)
    (hmove : ∀ handle domain effect panics, move ≠ .own handle domain effect panics) :
    ∃ released entered, Discharge s (s.step move) released entered := by
  refine step_induction (motive := fun s' => ∃ released entered, Discharge s s' released entered)
    move ?own ?withdraw ?settle ?post ?letGo ?notice ?sweep ?release ?nothing
  case own => exact fun handle domain effect panics heq => absurd heq (hmove _ _ _ _)
  case withdraw => exact fun owner ho => ⟨[], [], withdraw h ho⟩
  case settle => exact fun owner taken ho => settle h ho
  case post =>
    intro owner _
    rw [post, Registry.post_of_daemon _ _ h.daemon]
    exact ⟨[], [], of_moving (List.Perm.refl _) rfl⟩
  case letGo =>
    intro owner _
    refine ⟨[], [], List.Perm.refl _, ?_, ?_, List.Forall₂.nil⟩
    · rw [letGo, Registry.letGo_snd, Ledger.entered_letGo, Ledger.entered_kill, List.append_nil]
    · intro id
      rw [letGo, Registry.letGo_snd, Ledger.effectOf?_letGo]
      rfl
  case notice => exact ⟨[], [], notice s⟩
  case sweep => exact ⟨[], [], takeUps .sweep _ s⟩
  case release => exact release h
  case nothing => exact ⟨[], [], refl s⟩

/-- **The account of a run** in which no owner comes. -/
theorem after (h : s.Coherent) (moves : List (Move ε)) (hlast : (s.after moves).Lasting)
    (hmoves : ∀ move ∈ moves, ∀ handle domain effect panics,
      move ≠ .own handle domain effect panics) :
    ∃ released entered, Discharge s (s.after moves) released entered := by
  induction moves generalizing s with
  | nil => exact ⟨[], [], refl s⟩
  | cons move moves ih =>
    have hstep : (s.step move).Lasting := (ages_after (s.step move) moves).lasting hlast
    obtain ⟨released, entered, hfirst⟩ := step h move (hmoves move List.mem_cons_self)
    obtain ⟨released', entered', hrest⟩ := ih (h.step move hstep) hlast
      fun other hother => hmoves other (List.mem_cons_of_mem _ hother)
    exact ⟨_, _, hfirst.trans hrest⟩

end Discharge

end Custody.Estate

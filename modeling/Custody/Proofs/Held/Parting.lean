import Custody.Proofs.Held.Calm
import Custody.Proofs.Held.Steps

/-!
# Owners that were dropped

An owner that is dropped leaves its entry in the table, with a notice for the daemon. From then on
the daemon may take the entry into its hand in any of its turns, for the notice or in a sweep, and
release it in a later one. `Parting` says where the entry can be meanwhile: in the table or in the
hand of the daemon, and then its context has not been freed, or in neither, and then its context has
been freed once. What the daemon does keeps this, turn by turn (`Parting.turn`). When it has been
waited for, no notice is left and nothing is in its hand, so that the context has been freed
(`abandon_of_holds`).

Other entries go at the same time. They have other addresses, so that what is freed with them is
told apart by its address.

The daemon may take up the entry in one turn and release it in a later one, with steps of the
program in between. The invariant therefore speaks of the registry and of the hand of the daemon
together, and there is one lemma for each thing that the daemon can do in a turn. That the context
is freed once, and not twice, rests on the key of the entry: once it has left the table nothing is
found under that key any more.
-/

namespace Custody.Held

variable {σ : Type}

/-! ## Registries -/

section Registry

variable {registry registry' : Registry Domain} {hand hand' : List Entry} {owner : Owner}
  {domain : Domain} {made : Nat} {freed : List (Address × Domain)}

/-- **An owner that was dropped**, in a registry that has made some entries and freed some contexts,
and whose daemon has some entries in hand. -/
structure Parting (registry : Registry Domain) (hand : List Entry) (owner : Owner) (domain : Domain)
    (made : Nat) (freed : List (Address × Domain)) : Prop where
  /-- The table agrees with itself. -/
  sound : registry.table.Sound
  /-- No release function panics when it is destroyed. -/
  quiet : registry.ledger.Quiet
  /-- The actions of the entries are bound to their handles. -/
  bound : ∀ other ∈ registry.table.entries ++ hand,
    registry.ledger.handleOf? other.action = some other.handle
  /-- No two entries have the same address. -/
  nodup : ((registry.table.entries ++ hand).map Entry.address).Nodup
  /-- So many entries were made. -/
  registered : registry.counters.registered = made
  /-- While the entry of the owner is in the table, its notice waits. -/
  noticed : owner.entry ∈ registry.table.entries →
    registry.table.find? owner.key = some owner.entry ∧ owner.key ∈ registry.notices
  /-- The context of the owner is still to be freed, or it has been freed once. -/
  fate : (owner.entry ∈ registry.table.entries ++ hand
      ∧ registry.ledger.isCompleted owner.action = false
      ∧ registry.ledger.effectOf? owner.action = some domain
      ∧ (freed ++ registry.ledger.entered.map Entered.context).filter (·.1 = owner.entry.address)
        = [])
    ∨ (owner.entry.address ∉ (registry.table.entries ++ hand).map Entry.address
      ∧ (freed ++ registry.ledger.entered.map Entered.context).filter (·.1 = owner.entry.address)
        = [(owner.entry.address, domain)])

namespace Parting

/-- Entries move between the table and the hand of the daemon. -/
theorem move (h : Parting registry hand owner domain made freed) (hsound : registry'.table.Sound)
    (hledger : registry'.ledger = registry.ledger)
    (hcounters : registry'.counters = registry.counters)
    (hperm : (registry'.table.entries ++ hand').Perm (registry.table.entries ++ hand))
    (hnoticed : owner.entry ∈ registry'.table.entries →
      registry'.table.find? owner.key = some owner.entry ∧ owner.key ∈ registry'.notices) :
    Parting registry' hand' owner domain made freed where
  sound := hsound
  quiet := hledger ▸ h.quiet
  bound other hother := hledger ▸ h.bound other (hperm.mem_iff.mp hother)
  nodup := (hperm.map Entry.address).nodup_iff.mpr h.nodup
  registered := hcounters ▸ h.registered
  noticed := hnoticed
  fate := by
    rw [hledger, hperm.mem_iff, (hperm.map Entry.address).mem_iff]
    exact h.fate

/-- A notice that finds nothing is thrown away. -/
theorem late (h : Parting registry hand owner domain made freed) {other : SlotKey}
    {waiting : List SlotKey} (hnotices : registry.notices = other :: waiting)
    (hfound : registry.table.find? other = none) :
    Parting { registry with notices := waiting } hand owner domain made freed := by
  refine h.move h.sound rfl rfl (List.Perm.refl _) fun hentry => ?_
  obtain ⟨hfind, hkey⟩ := h.noticed hentry
  rw [hnotices, List.mem_cons] at hkey
  refine ⟨hfind, hkey.resolve_left fun heq => ?_⟩
  rw [heq, hfound] at hfind
  cases hfind

/-- An entry is taken out of the table and into the hand of the daemon. -/
theorem take (h : Parting registry hand owner domain made freed) {other : SlotKey} {taken : Entry}
    {rest : SlotTable} (htake : registry.table.take other = some (taken, rest)) :
    Parting { registry with table := rest } (hand ++ [taken]) owner domain made freed := by
  have hentries := SlotTable.entries_take htake
  have hperm : (rest.entries ++ (hand ++ [taken])).Perm (registry.table.entries ++ hand) := by
    rw [← List.append_assoc]
    exact (List.perm_append_singleton _ _).trans (hentries.append_right hand).symm
  refine h.move (h.sound.take htake) rfl rfl hperm fun hentry => ?_
  obtain ⟨hfind, hkey⟩ := h.noticed (hentries.mem_iff.mpr (List.mem_cons_of_mem _ hentry))
  refine ⟨?_, hkey⟩
  rw [SlotTable.find?_take htake, if_neg, hfind]
  -- Its slot is another one, for it would have been the entry that was taken.
  intro hindex
  have hfound := SlotTable.find?_of_take htake
  have hsame := SlotTable.key_eq_of_index_eq hfind hfound hindex
  rw [hsame, hfound] at hfind
  rw [← Option.some.inj hfind] at hentry
  exact (List.nodup_cons.mp (hentries.nodup_iff.mp h.sound.entries_nodup)).1 hentry

/-- **The daemon takes up a notice.** -/
theorem takeNotice (h : Parting registry hand owner domain made freed) :
    Parting registry.takeNotice.2 (hand ++ registry.takeNotice.1.toList) owner domain made
      freed := by
  cases hnotices : registry.notices with
  | nil =>
    rw [registry.takeNotice_of_nil hnotices, Option.toList_none, List.append_nil]
    exact h
  | cons other waiting =>
    rw [registry.takeNotice_of_cons hnotices]
    cases hfound : registry.table.find? other with
    | none =>
      rw [Registry.withdraw_of_find?_eq_none { registry with notices := waiting } hfound,
        Option.toList_none, List.append_nil]
      exact h.late hnotices hfound
    | some taken =>
      have htake := SlotTable.take_eq_some_iff.mpr ⟨hfound, rfl⟩
      rw [Registry.withdraw_of_take { registry with notices := waiting } htake]
      exact (h.take htake).late hnotices ((SlotTable.find?_take htake other).trans (if_pos rfl))

theorem takeAll (h : Parting registry hand owner domain made freed) (keys : List SlotKey) :
    Parting { registry with table := (registry.table.takeAll keys).2 }
      (hand ++ (registry.table.takeAll keys).1) owner domain made freed := by
  induction keys generalizing registry hand with
  | nil =>
    rw [SlotTable.takeAll, List.append_nil]
    exact h
  | cons other keys ih =>
    cases htake : registry.table.take other with
    | none =>
      rw [SlotTable.takeAll, htake]
      exact ih h
    | some taken =>
      have hrest := ih (h.take htake)
      rw [List.append_assoc] at hrest
      rw [SlotTable.takeAll, htake]
      exact hrest

/-- **The daemon gathers the orphans.** -/
theorem gather (h : Parting registry hand owner domain made freed) :
    Parting registry.gather.2 (hand ++ registry.gather.1) owner domain made freed :=
  h.takeAll registry.orphans

/-- What is freed with an entry of another address is told apart by that. -/
theorem filter_run_of_ne {taken entry : Entry} (hne : taken.address ≠ entry.address)
    (hbound : registry.ledger.handleOf? taken.action = some taken.handle) (live : List Address) :
    (freed ++ (registry.ledger.run live taken.action).2.entered.map Entered.context).filter
        (·.1 = entry.address)
      = (freed ++ registry.ledger.entered.map Entered.context).filter (·.1 = entry.address) := by
  obtain ⟨entered, hentered, hhandle⟩ := registry.ledger.exists_entered_run live taken.action hbound
  have hother : (entered.map Entered.context).filter (·.1 = entry.address) = [] := by
    rw [List.filter_eq_nil_iff, List.forall_mem_map]
    intro other hother
    rw [Entered.context, hhandle other hother, decide_eq_true_eq]
    exact hne
  rw [hentered, List.map_append, ← List.append_assoc, List.filter_append, hother, List.append_nil]

/-- **The daemon releases an entry.** -/
theorem release {taken : Entry} (h : Parting registry (taken :: hand) owner domain made freed)
    (manner : Manner) :
    Parting (registry.release manner taken).2 hand owner domain made freed := by
  have hperm : (registry.table.entries ++ taken :: hand).Perm
      (taken :: (registry.table.entries ++ hand)) := List.perm_middle
  obtain ⟨hout, hnodup⟩ := List.nodup_cons.mp ((hperm.map Entry.address).nodup_iff.mp h.nodup)
  have hbound := h.bound taken (hperm.mem_iff.mpr List.mem_cons_self)
  refine
    { sound := h.sound
      quiet := (h.quiet.run registry.table.live taken.action).letGo taken.action
      bound := fun other hother => ?_
      nodup := hnodup
      registered := (registry.registered_release manner taken).trans h.registered
      noticed := h.noticed
      fate := ?_ }
  · rw [← h.bound other (hperm.mem_iff.mpr (List.mem_cons_of_mem _ hother))]
    exact (Ledger.handleOf?_letGo _ _ _).trans (Ledger.handleOf?_run _ _ _ _)
  · rw [Registry.release_table, Registry.release_ledger, Ledger.entered_letGo,
      Ledger.isCompleted_letGo, Ledger.effectOf?_letGo, Ledger.effectOf?_run]
    rcases h.fate with ⟨hmem, hopen, heffect, hfreed⟩ | ⟨hgone, hfreed⟩
    · rcases List.mem_cons.mp (hperm.mem_iff.mp hmem) with hthis | hstill
      · -- This is the entry, and now its context is freed.
        subst hthis
        refine .inr ⟨hout, ?_⟩
        obtain ⟨entered, hentered, hhandle, heffect'⟩ := registry.ledger.entered_run_of_open
          registry.table.live owner.entry.action (registry.ledger.lt_of_handleOf? hbound) hopen
        have hcontext : entered.context = (owner.entry.address, domain) :=
          Prod.ext (congrArg Handle.address (Option.some.inj (hhandle.symm.trans hbound)))
            (Option.some.inj (heffect'.symm.trans heffect))
        rw [hentered, List.map_append, ← List.append_assoc, List.filter_append, hfreed]
        simp [hcontext]
      · have hne : taken.address ≠ owner.entry.address := fun heq =>
          hout (heq ▸ List.mem_map_of_mem hstill)
        refine .inl ⟨hstill, ?_, heffect, by rw [filter_run_of_ne hne hbound, hfreed]⟩
        rw [Ledger.isCompleted_run, if_neg, hopen]
        -- One action is bound to one handle.
        intro haction
        rw [← haction] at hbound
        have hbound := (h.bound owner.entry hmem).symm.trans hbound
        exact hne (congrArg Handle.address (Option.some.inj hbound)).symm
    · have hgone' := fun hc => hgone ((hperm.map Entry.address).mem_iff.mpr hc)
      refine .inr ⟨fun hc => hgone' (List.mem_cons_of_mem _ hc), ?_⟩
      rw [filter_run_of_ne (fun heq => hgone' (heq ▸ List.mem_cons_self)) hbound, hfreed]

/-- **The owner lets go of its action.** -/
theorem letGo (h : Parting registry hand owner domain made freed) :
    Parting (registry.letGo owner).2 hand owner domain made freed where
  sound := h.sound
  quiet := by
    have hquiet : (registry.ledger.kill owner.token).Quiet := h.quiet
    exact hquiet.letGo owner.action
  bound other hother := (Ledger.handleOf?_letGo _ _ _).trans (h.bound other hother)
  nodup := h.nodup
  registered := h.registered
  noticed := h.noticed
  fate := by
    rw [Registry.letGo_snd, Ledger.isCompleted_letGo, Ledger.effectOf?_letGo, Ledger.entered_letGo]
    exact h.fate

theorem handleNext (h : Parting registry [] owner domain made freed) :
    Parting registry.handleNext [] owner domain made freed := by
  have htaken := h.takeNotice
  unfold Registry.handleNext
  cases hnotice : registry.takeNotice with
  | mk taken rest =>
    rw [hnotice] at htaken
    cases taken with
    | none => exact htaken
    | some taken =>
      have hreleased := htaken.release .notice
      simp only
      rw [rest.release_of_quiet htaken.quiet .notice taken]
      exact hreleased

theorem handleUpTo (h : Parting registry [] owner domain made freed) (bound : Nat) :
    Parting (registry.handleUpTo bound) [] owner domain made freed := by
  induction bound generalizing registry with
  | zero => exact h
  | succ bound ih => exact ih h.handleNext

theorem notices_handleUpTo (h : Parting registry [] owner domain made freed) (bound : Nat) :
    (registry.handleUpTo bound).notices = registry.notices.drop bound := by
  induction bound generalizing registry with
  | zero => rfl
  | succ bound ih =>
    have hrest := ih h.handleNext
    rw [registry.handleNext_notices h.quiet, List.drop_tail] at hrest
    exact hrest

/-- What was freed is counted among what had been freed before. -/
theorem settle (h : Parting registry hand owner domain made freed) :
    Parting { registry with ledger := { registry.ledger with entered := [] } } hand owner domain
      made (freed ++ registry.ledger.entered.map Entered.context) where
  sound := h.sound
  quiet := h.quiet
  bound := h.bound
  nodup := h.nodup
  registered := h.registered
  noticed := h.noticed
  fate := by
    rw [List.map_nil, List.append_nil]
    exact h.fate

/-- **When nothing is left to be done, the context has been freed once.** -/
theorem filter_of_idle (h : Parting registry [] owner domain made freed)
    (hnotices : registry.notices = []) (hentered : registry.ledger.entered = []) :
    freed.filter (·.1 = owner.handle.address) = [(owner.handle.address, domain)] := by
  have hfate := h.fate
  rw [hentered, List.map_nil, List.append_nil, List.append_nil] at hfate
  rcases hfate with ⟨hmem, -⟩ | ⟨-, hfreed⟩
  · have hkey := (h.noticed hmem).2
    rw [hnotices] at hkey
    cases hkey
  · exact hfreed

end Parting

end Registry

/-! ## Worlds -/

section Worlds

variable {backend : Backend σ} {world before : World (Recorded σ)} {owner : Owner}
  {domain : Domain}

/-- **A world in which an owner has been dropped** since an earlier one, in which as many entries
had been made. -/
def World.Departing (world before : World (Recorded σ)) (owner : Owner) (domain : Domain) : Prop :=
  ∃ freed, disposals world.native.log = disposals before.native.log ++ freed
    ∧ Parting world.registry (world.hand.map (·.2)) owner domain before.registry.counters.registered
      freed
    ∧ world.registry.ledger.entered = []

/-- **A context has been freed once** since an earlier world, whatever else has been freed. -/
def FreedOnceSince (before world : World (Recorded σ)) (context : Address × Domain) : Prop :=
  ∃ freed, disposals world.native.log = disposals before.native.log ++ freed
    ∧ freed.filter (·.1 = context.1) = [context]

namespace World.Departing

/-- A step in which the registry may free contexts. -/
theorem custody {α : Type} {step : Registry Domain → α × Registry Domain}
    {hand : List (Manner × Entry)} (h : world.Departing before owner domain)
    (hstep : ∀ {made freed}, Parting world.registry (world.hand.map (·.2)) owner domain made freed →
      Parting (step world.registry).2 (hand.map (·.2)) owner domain made freed) :
    (World.custody (.ofBackend backend.recorded) step { world with hand := hand }).2.Departing
      before owner domain := by
  obtain ⟨freed, hfreed, hparting, -⟩ := h
  refine ⟨freed ++ (step world.registry).2.ledger.entered.map Entered.context, ?_,
    (hstep hparting).settle, rfl⟩
  rw [← List.append_assoc, ← hfreed]
  exact disposals_free _ _ _

/-- The daemon takes up entries, which frees nothing yet. -/
theorem takeUp (h : world.Departing before owner domain) (manner : Manner)
    {entries : List Entry} {registry : Registry Domain}
    (hledger : registry.ledger = world.registry.ledger)
    (hstep : ∀ {made freed}, Parting world.registry (world.hand.map (·.2)) owner domain made freed →
      Parting registry (world.hand.map (·.2) ++ entries) owner domain made freed) :
    (world.takeUp manner entries registry).Departing before owner domain := by
  obtain ⟨freed, hfreed, hparting, hentered⟩ := h
  refine ⟨freed, hfreed, ?_, (congrArg Ledger.entered hledger).trans hentered⟩
  have hhand : (world.hand ++ entries.map (manner, ·)).map (·.2)
      = world.hand.map (·.2) ++ entries := by
    rw [List.map_append, List.map_map]
    exact congrArg _ (List.map_id entries)
  exact hhand ▸ hstep hparting

theorem release (h : world.Departing before owner domain) :
    (World.release (.ofBackend backend.recorded) world).2.Departing before owner domain := by
  unfold World.release
  cases hhand : world.hand with
  | nil => exact h
  | cons first rest =>
    obtain ⟨manner, taken⟩ := first
    have hreleased : (World.custody (.ofBackend backend.recorded)
        (fun registry => registry.release manner taken) { world with hand := rest }).2.Departing
        before owner domain := by
      refine h.custody fun hparting => ?_
      rw [hhand] at hparting
      exact hparting.release manner
    -- The ledger is quiet, so that the daemon outlives the release.
    have hburst : (World.custody (.ofBackend backend.recorded)
        (fun registry => registry.release manner taken) { world with hand := rest }).1 = none := by
      obtain ⟨_, _, hparting, _⟩ := h
      exact congrArg Prod.fst (world.registry.release_of_quiet hparting.quiet manner taken)
    simp only
    cases hcustody : World.custody (.ofBackend backend.recorded)
        (fun registry => registry.release manner taken) { world with hand := rest } with
    | mk burst world' =>
      rw [hcustody] at hreleased hburst
      obtain rfl : burst = none := hburst
      exact hreleased

/-- **The daemon takes a turn.** -/
theorem turn (h : world.Departing before owner domain) (turn : Turn) :
    (World.turn (.ofBackend backend.recorded) turn world).2.Departing before owner domain := by
  cases turn with
  | notice =>
    exact h.takeUp .notice world.registry.takeNotice_ledger fun hparting => hparting.takeNotice
  | sweep =>
    simp only [World.turn]
    split
    · exact h.takeUp .sweep rfl fun hparting => hparting.gather
    · exact h
  | release => exact h.release

theorem takeTurns (h : world.Departing before owner domain) (turns : List Turn) :
    (World.takeTurns (.ofBackend backend.recorded) turns world).2.Departing before owner
      domain := by
  induction turns generalizing world with
  | nil => exact h
  | cons turn turns ih => exact ih (h.turn turn)

theorem pause (h : world.Departing before owner domain) :
    (World.pause (.ofBackend backend.recorded) world).2.Departing before owner domain := by
  unfold World.pause
  split
  · exact h
  · rename_i batch rest _
    have hrest : { world with turns := rest }.Departing before owner domain := h
    exact hrest.takeTurns batch

/-- A step of the registry, with what the daemon does before it. -/
theorem entrust {α : Type} {step : Registry Domain → α × Registry Domain}
    (h : world.Departing before owner domain)
    (hstep : ∀ {registry hand made freed}, Parting registry hand owner domain made freed →
      Parting (step registry).2 hand owner domain made freed) :
    (Held.entrust (.ofBackend backend.recorded) step world).2.Departing before owner domain :=
  h.pause.custody hstep

/-- **When the daemon has been waited for, the context has been freed once.** -/
theorem flush (h : world.Departing before owner domain) :
    FreedOnceSince before (World.flush (.ofBackend backend.recorded) world).2
      (owner.handle.address, domain) := by
  have hfinish : (World.finish (.ofBackend backend.recorded) world).2.Departing before owner
      domain := h.takeTurns _
  have hhand := hand_finish (.ofBackend backend.recorded) world
  generalize hworld : (World.finish (.ofBackend backend.recorded) world).2 = finished
    at hfinish hhand
  have hflush : (World.flush (.ofBackend backend.recorded) world).2
      = (World.custody (.ofBackend backend.recorded) (fun registry => ((), registry.flush))
        { finished with hand := finished.hand }).2 := by
    rw [← hworld]
    rfl
  have hdone : (World.custody (.ofBackend backend.recorded) (fun registry => ((), registry.flush))
      { finished with hand := finished.hand }).2.Departing before owner domain := by
    refine hfinish.custody fun hparting => ?_
    rw [hhand] at hparting ⊢
    exact hparting.handleUpTo _
  have hnotices : finished.registry.flush.notices = [] := by
    obtain ⟨_, _, hparting, _⟩ := hfinish
    rw [hhand] at hparting
    rw [Registry.flush, hparting.notices_handleUpTo, List.drop_length]
  obtain ⟨freed, hfreed, hparted, hentered⟩ := hdone
  refine ⟨freed, by rw [hflush]; exact hfreed, ?_⟩
  have hempty : (World.custody (.ofBackend backend.recorded) (fun registry => ((), registry.flush))
      { finished with hand := finished.hand }).2.hand = [] := hhand
  rw [hempty] at hparted
  exact hparted.filter_of_idle hnotices hentered

end World.Departing

/-! ## Owners that go without disposing -/

/-- What there is to say about an entry while nothing is under way. -/
theorem World.Tidy.departing (h : world.Tidy) {freed : List (Address × Domain)}
    (hfreed : disposals world.native.log = disposals before.native.log ++ freed)
    (hregistered : world.registry.counters.registered = before.registry.counters.registered)
    (hnoticed : owner.entry ∈ world.registry.table.entries →
      world.registry.table.find? owner.key = some owner.entry
        ∧ owner.key ∈ world.registry.notices)
    (hfate : (owner.entry ∈ world.registry.table.entries
        ∧ world.registry.ledger.isCompleted owner.action = false
        ∧ world.registry.ledger.effectOf? owner.action = some domain
        ∧ freed.filter (·.1 = owner.handle.address) = [])
      ∨ (owner.handle.address ∉ world.registry.table.entries.map Entry.address
        ∧ freed.filter (·.1 = owner.handle.address) = [(owner.handle.address, domain)])) :
    world.Departing before owner domain := by
  have hall : world.registry.table.entries ++ [] = world.registry.table.entries :=
    List.append_nil _
  refine ⟨freed, hfreed, ?_, h.cleared⟩
  rw [h.hand]
  exact
    { sound := h.sound
      quiet := h.quiet
      bound := hall.symm ▸ h.bound
      nodup := hall.symm ▸ h.sound.addresses_nodup
      registered := hregistered
      noticed := hnoticed
      fate := by
        rw [List.map_nil, hall, h.cleared, List.map_nil, List.append_nil]
        exact hfate }

/-- **An owner that is dropped** has its context freed once by the time that the daemon has been
waited for, whatever turns the daemon takes in between. -/
theorem abandon_of_holds (backend : Backend σ) (h : world.Holds owner domain) :
    (abandon (.ofBackend backend.recorded) owner world).2.Departing world owner domain := by
  let posted : World (Recorded σ) := { world.next with
    registry := { world.registry with notices := world.registry.notices ++ [owner.key] } }
  have hpost : entrust (.ofBackend backend.recorded) (fun registry => registry.post owner) world
      = (.ok (), posted) := by
    have hpost := world.registry.post_of_daemon owner h.daemon
    have hentered : (world.registry.post owner).2.ledger.entered = [] := by
      rw [hpost]
      exact h.cleared
    rw [entrust_of_cleared h.toCalm hentered, hpost]
  have heffect : world.registry.ledger.effectOf? owner.action = some domain := by
    rw [Ledger.effectOf?, h.release]
    rfl
  have htidy : posted.Tidy := ⟨h.sound, h.quiet, h.bound, h.cleared, h.hand⟩
  have hposted : posted.Departing world owner domain :=
    htidy.departing (List.append_nil _).symm rfl
      (fun _ => ⟨h.found, List.mem_append_right _ (List.mem_singleton_self _)⟩)
      (.inl ⟨SlotTable.mem_entries.mpr ⟨owner.key, h.found⟩, h.waiting, heffect, rfl⟩)
  -- The daemon may take the entry up before the owner has let go of its action.
  have hgone : (entrust (.ofBackend backend.recorded) (fun registry => registry.letGo owner)
      posted).2.Departing world owner domain :=
    hposted.entrust fun hparting => hparting.letGo
  rw [← show (entrust (.ofBackend backend.recorded) (fun registry => registry.post owner) world).2
    = posted from congrArg Prod.snd hpost] at hgone
  exact hgone

end Worlds

end Custody.Held

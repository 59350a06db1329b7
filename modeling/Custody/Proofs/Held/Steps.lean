import Custody.Proofs.Held.Custody

/-!
# What each step does to a stake

The steps out of which the operations of a program are made. The daemon takes its turns before
each of them, which does not change what the program has at stake. A step of the registry moves
an owner on, and a step in which the library is used leaves the stake as it is, unless a context
is allocated: that one waits for an owner (`runs_allocate`), and it gets one, since no other
owner can have its address (`runs_own`).

The turns of the daemon are dealt with in one place, at the beginning of a step (`keeps_pause`).
From there on a step is its own action on a world whose daemon stands still. A step of the registry
is a few moves of the estate behind the world, and the rule for these (`runs_move`) asks what the
moves make of the stake; a step in which the library is used needs that the contexts of the request
are on the stake, which keeps the log proper.
-/

namespace Custody.Held

variable {σ α : Type} {library : Library σ} {stake : Stake} {s : Estate Domain}
  {world : World (Recorded σ)} {owner : Owner} {domain : Domain}

/-! ## The daemon -/

theorem stands_turn (turn : Turn) (h : Backs library stake s world)
    (hfit : Fit library (World.turn library.services turn world).2) :
    Stands library stake (World.turn library.services turn world).2 := by
  cases turn with
  | notice =>
    obtain ⟨hregistry, hhand⟩ := s.notice_eq
    rw [← h.registry] at hregistry hhand
    exact h.takeUp .notice (by simp [Spares]) (.notice s) s.ledger_notice hregistry hhand
      hfit.lasting
  | sweep =>
    obtain ⟨hregistry, hhand⟩ := s.sweep_eq
    rw [← h.registry] at hregistry hhand
    have hdaemon : world.registry.daemon = true := by rw [h.registry, h.coherent.daemon]
    simp only [World.turn, if_pos hdaemon] at hfit ⊢
    exact h.takeUp .sweep (by simp [Spares]) (.takeUps .sweep _ s) (s.ledger_takeUps .sweep _)
      hregistry hhand hfit.lasting
  | release => exact stands_release h hfit

/-- **The daemon may take a turn at any moment.** -/
theorem keeps_turn (turn : Turn) :
    Keeps library stake (World.turn library.services turn) := fun world =>
  ⟨(World.turned_turn world turn).grows, fun hfit ⟨_, h⟩ => stands_turn turn h hfit⟩

theorem keeps_takeTurns (turns : List Turn) :
    Keeps library stake (World.takeTurns library.services turns) := by
  induction turns with
  | nil => exact .pure () rfl
  | cons turn turns ih => exact .bind (keeps_turn turn) fun _ => ih

theorem keeps_pause : Keeps library stake (World.pause library.services) := by
  intro world
  unfold World.pause
  split
  · exact ⟨.refl world, fun _ h => h⟩
  · rename_i batch rest _
    have hturns : Keeps library stake (World.takeTurns library.services batch) :=
      keeps_takeTurns batch
    obtain ⟨hgrows, hstands⟩ := hturns { world with turns := rest }
    -- The turns that are still to come are no part of what has to stand.
    refine ⟨⟨hgrows.ages, hgrows.calls⟩, fun hfit ⟨s, h⟩ => hstands hfit ⟨s, ?_⟩⟩
    exact h.of_eq rfl rfl rfl

theorem keeps_finish : Keeps library stake (World.finish library.services) := fun world =>
  keeps_takeTurns (List.replicate world.hand.length .release) world

/-- The daemon has less in hand after it has released something. -/
theorem length_hand_release (services : Services σ) (world : World σ) :
    (World.release services world).2.hand.length ≤ world.hand.length - 1 := by
  unfold World.release
  split
  · exact Nat.le_of_eq (by simp [*])
  · rename_i manner entry rest heq
    rw [heq]
    split
    · rename_i world' hcustody
      have hhand : world'.hand = rest := (congrArg (fun result => result.2.hand) hcustody).symm
      exact Nat.le_of_eq (by rw [hhand]; simp)
    · exact Nat.zero_le _

theorem length_hand_releases (services : Services σ) (n : Nat) (world : World σ) :
    (World.takeTurns services (List.replicate n .release) world).2.hand.length
      ≤ world.hand.length - n := by
  induction n generalizing world with
  | zero => exact Nat.le_refl _
  | succ n ih =>
    have hfirst := length_hand_release services world
    have hrest := ih (World.release services world).2
    exact Nat.le_trans hrest (by omega)

/-- The daemon has nothing in hand when it has finished. -/
theorem hand_finish (services : Services σ) (world : World σ) :
    (World.finish services world).2.hand = [] := by
  have hlength := length_hand_releases services world.hand.length world
  rw [Nat.sub_self, Nat.le_zero, List.length_eq_zero_iff] at hlength
  exact hlength

/-- A step of a daemon that has nothing in hand, after it has finished. -/
theorem Runs.finishing {act : StateM (World (Recorded σ)) α} {next : α → Stake}
    (hgrows : ∀ world, Grows library world (act world).2)
    (hstands : ∀ s world, Backs library stake s world → s.hand = [] → Fit library (act world).2 →
      Stands library (next (act world).1) (act world).2) :
    Runs library stake (do World.finish library.services; act) next := by
  intro world
  have hruns : Keeps library stake (World.finish library.services) := keeps_finish
  obtain ⟨hfinish, hfinished⟩ := hruns world
  have hact := hgrows (World.finish library.services world).2
  refine ⟨hfinish.trans hact, fun hfit h => ?_⟩
  obtain ⟨s, hs⟩ := hfinished (hact.fit hfit) h
  exact hstands s _ hs (by rw [← hs.hand, hand_finish]) hfit

/-! ## Waiting for the daemon -/

/-- A run of the daemon on its own. -/
theorem spares_errands (s : Estate Domain) : Spares s.errands := by
  intro move hmove handle name effect panics heq
  subst heq
  simpa using Estate.mem_errands hmove

theorem Backs.flush (h : Backs library stake s world) (hhand : s.hand = [])
    (hfit : Fit library
      (World.custody library.services (fun registry => ((), registry.flush)) world).2) :
    Backs library stake (s.flush.withRunning [])
      (World.custody library.services (fun registry => ((), registry.flush)) world).2 := by
  refine h.custody s.errands (spares_errands s) ?_ ?_ hfit (h.program.same s.sameProgram_flush)
    (List.Subset.refl _) rfl
  · exact Estate.registry_flush h.coherent.books.quiet hhand
  · rw [hhand]
    exact s.hand_flush

/-- **Waiting for the daemon** does not change what is at stake. -/
theorem keeps_flush : Keeps library stake (World.flush library.services) :=
  .finishing (fun world => grows_custody Registry.Ages.flush world) fun _ _ h hhand hfit =>
    ⟨_, h.flush hhand hfit⟩

/-- **A registry without owners answers for nothing** when its daemon has been waited for. -/
theorem tenants_flush (h : s.Coherent) (hlast : s.flush.Lasting) (hheld : s.held = [])
    (hdisposing : s.disposing = []) : s.flush.tenants = [] := by
  have hentries := h.entries_flush hlast
  rw [hheld] at hentries
  have hmoving : s.flush.moving = [] := by
    rw [Estate.moving, s.sameProgram_flush.disposing, hdisposing, s.hand_flush]
    rfl
  rw [Estate.tenants, hentries.eq_nil, hmoving]
  rfl

theorem World.flush_eq (services : Services σ) (world : World σ) : World.flush services world
    = World.custody services (fun registry => ((), registry.flush))
        (World.finish services world).2 := rfl

/-- **The estate behind a world whose daemon has been waited for** has been flushed. -/
theorem exists_backs_flush (h : Stands library stake world)
    (hfit : Fit library (World.flush library.services world).2) :
    ∃ s, s.Coherent ∧ s.flush.Lasting ∧ stake.Of s
      ∧ Backs library stake (s.flush.withRunning []) (World.flush library.services world).2 := by
  have hruns : Keeps library stake (World.finish library.services) := keeps_finish
  obtain ⟨-, hfinished⟩ := hruns world
  have hand := hand_finish library.services world
  rw [World.flush_eq] at hfit ⊢
  generalize (World.finish library.services world).2 = world' at hfit hfinished hand ⊢
  have hgrows : Grows library world'
      (World.custody library.services (fun registry => ((), registry.flush)) world').2 :=
    grows_custody Registry.Ages.flush world'
  obtain ⟨s, hs⟩ := hfinished (hgrows.fit hfit) h
  have hflush := hs.flush (hs.hand ▸ hand) hfit
  have hlast := hfit.lasting
  rw [hflush.registry] at hlast
  exact ⟨s, hs.coherent, hlast, hs.program, hflush⟩

/-- **No context is left** when nothing is at stake any more and the daemon has been waited for. -/
theorem recordedAt_flush (h : Stands library ⟨[], [], [], []⟩ world)
    (hfit : Fit library (World.flush library.services world).2) (address : Address) :
    library.recordedAt (World.flush library.services world).2.native address = none := by
  obtain ⟨s, hcoherent, hlast, hprogram, hflush⟩ := exists_backs_flush h hfit
  have htenants : (s.flush.withRunning []).tenants = [] :=
    tenants_flush hcoherent hlast (List.perm_nil.mp hprogram.held) hprogram.disposing
  refine (hflush.lets.eq_none_iff address).mpr ?_
  rw [htenants]
  exact List.not_mem_nil

theorem spares_sweeping (s : Estate Domain) : Spares s.sweeping := by
  intro move hmove handle name effect panics heq
  subst heq
  cases hmove with
  | tail _ hmem => simpa using List.eq_of_mem_replicate hmem

theorem sameProgram_sweeping (s : Estate Domain) : s.SameProgram (s.after s.sweeping) :=
  (Estate.SameProgram.takeUps .sweep s.registry.orphans s).trans
    (Estate.SameProgram.after fun _ hmove => .inr (List.eq_of_mem_replicate hmove))

theorem stands_sweepNow (h : Backs library stake s world) (hhand : s.hand = [])
    (hfit : Fit library (World.custody library.services Registry.sweepNow world).2) :
    Stands library stake (World.custody library.services Registry.sweepNow world).2 := by
  -- The sweep comes after the notices, and what is asked of the end holds in between.
  have hlast : s.flush.Lasting := by
    have hdaemon : world.registry.daemon = true := by rw [h.registry, h.coherent.daemon]
    have hflush := (Registry.Ages.flush_sweepNow hdaemon).lasting hfit.lasting
    rwa [h.registry, ← Estate.registry_flush h.coherent.books.quiet hhand] at hflush
  refine ⟨_, h.custody (s.errands ++ s.flush.sweeping) ?_ ?_ ?_ hfit ?_ (List.Subset.refl _) rfl⟩
  · exact List.forall_mem_append.mpr ⟨spares_errands s, spares_sweeping s.flush⟩
  · rw [Estate.after_append]
    exact Estate.registry_sweepNow h.coherent hlast hhand
  · rw [Estate.after_append, hhand]
    exact (Estate.after_releases s.flush.sweep.hand rfl).1
  · rw [Estate.after_append]
    exact h.program.same (s.sameProgram_flush.trans (sameProgram_sweeping s.flush))

/-- **Asking for a sweep** does not change what is at stake. -/
theorem keeps_sweep : Keeps library stake (sweep library.services) :=
  .bind keeps_pause fun _ => .finishing (fun world => grows_custody Registry.Ages.sweepNow world)
    fun _ _ h => stands_sweepNow h

/-! ## The program and its registry -/

/-- A step of the registry, which the daemon's turns come before. -/
theorem runs_entrust {step : Registry Domain → α × Registry Domain} {next : α → Stake}
    (hages : ∀ registry, Registry.Ages registry (step registry).2)
    (hstands : ∀ s world, Backs library stake s world →
      Fit library (World.custody library.services step world).2 →
      Stands library (next (step s.registry).1) (World.custody library.services step world).2) :
    Runs library stake (entrust library.services step) next := by
  refine .bind keeps_pause fun _ world => ⟨grows_custody hages world, fun hfit ⟨s, h⟩ => ?_⟩
  have hresult : (World.custody library.services step world).1 = (step s.registry).1 := by
    rw [← h.registry]
    rfl
  rw [hresult]
  exact hstands s world h hfit

/-- An estate after a move of the program, where it is what a step of the registry makes of it. -/
structure Mirrors (s s' : Estate Domain) (result : α × Registry Domain) (next : α → Stake) :
    Prop where
  /-- The registry is that after the step. -/
  registry : s'.registry = result.2
  /-- The daemon has the same in hand. -/
  hand : s'.hand = s.hand
  /-- The program has this at stake. -/
  program : (next result.1).Of s'

/-- **A step of the registry that is a single move.** -/
theorem runs_move {step : Registry Domain → α × Registry Domain} {next : α → Stake}
    (move : Move Domain)
    (hspares : Spares [move]) (hages : ∀ registry, Registry.Ages registry (step registry).2)
    (hmirrors : ∀ s, stake.Of s → Mirrors s (s.step move) (step s.registry) next)
    (hheld : ∀ a, (next a).held ⊆ stake.held) (hpending : ∀ a, (next a).pending = stake.pending) :
    Runs library stake (entrust library.services step) next := by
  refine runs_entrust hages fun s world h hfit => ?_
  obtain ⟨hregistry, hhand, hprogram⟩ := hmirrors s h.program
  exact ⟨_, h.custody [move] hspares hregistry hhand hfit hprogram (hheld _) (hpending _)⟩

section Program

variable (stake) (owner) (domain)

/-- An owner takes its entry out of the table. -/
theorem runs_withdraw : Runs library (stake.hold owner domain)
    (entrust library.services fun registry => registry.withdraw owner.key)
    (stake.withdraw owner) := by
  refine runs_move (.withdraw owner) (by simp [Spares])
    (fun registry => .withdraw registry owner.key)
    (fun s h => ?_) (fun _ => List.subset_cons_self _ _) fun _ => rfl
  have hmem : owner ∈ s.held := h.held.mem_iff.mpr List.mem_cons_self
  rw [show s.step (.withdraw owner) = s.withdraw owner from if_pos hmem]
  have herase := h.held.erase owner
  rw [Stake.hold, List.map_cons, List.erase_cons_head] at herase
  exact ⟨rfl, rfl, herase, congrArg _ h.disposing, h.leaving⟩

/-- It releases its handle. -/
theorem runs_settle (taken : Option Entry) : Runs library (stake.withdraw owner taken)
    (entrust library.services fun registry => registry.settle taken owner.action)
    fun _ => stake.leave owner := by
  refine runs_move (.settle owner) (by simp [Spares])
    (fun registry => .settle registry taken owner.action)
    (fun s h => ?_) (fun _ => List.Subset.refl _) fun _ => rfl
  have hmove : s.step (.settle owner) = s.settle owner taken := by
    simp [Estate.step, h.disposing, Stake.withdraw]
  rw [hmove]
  have herase := congrArg (List.erase · (owner, taken)) h.disposing
  rw [Stake.withdraw, List.erase_cons_head] at herase
  exact ⟨rfl, rfl, h.held, herase, congrArg _ h.leaving⟩

/-- An owner that is dropped posts its notice. -/
theorem runs_post : Runs library (stake.hold owner domain)
    (entrust library.services fun registry => registry.post owner) fun _ => stake.leave owner := by
  refine runs_move (.post owner) (by simp [Spares]) (fun registry => .post registry owner)
    (fun s h => ?_) (fun _ => List.subset_cons_self _ _) fun _ => rfl
  have hmem : owner ∈ s.held := h.held.mem_iff.mpr List.mem_cons_self
  rw [show s.step (.post owner) = s.post owner from if_pos hmem]
  have herase := h.held.erase owner
  rw [Stake.hold, List.map_cons, List.erase_cons_head] at herase
  exact ⟨rfl, rfl, herase, h.disposing, congrArg _ h.leaving⟩

/-- An owner goes for good. -/
theorem runs_letGo : Runs library (stake.leave owner)
    (entrust library.services fun registry => registry.letGo owner) fun _ => stake := by
  refine runs_move (.letGo owner) (by simp [Spares]) (fun registry => .letGo registry owner)
    (fun s h => ?_) (fun _ => List.Subset.refl _) fun _ => rfl
  have hmem : owner ∈ s.leaving := h.leaving ▸ List.mem_cons_self
  rw [show s.step (.letGo owner) = s.letGo owner from if_pos hmem]
  have herase := congrArg (List.erase · owner) h.leaving
  rw [Stake.leave, List.erase_cons_head] at herase
  exact ⟨rfl, rfl, h.held, h.disposing, herase⟩

/-- **Disposing of a context** takes its owner off the stake, however it ends. -/
theorem runs_dispose : Runs library (stake.hold owner domain) (dispose library.services owner)
    fun _ => stake :=
  .bind (runs_withdraw stake owner domain) fun taken =>
    .bind (runs_settle stake owner taken) fun _ =>
      .bind (runs_letGo stake owner) fun _ => .pure _ rfl

/-- **Dropping an owner** takes it off the stake, however it ends. -/
theorem runs_abandon : Runs library (stake.hold owner domain) (abandon library.services owner)
    fun _ => stake :=
  .bind (runs_post stake owner domain) fun _ => .bind (runs_letGo stake owner) fun _ => .pure _ rfl

end Program

/-! ## The program and the library -/

/-- The context of an owner that is held is one that the registry answers for. -/
theorem Backs.mem_tenants (h : Backs library stake s world) {pair : Owner × Domain}
    (hpair : pair ∈ stake.held) : (pair.1.handle.address, pair.2) ∈ s.tenants := by
  have hheld : pair.1 ∈ s.held := h.program.held.mem_iff.mpr (List.mem_map.mpr ⟨pair, hpair, rfl⟩)
  have hentry : pair.1.entry ∈ s.registry.table.entries :=
    SlotTable.mem_entries.mpr ⟨_, h.coherent.holding.present _ hheld⟩
  refine List.mem_filterMap.mpr ⟨_, List.mem_append_left _ hentry, ?_⟩
  rw [Estate.contextOf?, show pair.1.entry.action = pair.1.action from rfl, h.kinds pair hpair]
  rfl

/-- **The context of an owner that is held is there**, and of its kind. -/
theorem Backs.there (h : Backs library stake s world) {context : Address × Domain}
    (hmem : context ∈ stake.contexts) :
    library.recordedAt world.native context.1 = some context.2 := by
  obtain ⟨pair, hpair, rfl⟩ := List.mem_map.mp hmem
  exact (h.lets.there _ _).mpr (List.mem_append_right _ (h.mem_tenants hpair))

/-- Owners that are held have different contexts. -/
theorem Backs.contexts_nodup (h : Backs library stake s world) :
    (stake.contexts.map Prod.fst).Nodup := by
  have hperm := h.program.held.map fun owner => owner.handle.address
  rw [List.map_map] at hperm
  rw [Stake.contexts, List.map_map]
  exact hperm.nodup_iff.mp h.coherent.held_addresses_nodup

/-- A step in which the library is used, which the daemon's turns come before. -/
theorem runs_native_of {act : StateM (Recorded σ) α} {next : α → Stake}
    (hcalls : ∀ recorded, ∃ calls, (act recorded).2 = library.afterAll recorded calls)
    (hstands : ∀ s world, Backs library stake s world →
      library.Fresh (act world.native).2.log →
      Stands library (next (act world.native).1) { world with native := (act world.native).2 }) :
    Runs library stake (native library.services act) next :=
  .bind keeps_pause fun _ world =>
    ⟨⟨.refl world.registry, hcalls world.native⟩, fun hfit ⟨s, h⟩ => hstands s world h hfit.fresh⟩

/-- **Using the contexts that are held** leaves the stake as it is. -/
theorem keeps_native {act : StateM (Recorded σ) α} {targets : List (Address × Domain)}
    (h : library.Uses targets act) (hheld : targets ⊆ stake.contexts) :
    Keeps library stake (native library.services act) := by
  refine runs_native_of (fun recorded => (h recorded).exists_afterAll) fun s world hs _ => ⟨s, ?_⟩
  exact { hs with
    lets := hs.lets.tends (h world.native)
    proper := (h world.native).proper (fun target hmem => hs.there (hheld hmem)) hs.proper }

/-- **Allocating a context.** If there is one then it waits for an owner. -/
theorem runs_allocate {request : Request} (hmakes : request.makes? = some domain) :
    Runs library stake (native library.services (library.backend.recorded.allocate request))
      (stake.upon fun handle => stake.await handle.address domain) := by
  refine runs_native_of (fun recorded => ?_) fun s world h hfresh => ?_
  · obtain ⟨-, htends⟩ | ⟨call, address, -, -, -, hstate, -⟩ :=
      Library.allocate_cases hmakes recorded
    · exact htends.exists_afterAll
    · exact ⟨[call], hstate⟩
  · obtain ⟨⟨abort, hresult⟩, htends⟩ |
      ⟨call, address, htargets, hfrees, hgranted, hstate, hresult⟩ :=
      Library.allocate_cases hmakes world.native
    · rw [hresult]
      exact ⟨s, { h with
        lets := h.lets.tends htends
        proper := htends.proper (fun _ hmem => absurd hmem List.not_mem_nil) h.proper }⟩
    · rw [hstate, Library.log_after, Library.fresh_append, Library.fresh_cons] at hfresh
      obtain ⟨hne, hnew⟩ := hfresh.2.1 _ hgranted
      rw [hresult hne, hstate]
      exact ⟨s, { h with
        program := ⟨h.program.held, h.program.disposing, h.program.leaving⟩
        lets := h.lets.grant hgranted hnew
        proper := by
          rw [Library.log_after, Library.proper_append, Library.proper_singleton]
          refine ⟨h.proper, fun target hmem => ?_⟩
          rw [show (library.note world.native.state call).call.targets = [] from htargets] at hmem
          cases hmem }⟩

/-! ## A new owner -/

/-- The action of an entry that a registry answers for is one of its ledger. -/
theorem action_lt (h : s.Coherent) {entry : Entry}
    (hmem : entry ∈ s.registry.table.entries ++ s.moving) :
    entry.action < s.registry.ledger.actions.length := by
  obtain ⟨owner, ho, rfl⟩ : ∃ owner ∈ s.accepted, owner.entry = entry := by
    cases List.mem_append.mp hmem with
    | inl htable =>
      obtain ⟨owner, ho, hentry, -⟩ := h.books.entries_iff.mp htable
      exact ⟨owner, ho, hentry⟩
    | inr hmoving => exact h.books.owned_moving entry hmoving
  exact (h.books.numbered owner ho).1

/-- Every entry that a registry answers for has a context behind it. -/
theorem mem_tenants_addresses (h : s.Coherent) {entry : Entry}
    (hmem : entry ∈ s.registry.table.entries ++ s.moving) :
    entry.address ∈ s.tenants.map Prod.fst := by
  have hlt := action_lt h hmem
  have hcontext : Estate.contextOf? s.registry.ledger entry
      = some (entry.address,
          (s.registry.ledger.actions.get ⟨entry.action, hlt⟩).release.effect) := by
    simp [Estate.contextOf?, Ledger.effectOf?, Ledger.releaseOf?, hlt]
  exact List.mem_map.mpr ⟨_, List.mem_filterMap.mpr ⟨entry, hmem, hcontext⟩, rfl⟩

/-- A context without an owner is not in the table. -/
theorem not_mem_live {handle : Handle}
    (h : Backs library (stake.await handle.address domain) s world) :
    handle.address ∉ s.registry.table.live := by
  intro hlive
  -- There would be two on the list with its address, the one that waits and the one of the entry.
  obtain ⟨entry, hmem, heq⟩ := h.coherent.books.sound.mem_live.mp hlive
  have htenant := mem_tenants_addresses h.coherent (List.mem_append_left s.moving hmem)
  rw [heq] at htenant
  have hout : handle.address ∉ (stake.pending ++ s.tenants).map Prod.fst :=
    (List.nodup_cons.mp h.lets.nodup).1
  rw [List.map_append, List.mem_append, not_or] at hout
  exact hout.2 htenant

section Own

variable {handle : Handle} (name : String) (hmem : handle.address ∉ s.registry.table.live)

include hmem

/-- The release function of a new owner frees its context, and all others are as before. -/
theorem effectOf?_own (id : ActionId) :
    (s.own handle name (.plain domain)).registry.ledger.effectOf? id
      = if id = s.registry.ledger.actions.length then some domain
        else s.registry.ledger.effectOf? id := by
  rw [Estate.own_of_not_mem name (.plain domain) hmem, Ledger.effectOf?_hold,
    Ledger.effectOf?_prepare]
  rfl

/-- A registry with a new owner answers for one more context. -/
theorem tenants_own (h : s.Coherent) :
    (s.own handle name (.plain domain)).tenants.Perm ((handle.address, domain) :: s.tenants) := by
  have hold : ∀ entry ∈ s.registry.table.entries ++ s.moving,
      Estate.contextOf? (s.own handle name (.plain domain)).registry.ledger entry
        = Estate.contextOf? s.registry.ledger entry := by
    intro entry hentry
    rw [Estate.contextOf?, effectOf?_own name hmem, if_neg (Nat.ne_of_lt (action_lt h hentry)),
      Estate.contextOf?]
  have hnew : Estate.contextOf? (s.own handle name (.plain domain)).registry.ledger
      (s.registry.nextEntry handle name) = some (handle.address, domain) := by
    rw [Estate.contextOf?, effectOf?_own name hmem]
    exact congrArg _ (if_pos rfl)
  have hentries := ((h.books.sound.entries_place (s.registry.nextEntry handle name)).append_right
    s.moving).filterMap (Estate.contextOf? (s.own handle name (.plain domain)).registry.ledger)
  rw [List.cons_append, List.filterMap_cons_some hnew, List.filterMap_congr hold,
    Estate.own_of_not_mem name (.plain domain) hmem] at hentries
  rw [Estate.own_of_not_mem name (.plain domain) hmem]
  exact hentries

/-- The kinds of the owners that are held, with a new one among them. -/
theorem Backs.kinds_own (h : Backs library (stake.await handle.address domain) s world) :
    ∀ pair ∈ (s.registry.nextOwner handle name, domain) :: stake.held,
      (s.own handle name (.plain domain)).registry.ledger.effectOf? pair.1.action
        = some pair.2 := by
  rw [List.forall_mem_cons]
  constructor
  · rw [effectOf?_own name hmem]
    exact if_pos rfl
  · intro pair hpair
    have hheld : pair.1 ∈ s.held := h.program.held.mem_iff.mpr (List.mem_map.mpr ⟨pair, hpair, rfl⟩)
    have hlt := (h.coherent.books.numbered _ (h.coherent.holding.accepted _ hheld)).1
    rw [effectOf?_own name hmem, if_neg (Nat.ne_of_lt hlt)]
    exact h.kinds pair hpair

/-- **A new owner** for the context that was waiting for one. -/
theorem Backs.own (h : Backs library (stake.await handle.address domain) s world)
    (hlast : s.Lasting) :
    Backs library (stake.hold (s.registry.nextOwner handle name) domain)
      ((s.own handle name (.plain domain)).withRunning [])
      { world with registry := ((s.own handle name (.plain domain)).withRunning []).registry } := by
  have hown := Estate.own_of_not_mem name (.plain domain) hmem
  exact
    { coherent := (h.coherent.own hlast handle name rfl).withRunning []
      registry := rfl
      hand := by
        rw [hown]
        exact h.hand
      program := by
        rw [hown]
        exact ⟨h.program.held.cons _, h.program.disposing, h.program.leaving⟩
      kinds := h.kinds_own name hmem
      cleared := rfl
      lets := by
        refine h.lets.perm
          (List.Perm.trans ?_ ((tenants_own name hmem h.coherent).append_left _).symm)
        exact List.perm_middle.symm
      proper := h.proper }

end Own

/-- **A context that waits for an owner gets one.** -/
theorem runs_own (handle : Handle) (name : String) :
    Runs library (stake.await handle.address domain)
    (entrust library.services fun registry => registry.own handle name (.plain domain))
    (stake.upon fun owner => stake.hold owner domain) := by
  refine runs_entrust (fun registry => .own registry handle name _) fun s world h hfit => ?_
  have hmem := not_mem_live h
  have hlast : s.Lasting := by
    have hages := Registry.Ages.own world.registry handle name (.plain domain)
    have hlast := hages.lasting hfit.lasting
    rwa [h.registry] at hlast
  have hregistry : (s.own handle name (.plain domain)).registry
      = (s.registry.own handle name (.plain domain)).2 := by
    rw [Estate.own_of_not_mem name (.plain domain) hmem,
      s.registry.own_of_not_mem _ name (.plain domain) hmem]
  -- Nothing is released by this, so that the library stays as it is.
  have hentered : (s.registry.own handle name (.plain domain)).2.ledger.entered = [] := by
    rw [s.registry.own_of_not_mem _ name (.plain domain) hmem]
    simpa using h.cleared
  have hworld : (World.custody library.services
      (fun registry => registry.own handle name (.plain domain)) world).2
        = { world with
            registry := ((s.own handle name (.plain domain)).withRunning []).registry } := by
    simp only [World.custody, h.registry, hentered, World.free, Estate.withRunning, hregistry]
    rfl
  rw [hworld, s.registry.own_of_not_mem _ name (.plain domain) hmem]
  exact ⟨_, h.own name hmem hlast⟩

end Custody.Held

import Custody.Proofs.Held.Charge

/-!
# What each step does to a charge

The steps out of which the operations of a program are made serve a charge as they serve a stake. A
step of the registry frees contexts and does nothing else to the library (`World.OnlyFreed`), so
that whatever is still held afterwards has the role that it had (`Trusts.of_onlyFreed`). A step in
which the library is used upholds roles by itself (`serves_native`). None of the steps of the
registry ends early: release functions return, and an owner never comes to a handle that has one
already (`serves_own`).

Roles are told apart by address, and an address is safe as long as its owner is held: whatever is
freed has another one. So of a step of the registry it is enough to know that the stake stands
afterwards, and that it has only freed contexts; the roles of what is left come for free.
-/

namespace Custody.Held

open Vault

variable {α β : Type} {kind : BackendKind} {own : Option String} {charge charge' : Charge}
  {owner : Owner} {domain : Domain} {world world' : World (Recorded Session)}

/-! ## The registry on its own -/

/-- **A world in which contexts have been freed**, and nothing else has happened to the library. -/
structure World.OnlyFreed (world world' : World (Recorded Session)) : Prop where
  /-- What is there was there before. -/
  session : world.session.OnlyFreed world'.session
  /-- Actions have kept their release functions. -/
  retains : Registry.Retains world.registry world'.registry

namespace World.OnlyFreed

theorem refl (world : World (Recorded Session)) : world.OnlyFreed world := ⟨.refl _, .refl _⟩

theorem trans {first second third : World (Recorded Session)} (h : first.OnlyFreed second)
    (h' : second.OnlyFreed third) : first.OnlyFreed third :=
  ⟨h.session.trans h'.session, h.retains.trans h'.retains⟩

end World.OnlyFreed

theorem onlyFreed_custody {step : Registry Domain → α × Registry Domain}
    (h : ∀ registry, Registry.Retains registry (step registry).2)
    (world : World (Recorded Session)) :
    world.OnlyFreed (World.custody (Library.vault kind).services step world).2 :=
  ⟨onlyFrees_custody step world, h world.registry⟩

/-- **Whatever a daemon does**, it does nothing to the library but free contexts. -/
theorem World.Turned.onlyFreed (h : World.Turned (Library.vault kind).services world world') :
    world.OnlyFreed world' := by
  induction h with
  | refl => exact .refl world
  | notice _ ih => exact ih.trans ⟨.refl _, .takeNotice _⟩
  | gather _ ih => exact ih.trans ⟨.refl _, .gather _⟩
  | release _ manner entry ih =>
    exact ih.trans (onlyFreed_custody (fun registry => .release registry manner entry) _)
  | quit _ entries ih =>
    exact ih.trans ⟨.refl _, (Registry.Retains.forsake _ entries).trans (.withoutDaemon _)⟩
  | passing _ hand turns ih => exact ⟨ih.session, ih.retains⟩

theorem onlyFreed_pause (world : World (Recorded Session)) :
    world.OnlyFreed (World.pause (Library.vault kind).services world).2 :=
  (World.turned_pause world).onlyFreed

theorem onlyFreed_finish (world : World (Recorded Session)) :
    world.OnlyFreed (World.finish (Library.vault kind).services world).2 :=
  (World.turned_finish world).onlyFreed

/-- **What is left standing has the roles that it had**, when contexts have been freed. -/
theorem Trusts.of_session_onlyFreed (h : Trusts kind charge world)
    (hstands : Stands (.vault kind) charge'.stake world') (hroles : charge'.roles = charge.roles)
    (hfreed : world.session.OnlyFreed world'.session) (hreturns : world'.registry.ledger.Returns) :
    Trusts kind charge' world' where
  stands := hstands
  faultless flag := (congrFun hfreed.raised flag).trans (h.faultless flag)
  returns := hreturns
  roles pair hpair := by
    obtain ⟨s, hs⟩ := hstands
    have hkind : world'.session.vault.kindAt pair.1 = some .signature :=
      hs.there (charge'.cast pair hpair)
    obtain ⟨context, hcontext, -⟩ := Option.map_eq_some_iff.mp hkind
    rw [roleAt_congr (hcontext.trans (hfreed.contexts _ _ hcontext).symm)]
    exact h.roles pair (hroles ▸ hpair)

/-- **What the registry leaves standing can be relied on as before.** -/
theorem Trusts.of_onlyFreed (h : Trusts kind charge world)
    (hstands : Stands (.vault kind) charge'.stake world') (hroles : charge'.roles = charge.roles)
    (hfreed : world.OnlyFreed world') : Trusts kind charge' world' :=
  h.of_session_onlyFreed hstands hroles hfreed.session (hfreed.retains.returns h.returns)

/-- An action that does nothing to the library but free contexts. -/
theorem serves_of_onlyFreed {act : StateM (World (Recorded Session)) α} {next : α → Charge}
    (hruns : Runs (.vault kind) charge.stake act fun a => (next a).stake)
    (hroles : ∀ a, (next a).roles = charge.roles)
    (hfreed : ∀ world, World.OnlyFreed world (act world).2) :
    Serves kind (Trusts kind charge) act fun a => Trusts kind (next a) := fun world =>
  ⟨(hruns world).1, fun hfit h =>
    h.of_onlyFreed ((hruns world).2 hfit h.stands) (hroles _) (hfreed world)⟩

/-- **The daemon's turns** do no harm. -/
theorem serves_pause : Serves kind (Trusts kind charge) (World.pause (Library.vault kind).services)
    fun _ => Trusts kind charge := serves_of_onlyFreed keeps_pause (fun _ => rfl) onlyFreed_pause

/-! ## Steps of the registry -/

/-- A registry in good order, as it stands behind a world that can be relied on. -/
structure Orderly (registry : Registry Domain) : Prop where
  /-- The daemon runs. -/
  daemon : registry.daemon = true
  /-- Release functions can be destroyed. -/
  quiet : registry.ledger.Quiet
  /-- They return. -/
  returns : registry.ledger.Returns

theorem Trusts.orderly (h : Trusts kind charge world) : Orderly world.registry := by
  obtain ⟨s, hs⟩ := h.stands
  refine ⟨?_, ?_, h.returns⟩
  · rw [hs.registry]
    exact hs.coherent.daemon
  · rw [hs.registry]
    exact hs.coherent.books.quiet

/-- **A step of the registry**, which the daemon's turns come before. -/
theorem serves_entrust {step : Registry Domain → α × Registry Domain} {next : α → Charge}
    {good : α → Prop}
    (hruns : Runs (.vault kind) charge.stake (entrust (Library.vault kind).services step)
      fun a => (next a).stake)
    (hroles : ∀ a, (next a).roles = charge.roles)
    (hages : ∀ registry, Registry.Ages registry (step registry).2)
    (hretains : ∀ registry, Registry.Retains registry (step registry).2)
    (hgood : ∀ registry, Orderly registry → good (step registry).1) :
    Serves kind (Trusts kind charge) (entrust (Library.vault kind).services step)
      fun a world => good a ∧ Trusts kind (next a) world := by
  have hserves : Serves kind (Trusts kind charge) (entrust (Library.vault kind).services step)
      fun a => Trusts kind (next a) :=
    serves_of_onlyFreed hruns hroles fun world =>
      (onlyFreed_pause world).trans (onlyFreed_custody hretains _)
  intro world
  refine ⟨(hserves world).1, fun hfit h => ⟨?_, (hserves world).2 hfit h⟩⟩
  have hcustody : Grows (.vault kind) (World.pause (Library.vault kind).services world).2
      (entrust (Library.vault kind).services step world).2 := grows_custody hages _
  exact hgood _ ((serves_pause world).2 (hcustody.fit hfit) h).orderly

section Program

variable (charge owner domain)

/-- An owner takes its entry out of the table. -/
theorem serves_withdraw : Serves kind (Trusts kind (charge.hold owner domain))
    (entrust (Library.vault kind).services fun registry => registry.withdraw owner.key)
    fun taken => Trusts kind (charge.withdraw owner taken) := by
  have hruns : Runs (.vault kind) (charge.hold owner domain).stake
      (entrust (Library.vault kind).services fun registry => registry.withdraw owner.key)
      fun taken => (charge.withdraw owner taken).stake := runs_withdraw charge.stake owner domain
  have hstep : Serves kind (Trusts kind (charge.hold owner domain))
      (entrust (Library.vault kind).services fun registry => registry.withdraw owner.key)
      fun taken world => True ∧ Trusts kind (charge.withdraw owner taken) world :=
    serves_entrust hruns (fun _ => rfl) (fun registry => .withdraw registry owner.key)
      (fun registry => .withdraw registry owner.key) fun _ _ => trivial
  exact hstep.weaken fun _ _ h => h.2

/-- It releases its handle, and that ends well. -/
theorem serves_settle (taken : Option Entry) :
    Serves kind (Trusts kind (charge.withdraw owner taken))
      (entrust (Library.vault kind).services fun registry => registry.settle taken owner.action)
      fun result world =>
        (∃ released, result = .ok released) ∧ Trusts kind (charge.leave owner) world :=
  serves_entrust (runs_settle charge.stake owner taken) (fun _ => rfl)
    (fun registry => .settle registry taken owner.action)
    (fun registry => .settle registry taken owner.action)
    fun _ h => Registry.settle_of_returns h.returns h.quiet taken owner.action

/-- An owner that is dropped posts its notice. -/
theorem serves_post : Serves kind (Trusts kind (charge.hold owner domain))
    (entrust (Library.vault kind).services fun registry => registry.post owner)
    fun result world => result = .ok () ∧ Trusts kind (charge.leave owner) world :=
  serves_entrust (runs_post charge.stake owner domain) (fun _ => rfl)
    (fun registry => .post registry owner) (fun registry => .post registry owner)
    fun registry h => by rw [registry.post_of_daemon owner h.daemon]

/-- An owner goes for good. -/
theorem serves_letGo : Serves kind (Trusts kind (charge.leave owner))
    (entrust (Library.vault kind).services fun registry => registry.letGo owner)
    fun result world => result = .ok () ∧ Trusts kind charge world :=
  serves_entrust (runs_letGo charge.stake owner) (fun _ => rfl)
    (fun registry => .letGo registry owner) (fun registry => .letGo registry owner)
    fun _ h => Registry.letGo_of_quiet h.quiet owner

/-- **Disposing of a context ends well.** -/
theorem serves_dispose : Serves kind (Trusts kind (charge.hold owner domain))
    (dispose (Library.vault kind).services owner)
    fun result world => result = .ok () ∧ Trusts kind charge world := by
  refine .bind (serves_withdraw charge owner domain) fun taken =>
    .bind (serves_settle charge owner taken) fun result =>
      .bind ((serves_letGo charge owner).frame _) fun gone => .pure _ ?_
  rintro world ⟨⟨released, rfl⟩, rfl, h⟩
  exact ⟨rfl, h⟩

/-- **Dropping an owner ends well.** -/
theorem serves_abandon : Serves kind (Trusts kind (charge.hold owner domain))
    (abandon (Library.vault kind).services owner)
    fun result world => result = .ok () ∧ Trusts kind charge world := by
  refine .bind (serves_post charge owner domain) fun posted =>
    .bind ((serves_letGo charge owner).frame _) fun gone => .pure _ ?_
  rintro world ⟨rfl, rfl, h⟩
  exact ⟨rfl, h⟩

end Program

/-- **Asking for a sweep ends well.** -/
theorem serves_sweep : Serves kind (Trusts kind charge) (sweep (Library.vault kind).services)
    fun result world => (∃ count, result = .ok count) ∧ Trusts kind charge world := by
  have hsweep : Serves kind (Trusts kind charge) (sweep (Library.vault kind).services)
      fun _ => Trusts kind charge :=
    serves_of_onlyFreed keeps_sweep (fun _ => rfl) fun world => ((onlyFreed_pause world).trans
      (onlyFreed_finish _)).trans (onlyFreed_custody Registry.Retains.sweepNow _)
  have hfinish : Serves kind (Trusts kind charge) (do
      World.pause (Library.vault kind).services
      World.finish (Library.vault kind).services) fun _ => Trusts kind charge :=
    .bind serves_pause fun _ => serves_of_onlyFreed keeps_finish (fun _ => rfl) onlyFreed_finish
  intro world
  refine ⟨(hsweep world).1, fun hfit h => ⟨?_, (hsweep world).2 hfit h⟩⟩
  have hcustody : Grows (.vault kind) _ (sweep (Library.vault kind).services world).2 :=
    grows_custody Registry.Ages.sweepNow _
  exact Registry.sweepNow_of_daemon ((hfinish world).2 (hcustody.fit hfit) h).orderly.daemon

/-- **Waiting for the daemon** does no harm. -/
theorem serves_flush : Serves kind (Trusts kind charge) (World.flush (Library.vault kind).services)
    fun _ => Trusts kind charge := by
  refine serves_of_onlyFreed keeps_flush (fun _ => rfl) fun world => ?_
  rw [World.flush_eq]
  exact (onlyFreed_finish world).trans (onlyFreed_custody Registry.Retains.flush _)

/-! ## Steps of the library -/

/-- What the library is like where a charge is trusted. -/
structure Ready (charge : Charge) (vault : Vault) : Prop where
  /-- No fault is raised. -/
  faultless : vault.Faultless
  /-- The contexts at stake are there, and of their kind. -/
  there : ∀ target ∈ charge.stake.contexts, vault.kindAt target.1 = some target.2
  /-- The signature contexts have their roles. -/
  roles : ∀ pair ∈ charge.roles, vault.roleAt pair.1 = some pair.2

theorem Trusts.ready (h : Trusts kind charge world) : Ready charge world.session.vault := by
  obtain ⟨s, hs⟩ := h.stands
  exact ⟨h.faultless, fun target hmem => hs.there hmem, h.roles⟩

/-- A request on behalf of owners that are held, and whose contexts are prepared for it. -/
theorem Ready.suits {vault : Vault} {request : Request} (h : Ready charge vault)
    (htargets : request.targets ⊆ charge.stake.contexts)
    (hneeds : ∀ need ∈ request.needs?, ∃ role ∈ need.2, (need.1, role) ∈ charge.roles) :
    request.Suits vault where
  targets target hmem := h.there target (htargets hmem)
  role need hmem := by
    obtain ⟨role, hrole, hpair⟩ := hneeds need hmem
    exact ⟨role, hrole, h.roles _ hpair⟩

/-- The library is used after the daemon's turns, in a world that can be relied on as before. -/
theorem Trusts.exists_paused {act : StateM (Recorded Session) α}
    (hcalls : ∀ recorded, ∃ calls, (act recorded).2 = (Library.vault kind).afterAll recorded calls)
    (h : Trusts kind charge world)
    (hfit : Fit (.vault kind) (native (Library.vault kind).services act world).2) :
    ∃ paused, Trusts kind charge paused ∧ native (Library.vault kind).services act world
      = ((act paused.native).1, { paused with native := (act paused.native).2 }) := by
  have hgrows : Grows (.vault kind) (World.pause (Library.vault kind).services world).2
      (native (Library.vault kind).services act world).2 := ⟨.refl _, hcalls _⟩
  exact ⟨_, (serves_pause world).2 (hgrows.fit hfit) h, rfl⟩

/-- **A step in which the library is used** on behalf of owners that are held. It keeps the charge,
apart from contexts that it prepares. -/
theorem serves_native {act : StateM (Recorded Session) α} {targets : List (Address × Domain)}
    {exempt : List Address} (good : α → Vault → Prop)
    (huses : (Library.vault kind).Uses targets act)
    (hheld : targets ⊆ charge.stake.contexts)
    (hexempt : (charge.stake.contexts.map Prod.fst).Nodup → ∀ pair ∈ charge.roles, pair.1 ∉ exempt)
    (hact : ∀ recorded : Recorded Session, Ready charge recorded.state.vault →
      recorded.state.Upholds exempt (act recorded).2.state
        ∧ good (act recorded).1 (act recorded).2.state.vault) :
    Serves kind (Trusts kind charge) (native (Library.vault kind).services act)
      fun a world => good a world.session.vault ∧ Trusts kind charge world := by
  have hstake : Held.Keeps (.vault kind) charge.stake
    (native (Library.vault kind).services act) := keeps_native huses hheld
  intro world
  obtain ⟨hgrows, hstands⟩ := hstake world
  refine ⟨hgrows, fun hfit h => ?_⟩
  obtain ⟨paused, hpaused, hused⟩ := h.exists_paused (fun _ => (huses _).exists_afterAll) hfit
  have hstands' := hstands hfit h.stands
  rw [hused] at hstands' ⊢
  obtain ⟨hupholds, hgood⟩ := hact paused.native hpaused.ready
  have hnodup : (charge.stake.contexts.map Prod.fst).Nodup := by
    obtain ⟨s, hs⟩ := hpaused.stands
    exact hs.contexts_nodup
  exact ⟨hgood, hstands', hupholds.faultless hpaused.faultless, hpaused.returns, fun pair hpair =>
    hupholds.roles _ _ (hexempt hnodup pair hpair) (hpaused.roles pair hpair)⟩

/-- How a use of the library may end: well, or early with an excuse. -/
def Gives (own : Option String) (next : α → Vault → Prop) : Except Abort α → Vault → Prop
  | .ok a, vault => next a vault
  | .error abort, _ => abort.Excused own

/-- Such a step that may end early. -/
theorem serves_ask {act : Act (Recorded Session) α} {targets : List (Address × Domain)}
    {exempt : List Address} (next : α → Vault → Prop)
    (huses : (Library.vault kind).Uses targets act)
    (hheld : targets ⊆ charge.stake.contexts)
    (hexempt : (charge.stake.contexts.map Prod.fst).Nodup → ∀ pair ∈ charge.roles, pair.1 ∉ exempt)
    (hkeeps : ∀ recorded : Recorded Session, Ready charge recorded.state.vault →
      Session.Keeps own exempt recorded (act recorded))
    (hnext : ∀ recorded a, (act recorded).1 = .ok a → next a (act recorded).2.state.vault) :
    Serves kind (Trusts kind charge) (ask (Library.vault kind).services act)
      (Ends own (Trusts kind charge) fun a world =>
        next a world.session.vault ∧ Trusts kind charge world) := by
  have hgives : ∀ recorded : Recorded Session, Ready charge recorded.state.vault →
      Gives own next (act recorded).1 (act recorded).2.state.vault := by
    intro recorded hready
    cases hresult : (act recorded).1 with
    | ok a => exact hnext recorded a hresult
    | error abort => exact (hkeeps recorded hready).excused abort hresult
  have hnative : Serves kind (Trusts kind charge) (native (Library.vault kind).services act)
      fun result world => Gives own next result world.session.vault ∧ Trusts kind charge world :=
    serves_native _ huses hheld hexempt fun recorded hready =>
      ⟨(hkeeps recorded hready).upholds, hgives recorded hready⟩
  refine hnative.weaken ?_
  rintro (abort | a) world ⟨hgives, htrusts⟩
  · exact ⟨hgives, htrusts⟩
  · exact ⟨hgives, htrusts⟩

/-- A context that is handed out has a new address. -/
theorem new_of_handle {request : Request} (hmakes : request.makes? = some domain)
    {recorded : Recorded Session} (hfresh : (Library.vault kind).Fresh
      ((Library.vault kind).backend.recorded.allocate request recorded).2.log) {address : Address}
    (hhandle : ((Library.vault kind).backend.recorded.exchange request recorded).1.handle
      = some address) :
    address ≠ 0 ∧ recorded.state.vault.kindAt address = none := by
  rw [Library.allocate_eq] at hfresh
  cases hcall : request.call with
  | error failure =>
    rw [Library.exchange_of_error _ _ _ hcall] at hhandle
    cases hhandle
  | ok call =>
    rw [Library.handle_exchange hcall] at hhandle
    have hgranted : ((Library.vault kind).note recorded.state call).granted?
        = some (address, domain) := by
      have hcallMakes : ((Library.vault kind).note recorded.state call).call.makes? = some domain :=
        (Request.agrees_call hcall).1.trans hmakes
      rw [Note.granted?, Call.granted?, hcallMakes, hhandle]
      rfl
    rw [(Library.exchange_of_granted hcall hgranted).2, Library.log_after, Library.fresh_append,
      Library.fresh_cons] at hfresh
    exact hfresh.2.1 _ hgranted

/-- **A request for a context.** One that is handed out waits for an owner. -/
theorem changesCharge_allocate {request : Request} (hmakes : request.makes? = some domain) :
    ChangesCharge kind own charge
      (ask (Library.vault kind).services ((Library.vault kind).backend.recorded.allocate request))
      fun handle => charge.await handle.address domain := by
  have hruns : Runs (.vault kind) charge.stake
      (native (Library.vault kind).services
        ((Library.vault kind).backend.recorded.allocate request))
      (charge.stake.upon fun handle => charge.stake.await handle.address domain) :=
    runs_allocate hmakes
  have hcalls : ∀ recorded, ∃ calls,
      ((Library.vault kind).backend.recorded.allocate request recorded).2
        = (Library.vault kind).afterAll recorded calls := by
    intro recorded
    have hcases := (Library.vault kind).allocate_cases hmakes recorded
    obtain ⟨-, htends⟩ | ⟨call, address, -, -, -, hstate, -⟩ := hcases
    · exact htends.exists_afterAll
    · exact ⟨[call], hstate⟩
  intro world
  obtain ⟨hgrows, hstands⟩ := hruns world
  refine ⟨hgrows, fun hfit h => ?_⟩
  obtain ⟨paused, hpaused, hasked⟩ := h.exists_paused hcalls hfit
  have hstands' := hstands hfit h.stands
  have hfresh : (Library.vault kind).Fresh (native (Library.vault kind).services
    ((Library.vault kind).backend.recorded.allocate request) world).2.native.log := hfit.fresh
  rw [show native (Library.vault kind).services _ world = _ from hasked] at hstands' hfresh
  rw [show ask (Library.vault kind).services _ world = _ from hasked]
  have hnew : ∀ address,
      ((Library.vault kind).backend.recorded.exchange request paused.native).1.handle
          = some address →
        address ≠ 0 ∧ paused.session.vault.kindAt address = none :=
    fun _ => new_of_handle hmakes hfresh
  have hkeeps : Session.Keeps own _ paused.native
      ((Library.vault kind).backend.recorded.allocate request paused.native) :=
    Session.keeps_allocate hpaused.faultless hmakes fun address hhandle => (hnew address hhandle).1
  have hroles : ∀ pair ∈ charge.roles,
      ((Library.vault kind).backend.recorded.allocate request paused.native).2.state.vault.roleAt
        pair.1 = some pair.2 := by
    intro pair hpair
    refine hkeeps.upholds.roles _ _ (fun hmem => ?_) (hpaused.roles pair hpair)
    -- Where there is a context, none is handed out.
    have hnone := (hnew pair.1 (Option.mem_toList.mp hmem)).2
    rw [hpaused.ready.there _ (charge.cast pair hpair)] at hnone
    cases hnone
  cases hresult : ((Library.vault kind).backend.recorded.allocate request paused.native).1 with
  | ok handle =>
    rw [hresult] at hstands'
    exact ⟨hstands', hkeeps.upholds.faultless hpaused.faultless, hpaused.returns, hroles⟩
  | error abort =>
    rw [hresult] at hstands'
    exact ⟨hkeeps.excused abort hresult,
      ⟨hstands', hkeeps.upholds.faultless hpaused.faultless, hpaused.returns, hroles⟩⟩

/-! ## A new owner -/

/-- **A context that waits for an owner gets one**, and nobody has it already. -/
theorem serves_own (handle : Handle) (name : String) :
    Serves kind (Trusts kind (charge.await handle.address domain))
      (entrust (Library.vault kind).services
        fun registry => registry.own handle name (.plain domain))
      (Ends own (Trusts kind charge) fun owner => Trusts kind (charge.hold owner domain)) := by
  have hruns : Runs (.vault kind) (charge.await handle.address domain).stake
      (entrust (Library.vault kind).services
        fun registry => registry.own handle name (.plain domain))
      (charge.stake.upon fun owner => charge.stake.hold owner domain) := runs_own handle name
  intro world
  obtain ⟨hgrows, hstands⟩ := hruns world
  refine ⟨hgrows, fun hfit h => ?_⟩
  have hcustody : Grows (.vault kind) (World.pause (Library.vault kind).services world).2
      (entrust (Library.vault kind).services
        (fun registry => registry.own handle name (.plain domain)) world).2 :=
    grows_custody (fun registry => .own registry handle name _) _
  -- The daemon has its turns first, and the context waits for its owner all the while.
  have hpaused := (serves_pause world).2 (hcustody.fit hfit) h
  have hstands' := hstands hfit h.stands
  generalize hpause : (World.pause (Library.vault kind).services world).2 = paused at hpaused
  have hentrusted : entrust (Library.vault kind).services
      (fun registry => registry.own handle name (.plain domain)) world
      = World.custody (Library.vault kind).services
        (fun registry => registry.own handle name (.plain domain)) paused := by
    rw [← hpause]
    rfl
  rw [hentrusted] at hstands' ⊢
  -- What waits for an owner has none, so that the registry accepts it.
  have hmem : handle.address ∉ paused.registry.table.live := by
    obtain ⟨s, hs⟩ := hpaused.stands
    rw [hs.registry]
    exact not_mem_live hs
  have hown := paused.registry.own_of_not_mem handle name (.plain domain) hmem
  have hresult : (World.custody (Library.vault kind).services
      (fun registry => registry.own handle name (.plain domain)) paused).1
      = .ok (paused.registry.nextOwner handle name) := congrArg Prod.fst hown
  have hreturns : Ledger.Returns (World.custody (Library.vault kind).services
      (fun registry => registry.own handle name (.plain domain)) paused).2.registry.ledger := by
    show ((paused.registry.own handle name (.plain domain)).2.ledger).Returns
    rw [hown]
    exact (hpaused.returns.prepare handle domain).hold _
  rw [hresult] at hstands' ⊢
  exact hpaused.of_session_onlyFreed hstands' rfl (onlyFrees_custody _ paused) hreturns

end Custody.Held

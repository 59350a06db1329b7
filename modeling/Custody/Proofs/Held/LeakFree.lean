import Custody.Proofs.Held.Parting

/-!
# Contexts that are not lost

A call that makes a context allocates it, takes it into ownership and then may still have to prepare
it, or to use it. Any of this may fail, in whatever way the library likes: with success but without
a handle, with a handle that has an owner already, with a defined failure or with a status that
means nothing. `LeakFree` says that no context is lost on any of these ways, and that none is freed
but the call's own.

Once there is an owner, all that matters is how its context fares by the end of the call (`Fares`).
A context that is prepared is kept or freed or dropped (`fares_prepare`), one that is lent is freed
(`fares_lend`), and a call whose contexts fare so is free of leaks (`leakFree_of_fares`).

An action that only asks leaves the calm world alone but for the log of the library, whatever the
library replies (`OnlyAsks`), and it ends on the status with which the library refuses (`EndsOn`).
With these two the ways of an operation are followed until its context is kept, freed or dropped,
and in each of the three cases it is known what is left in the registry.
-/

namespace Custody.Held

variable {σ α β : Type} {backend : Backend σ} {world world' : World (Recorded σ)} {owner : Owner}
  {domain : Domain}

/-! ## Actions that only ask -/

/-- **An action that only asks** uses the library, without freeing anything, and leaves the rest of
a calm world alone. -/
def OnlyAsks (act : StateM (World (Recorded σ)) α) : Prop :=
  ∀ world : World (Recorded σ), world.Calm → (act world).2.Calm
    ∧ (act world).2.registry = world.registry
    ∧ disposals (act world).2.native.log = disposals world.native.log

namespace OnlyAsks

theorem pure (a : α) : OnlyAsks (Pure.pure a : StateM (World (Recorded σ)) α) :=
  fun _ h => ⟨h, rfl, rfl⟩

theorem bind {act : StateM (World (Recorded σ)) α} {rest : α → StateM (World (Recorded σ)) β}
    (h : OnlyAsks act) (hrest : ∀ a, OnlyAsks (rest a)) : OnlyAsks (act >>= rest) := by
  intro world hcalm
  obtain ⟨hcalm', hregistry, hfreed⟩ := h world hcalm
  obtain ⟨hcalm'', hregistry', hfreed'⟩ := hrest (act world).1 (act world).2 hcalm'
  exact ⟨hcalm'', hregistry'.trans hregistry, hfreed'.trans hfreed⟩

theorem andThen {act : Work (Recorded σ) α} {rest : α → Work (Recorded σ) β}
    (h : OnlyAsks act) (hrest : ∀ a, OnlyAsks (rest a)) :
    OnlyAsks (act >>= rest : Work (Recorded σ) β) := by
  have hcont : ∀ result : Except Abort α, OnlyAsks (ExceptT.bindCont rest result) := by
    intro result
    cases result with
    | ok a => exact hrest a
    | error abort => exact pure _
  exact bind h hcont

theorem ofState {act : StateM (World (Recorded σ)) α} (h : OnlyAsks act) :
    OnlyAsks (Act.ofState act) := h

theorem ofExcept (result : Except Abort α) :
    OnlyAsks (Act.ofExcept result : Work (Recorded σ) α) := fun _ h => ⟨h, rfl, rfl⟩

theorem native {act : StateM (Recorded σ) α} {services : Services (Recorded σ)}
    (h : FreesNothing act) : OnlyAsks (Held.native services act) := by
  intro world hcalm
  rw [native_of_calm hcalm]
  exact ⟨hcalm.native _, rfl, h world.native⟩

theorem ask {act : Act (Recorded σ) α} {services : Services (Recorded σ)} (h : FreesNothing act) :
    OnlyAsks (Held.ask services act) := native h

end OnlyAsks

/-- An owner is still held after an action that only asks. -/
theorem World.Holds.asked (h : world.Holds owner domain) {act : StateM (World (Recorded σ)) α}
    (hact : OnlyAsks act) : (act world).2.Holds owner domain := by
  obtain ⟨hcalm, hregistry, -⟩ := hact world h.toCalm
  exact ⟨hcalm, hregistry ▸ h.found, hregistry ▸ h.waiting, hregistry ▸ h.release⟩

/-! ## What becomes of a context -/

/-- **How a context fares** whose owner is held in a world, by the end of an action that has to do
with it. -/
inductive Fares (world : World (Recorded σ)) (owner : Owner) (domain : Domain) :
    Except Abort α → World (Recorded σ) → Prop
  /-- The owner keeps it. -/
  | kept {world' : World (Recorded σ)} (a : α) (registry : world'.registry = world.registry) :
    Fares world owner domain (.ok a) world'
  /-- It is freed, however the action ends. -/
  | freed {world' : World (Recorded σ)} (result : Except Abort α) (tidy : world'.Tidy)
    (freed : FreedAtOnce world world' (owner.handle.address, domain)) :
    Fares world owner domain result world'
  /-- The action panics and drops the owner. -/
  | dropped {world' : World (Recorded σ)} (message : String)
    (departing : world'.Departing world owner domain) :
    Fares world owner domain (.error (.panicked message)) world'

/-- What is freed after an action that only asks. -/
theorem FreedAtOnce.of_same {between : World (Recorded σ)} {context : Address × Domain}
    (h : FreedAtOnce between world' context) (hregistry : between.registry = world.registry)
    (hfreed : disposals between.native.log = disposals world.native.log) :
    FreedAtOnce world world' context :=
  ⟨hfreed ▸ h.freed, hregistry ▸ h.counters, h.gone⟩

theorem World.Departing.of_same {between : World (Recorded σ)}
    (h : world'.Departing between owner domain) (hregistry : between.registry = world.registry)
    (hfreed : disposals between.native.log = disposals world.native.log) :
    world'.Departing world owner domain := by
  obtain ⟨freed, hlog, hparting, hentered⟩ := h
  exact ⟨freed, hfreed ▸ hlog, hregistry ▸ hparting, hentered⟩

/-- **A context that is prepared** is kept if that succeeds, and freed or dropped if it does not. -/
theorem fares_prepare (backend : Backend σ) (h : world.Holds owner domain)
    {init : Work (Recorded σ) Unit} (hinit : OnlyAsks init) :
    ∃ world', prepare (.ofBackend backend.recorded) owner init world = ((init world).1, world')
      ∧ Fares world owner domain (init world).1 world' := by
  have hheld := h.asked hinit
  obtain ⟨-, hregistry, hsame⟩ := hinit world h.toCalm
  cases hresult : init world with
  | mk result between =>
    rw [hresult] at hheld hregistry hsame
    cases result with
    | ok done =>
      refine ⟨between, ?_, .kept () hregistry⟩
      simp only [prepare, Act.outcome, bind, StateT.bind, hresult]
      rfl
    | error abort =>
      cases abort with
      | failed failure =>
        obtain ⟨gone, hdispose, hfreed, htidy⟩ := dispose_of_holds backend hheld
        refine ⟨gone, ?_, .freed _ htidy (hfreed.of_same hregistry hsame)⟩
        simp only [prepare, Act.outcome, bind, StateT.bind, hresult, hdispose]
        rfl
      | panicked message =>
        have hdropped := (abandon_of_holds backend hheld).of_same hregistry hsame
        refine ⟨_, ?_, .dropped message hdropped⟩
        simp only [prepare, Act.outcome, bind, StateT.bind, hresult]
        rfl

/-- **A context that is lent** is freed however its use ends. -/
theorem fares_lend (backend : Backend σ) (h : world.Holds owner domain) {body : Work (Recorded σ) α}
    (hbody : OnlyAsks body) :
    ∃ world', lend (.ofBackend backend.recorded) owner body world = ((body world).1, world')
      ∧ Fares world owner domain (body world).1 world' := by
  have hheld := h.asked hbody
  obtain ⟨-, hregistry, hsame⟩ := hbody world h.toCalm
  cases hresult : body world with
  | mk result between =>
    rw [hresult] at hheld hregistry hsame
    obtain ⟨gone, hdispose, hfreed, htidy⟩ := dispose_of_holds backend hheld
    refine ⟨gone, ?_, .freed _ htidy (hfreed.of_same hregistry hsame)⟩
    simp only [lend, Act.outcome, bind, StateT.bind, hresult, hdispose]
    cases result with
    | ok a => rfl
    | error abort => rfl

/-! ## Nothing is lost -/

/-- **A status has ended an action.** -/
def EndsOn (status : Int32) (abort : Abort) : Prop :=
  ∃ (request : Request) (diagnostics : String),
    abort = request.explain (.ofStatus status diagnostics)

/-- An action that a defined status ends fails with the code of that status. -/
theorem EndsOn.native {code : ErrorCode} {abort : Abort} (h : EndsOn code.status abort) :
    ∃ detail, abort = .failed (.native code.kind code detail) := by
  obtain ⟨request, diagnostics, rfl⟩ := h
  rw [Abort.ofStatus_status, Request.explain]
  cases request.context? with
  | none => exact ⟨_, rfl⟩
  | some context => exact ⟨_, rfl⟩

/-- An action that an undefined status ends panics. -/
theorem EndsOn.panicked {status : Int32} {abort : Abort} (h : EndsOn status abort)
    (hundefined : ErrorCode.ofStatus? status = none) : ∃ message, abort = .panicked message := by
  obtain ⟨request, diagnostics, rfl⟩ := h
  rw [Abort.ofStatus, hundefined, Request.explain]
  cases request.context? with
  | none => exact ⟨_, rfl⟩
  | some context => exact ⟨_, rfl⟩

/-- **A context was taken into ownership and disposed of again**, once and explicitly. -/
structure Discarded (world world' : World (Recorded σ)) (context : Address × Domain) : Prop where
  /-- It is the only context that was freed. -/
  freed : disposals world'.native.log = disposals world.native.log ++ [context]
  /-- One entry and one explicit disposal are counted. -/
  counters : world'.registry.counters = { world.registry.counters with
    registered := world.registry.counters.registered + 1
    explicit := world.registry.counters.explicit + 1 }
  /-- Its address has no owner any more. -/
  gone : context.1 ∉ world'.registry.table.live

/-- **A call that makes a context loses none.** `stumbles` says with which negative status of the
library the rest of the call ends, once there is an owner for the context. -/
structure LeakFree (backend : Backend σ) (world : World (Recorded σ)) (domain : Domain)
    (request : Request) (stumbles : Handle → Recorded σ → Int32 → Prop)
    (act : Work (Recorded σ) α) : Prop where
  /-- An owner is registered exactly if the library hands out a context that has none. -/
  registered : (act world).2.registry.counters.registered = world.registry.counters.registered + 1 ↔
    ∃ handle after, Grants backend request world handle after
  /-- Otherwise the call fails, and nothing comes of it. -/
  untouched : (∀ handle after, ¬ Grants backend request world handle after) →
    (∃ abort, (act world).1 = .error abort) ∧ Untouched world (act world).2
  /-- A defined status is reported, after the context has been disposed of once. -/
  failed : ∀ handle after code, Grants backend request world handle after →
    stumbles handle after code.status →
    (∃ detail, (act world).1 = .error (.failed (.native code.kind code detail)))
      ∧ Discarded world (act world).2 (handle.address, domain)
  /-- On an undefined status the call panics, and by the next flush the context has been disposed
  of once. -/
  panicked : ∀ handle after status, Grants backend request world handle after →
    stumbles handle after status → ErrorCode.ofStatus? status = none →
    (∃ message, (act world).1 = .error (.panicked message))
      ∧ FreedOnceSince world (World.flush (.ofBackend backend.recorded) (act world).2).2
        (handle.address, domain)
  /-- And so it has been wherever the call ends early for any other reason. -/
  freed : ∀ handle after abort, Grants backend request world handle after →
    (act world).1 = .error abort →
    FreedOnceSince world (World.flush (.ofBackend backend.recorded) (act world).2).2
      (handle.address, domain)

namespace Fares

variable {result : Except Abort α}

/-- No entry is made any more. -/
theorem registered (h : Fares world owner domain result world') :
    world'.registry.counters.registered = world.registry.counters.registered := by
  cases h with
  | kept a registry => rw [registry]
  | freed result tidy freed => rw [freed.counters]
  | dropped message departing =>
    obtain ⟨_, _, hparting, _⟩ := departing
    exact hparting.registered

/-- What the value is that an action ends with makes no difference. -/
theorem map (h : Fares world owner domain result world') (f : α → β) :
    Fares world owner domain (result.map f) world' := by
  cases h with
  | kept a registry => exact .kept (f a) registry
  | freed result tidy freed => exact .freed _ tidy freed
  | dropped message departing => exact .dropped message departing

/-- Where a failure is reported, the context has been freed. -/
theorem freedAtOnce {failure : Failure}
    (h : Fares world owner domain (.error (.failed failure) : Except Abort α) world') :
    FreedAtOnce world world' (owner.handle.address, domain) := by
  cases h with
  | freed result tidy freed => exact freed

/-- **Where an action ends early**, the context has been freed by the next flush. -/
theorem freedOnce (backend : Backend σ) {abort : Abort}
    (h : Fares world owner domain (.error abort : Except Abort α) world') :
    FreedOnceSince world (World.flush (.ofBackend backend.recorded) world').2
      (owner.handle.address, domain) := by
  cases h with
  | freed result tidy freed =>
    have hout : owner.handle.address ∉ world'.registry.table.entries.map Entry.address :=
      fun hc => freed.gone (tidy.sound.live_perm.mem_iff.mpr hc)
    have honce : [(owner.handle.address, domain)].filter (·.1 = owner.handle.address)
        = [(owner.handle.address, domain)] := by simp
    have hdeparting : world'.Departing world owner domain :=
      tidy.departing freed.freed (by rw [freed.counters])
        (fun hc => absurd (List.mem_map_of_mem hc) hout) (.inr ⟨hout, honce⟩)
    exact hdeparting.flush
  | dropped message departing => exact departing.flush

end Fares

/-- **A call loses no context** if every context that it gets an owner for fares well. -/
theorem leakFree_of_fares {request : Request} {stumbles : Handle → Recorded σ → Int32 → Prop}
    {act : Work (Recorded σ) α}
    (hrefused : (∀ handle after, ¬ Grants backend request world handle after) →
      (∃ abort, (act world).1 = .error abort) ∧ Untouched world (act world).2)
    (hfares : ∀ handle after, Grants backend request world handle after →
      Fares (world.enrolled domain handle after) (world.registry.nextOwner handle domain.name)
        domain (act world).1 (act world).2)
    (hends : ∀ handle after status, Grants backend request world handle after →
      stumbles handle after status → ∃ abort, (act world).1 = .error abort ∧ EndsOn status abort) :
    LeakFree backend world domain request stumbles act := by
  -- What is counted for the new owner, and that nothing is freed for it.
  have hcounters : ∀ handle after, Grants backend request world handle after →
      (world.enrolled domain handle after).registry.counters = { world.registry.counters with
        registered := world.registry.counters.registered + 1 } := by
    rintro handle after ⟨reply, -, -, -, hnew⟩
    rw [World.enrolled, Registry.own_of_not_mem _ _ _ _ hnew]
  have hsame : ∀ handle after, Grants backend request world handle after →
      disposals after.log = disposals world.native.log := by
    rintro handle after ⟨reply, hreply, -⟩
    exact hreply.disposals
  have hfreed : ∀ handle after abort, Grants backend request world handle after →
      (act world).1 = .error abort →
      FreedOnceSince world (World.flush (.ofBackend backend.recorded) (act world).2).2
        (handle.address, domain) := by
    intro handle after abort hgrants hresult
    have hfare := hfares handle after hgrants
    rw [hresult] at hfare
    obtain ⟨freed, hlog, honce⟩ := hfare.freedOnce backend
    exact ⟨freed, hsame handle after hgrants ▸ hlog, honce⟩
  refine ⟨⟨?_, ?_⟩, hrefused, ?_, ?_, hfreed⟩
  · intro hregistered
    by_contra hnone
    have hnot : ∀ handle after, ¬ Grants backend request world handle after :=
      fun handle after hgrants => hnone ⟨handle, after, hgrants⟩
    rw [(hrefused hnot).2.counters] at hregistered
    exact Nat.ne_of_lt (Nat.lt_succ_self _) hregistered
  · rintro ⟨handle, after, hgrants⟩
    rw [(hfares handle after hgrants).registered, hcounters handle after hgrants]
  · intro handle after code hgrants hstumbles
    obtain ⟨abort, hresult, hends⟩ := hends handle after code.status hgrants hstumbles
    obtain ⟨detail, rfl⟩ := hends.native
    have hfare := hfares handle after hgrants
    rw [hresult] at hfare
    have hgone := hfare.freedAtOnce
    refine ⟨⟨detail, hresult⟩, ?_, ?_, hgone.gone⟩
    · rw [hgone.freed]
      exact congrArg (· ++ _) (hsame handle after hgrants)
    · rw [hgone.counters, hcounters handle after hgrants]
  · intro handle after status hgrants hstumbles hundefined
    obtain ⟨abort, hresult, hends⟩ := hends handle after status hgrants hstumbles
    obtain ⟨message, rfl⟩ := hends.panicked hundefined
    exact ⟨⟨message, hresult⟩, hfreed handle after _ hgrants hresult⟩

end Custody.Held

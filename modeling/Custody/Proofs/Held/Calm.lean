import Custody.Proofs.Held.Tenants
import Custody.Proofs.Registry.Steps
import Custody.Proofs.Service.Outcomes
import Custody.Proofs.Service.Views

/-!
# Calm worlds

A world is calm while its registry is in order and its daemon leaves it alone: the daemon has
nothing in hand, and either it takes no turn or there is nothing that a turn could take up
(`World.Calm`). Earlier notices may wait in a calm world as long as the daemon does. If it did not,
it could take an entry out of the table, and a library could hand out its address once more before
the first context is freed: that address would then be freed once for each of two owners.

In such a world each step of a program is what it is by itself (`native_of_calm`,
`entrust_of_calm`), whatever library is behind it. So an owner comes exactly if the library hands
out a context that has no owner yet (`Grants`), and an owner that disposes of its handle frees its
context and no other (`dispose_of_holds`).

Where a library is known to give new contexts new addresses, nothing of the kind is assumed, and the
daemon may take any turns (`Shelf.contexts_in_order`). Calm worlds are for libraries that may reply
whatever they like.
-/

namespace Custody

open Held

variable {σ α β : Type}

/-! ## Contexts that are freed -/

/-- **The contexts that calls have freed**, each with the kind that its call is for. -/
def disposals (log : List (Note σ)) : List (Address × Domain) := log.filterMap (·.call.frees?)

theorem disposals_snoc (log : List (Note σ)) (note : Note σ) :
    disposals (log ++ [note]) = disposals log ++ note.call.frees?.toList := by
  rw [disposals, List.filterMap_append]
  cases h : note.call.frees? with
  | none => simp [h, disposals]
  | some freed => simp [h, disposals]

/-- An action on a library that frees no context. -/
def FreesNothing (act : StateM (Recorded σ) α) : Prop :=
  ∀ recorded, disposals (act recorded).2.log = disposals recorded.log

namespace FreesNothing

variable {backend : Backend σ}

theorem submit {call : Call} (h : call.frees? = none) :
    FreesNothing (backend.recorded.submit call) := by
  intro recorded
  rw [show (backend.recorded.submit call recorded).2.log
    = recorded.log ++ [⟨recorded.state, call, _⟩] from rfl, disposals_snoc, h, Option.toList_none,
    List.append_nil]

/-- **No request frees a context.** -/
theorem overlooks (backend : Backend σ) :
    Overlooks backend.recorded fun recorded => disposals recorded.log where
  request hcall := submit (Request.agrees_call hcall).2.1
  drain _ := submit rfl

theorem number (request : Request) : FreesNothing (backend.recorded.number request) :=
  (overlooks backend).number request

theorem perform (request : Request) : FreesNothing (backend.recorded.perform request) :=
  (overlooks backend).perform request

theorem fill (request : Nat → Request) (before : Bytes) :
    FreesNothing (backend.recorded.fill request before) := (overlooks backend).fill request before

theorem allocate (request : Request) : FreesNothing (backend.recorded.allocate request) :=
  (overlooks backend).allocate request

end FreesNothing

/-- A registry frees the contexts whose release functions were entered, and no others. -/
theorem disposals_free (backend : Backend σ) (released : List (Entered Domain))
    (recorded : Recorded σ) :
    disposals (World.free (.ofBackend backend.recorded) released recorded).2.log
      = disposals recorded.log ++ released.map Entered.context := by
  induction released generalizing recorded with
  | nil => exact (List.append_nil _).symm
  | cons entered released ih =>
    have hbackend : entered.effect.backend (.ofBackend backend.recorded) = backend.recorded := by
      cases entered.effect <;> rfl
    have hfirst : disposals (backend.recorded.submit entered.disposal recorded).2.log
        = disposals recorded.log ++ [entered.context] := by
      rw [show (backend.recorded.submit entered.disposal recorded).2.log
        = recorded.log ++ [⟨recorded.state, entered.disposal, _⟩] from rfl, disposals_snoc]
      exact congrArg (disposals recorded.log ++ Option.toList ·) (Domain.frees?_disposal _ _)
    have hrest := ih (backend.recorded.submit entered.disposal recorded).2
    rw [hfirst, List.append_assoc] at hrest
    rw [World.free, hbackend]
    exact hrest

/-! ## Requests that allocate -/

/-- **A request that allocates succeeds** exactly if its call is made, reports success, and gives
an address that is not zero. -/
theorem Backend.allocate_eq_ok_iff (backend : Backend σ) {request : Request} {state after : σ}
    {handle : Handle} : backend.allocate request state = (.ok handle, after) ↔
      ∃ call reply, request.call = .ok call ∧ backend.submit call state = (reply, after)
        ∧ 0 ≤ reply.status ∧ reply.handle = some handle.address := by
  rw [Library.allocate_eq]
  constructor
  · intro h
    obtain ⟨hresult, hafter⟩ := Prod.ext_iff.mp h
    cases houtcome : (backend.exchange request state).1.outcome with
    | error abort =>
      rw [houtcome] at hresult
      cases hresult
    | ok n =>
      obtain ⟨call, hcall, hstatus, -⟩ := backend.exchange_of_outcome houtcome
      rw [houtcome, backend.exchange_of_nonneg hcall hstatus] at hresult
      rw [backend.exchange_of_nonneg hcall hstatus] at hafter
      refine ⟨call, _, hcall, Prod.ext rfl hafter, hstatus, ?_⟩
      -- Where no handle was given, or zero, there would be a failure.
      cases hgiven : (backend.submit call state).1.handle with
      | none => simp [hgiven, Handle.ofAddress?] at hresult
      | some address =>
        by_cases hne : address = 0
        · simp [hgiven, hne, Handle.ofAddress?] at hresult
        · simp only [hgiven, Option.getD_some, Handle.ofAddress?, ne_eq, hne, not_false_eq_true,
            dite_true] at hresult
          cases hresult
          rfl
  · rintro ⟨call, reply, hcall, hsubmit, hstatus, hhandle⟩
    have hgranted : 0 ≤ (backend.submit call state).1.status := by rwa [hsubmit]
    have hexchange := backend.exchange_of_nonneg hcall hgranted
    rw [hsubmit] at hexchange
    simp [hexchange, hhandle, Handle.ofAddress?, handle.ne_zero]

namespace Held

/-! ## Worlds that the daemon leaves alone -/

/-- **A world in which nothing is under way**: the registry is in order, and the daemon has nothing
in hand. -/
structure World.Tidy (world : World σ) : Prop where
  /-- The table agrees with itself. -/
  sound : world.registry.table.Sound
  /-- No release function panics when it is destroyed. -/
  quiet : world.registry.ledger.Quiet
  /-- The actions of the entries are bound to their handles. -/
  bound : ∀ entry ∈ world.registry.table.entries,
    world.registry.ledger.handleOf? entry.action = some entry.handle
  /-- What was released is freed. -/
  cleared : world.registry.ledger.entered = []
  /-- The daemon has nothing in hand. -/
  hand : world.hand = []

/-- **A calm world**: nothing is under way, and the daemon leaves it alone. -/
structure World.Calm (world : World σ) : Prop extends world.Tidy where
  /-- The daemon runs. -/
  daemon : world.registry.daemon = true
  /-- The daemon waits, or there is neither a notice nor an orphan that it could take up. -/
  idle : world.turns = [] ∨ (world.registry.notices = [] ∧
    ∀ entry ∈ world.registry.table.entries, world.registry.ledger.isAlive entry.token = true)

/-- The world after a pause in which the daemon did nothing. -/
def World.next (world : World σ) : World σ := { world with turns := world.turns.tail }

variable {services : Services σ} {world : World σ} {owner : Owner} {domain : Domain}

/-- A turn in which there is nothing to take up. -/
theorem turn_of_idle (hhand : world.hand = []) (hnotices : world.registry.notices = [])
    (halive : ∀ entry ∈ world.registry.table.entries,
      world.registry.ledger.isAlive entry.token = true) (turn : Turn) :
    World.turn services turn world = ((), world) := by
  cases turn with
  | notice => simp [World.turn, Registry.takeNotice, hnotices, World.takeUp]
  | sweep =>
    have horphans : world.registry.orphans = [] := by
      rw [List.eq_nil_iff_forall_not_mem]
      intro key hkey
      obtain ⟨entry, hfound, hdead⟩ := SlotTable.mem_keysWhere.mp hkey
      simp [halive entry (SlotTable.mem_entries.mpr ⟨key, hfound⟩)] at hdead
    simp [World.turn, Registry.gather, horphans, SlotTable.takeAll, World.takeUp]
  | release => simp [World.turn, World.release, hhand]

theorem takeTurns_of_idle (hhand : world.hand = []) (hnotices : world.registry.notices = [])
    (halive : ∀ entry ∈ world.registry.table.entries,
      world.registry.ledger.isAlive entry.token = true) (turns : List Turn) :
    World.takeTurns services turns world = ((), world) := by
  induction turns with
  | nil => rfl
  | cons turn turns ih =>
    show World.takeTurns services turns (World.turn services turn world).2 = _
    rw [turn_of_idle hhand hnotices halive turn]
    exact ih

/-- **Before a step of a calm world nothing happens.** -/
theorem pause_of_calm (h : world.Calm) : World.pause services world = ((), world.next) := by
  obtain ⟨native, registry, hand, turns⟩ := world
  cases turns with
  | nil => rfl
  | cons batch rest =>
    -- There is a turn to come, so that there is nothing to be taken up.
    obtain ⟨hnotices, halive⟩ := h.idle.resolve_left (List.cons_ne_nil batch rest)
    have hhand : (⟨native, registry, hand, rest⟩ : World σ).hand = [] := h.hand
    exact takeTurns_of_idle hhand hnotices halive batch

namespace World.Calm

/-- A calm world stays calm when its library is used. -/
theorem native (h : world.Calm) (native : σ) : { world.next with native := native }.Calm where
  sound := h.sound
  quiet := h.quiet
  bound := h.bound
  daemon := h.daemon
  cleared := h.cleared
  hand := h.hand
  idle := h.idle.imp_left fun hturns => by simp [next, hturns]

theorem next (h : world.Calm) : world.next.Calm := h.native world.native

end World.Calm

/-! ## Steps in a calm world -/

/-- **A step in which the library is used** is what the library does. -/
theorem native_of_calm (h : world.Calm) (act : StateM σ α) : Held.native services act world
    = ((act world.native).1, { world.next with native := (act world.native).2 }) := by
  show (fun world : World σ => ((act world.native).1,
    { world with native := (act world.native).2 })) (World.pause services world).2 = _
  rw [pause_of_calm h]
  rfl

theorem ask_of_calm (h : world.Calm) (act : Act σ α) : ask services act world
    = ((act world.native).1, { world.next with native := (act world.native).2 }) :=
  native_of_calm h act

/-- **A step of the registry** is what the registry does. -/
theorem entrust_of_calm (h : world.Calm) (step : Registry Domain → α × Registry Domain) :
    entrust services step world = World.custody services step world.next := by
  show World.custody services step (World.pause services world).2 = _
  rw [pause_of_calm h]

/-- Where no release function is entered, no context is freed. -/
theorem custody_of_cleared {step : Registry Domain → α × Registry Domain}
    (h : (step world.registry).2.ledger.entered = []) : World.custody services step world
      = ((step world.registry).1, { world with registry := (step world.registry).2 }) := by
  simp only [World.custody, h, World.free]
  have hledger : ∀ ledger : Ledger Domain, ledger.entered = [] →
      { ledger with entered := [] } = ledger := by
    rintro ⟨actions, tokens, entered⟩ rfl
    rfl
  rw [hledger _ h]
  rfl

/-- A step of the registry in which no release function is entered. -/
theorem entrust_of_cleared (h : world.Calm) {step : Registry Domain → α × Registry Domain}
    (hstep : (step world.registry).2.ledger.entered = []) : entrust services step world
      = ((step world.registry).1, { world.next with registry := (step world.registry).2 }) :=
  (entrust_of_calm h step).trans (custody_of_cleared hstep)

/-! ## Owners that come -/

variable {backend : Backend σ} {request : Request} {handle : Handle} {after : Recorded σ}

/-- **What a library replies to a request**, if its call is made at all, and the library then. -/
def Replies (backend : Backend σ) (request : Request) (native : Recorded σ) (reply : Reply)
    (after : Recorded σ) : Prop :=
  ∃ call, request.call = .ok call ∧ backend.recorded.submit call native = (reply, after)

/-- **A library hands out a context that has no owner yet**: it reports success and gives an address
that is not zero and that no entry has. -/
def Grants (backend : Backend σ) (request : Request) (world : World (Recorded σ)) (handle : Handle)
    (after : Recorded σ) : Prop :=
  ∃ reply, Replies backend request world.native reply after ∧ 0 ≤ reply.status
    ∧ reply.handle = some handle.address ∧ handle.address ∉ world.registry.table.live

/-- **Nothing has come of an attempt.** -/
structure Untouched (world world' : World (Recorded σ)) : Prop where
  /-- The table is as it was. -/
  table : world'.registry.table = world.registry.table
  /-- Nothing was counted. -/
  counters : world'.registry.counters = world.registry.counters
  /-- No context was freed. -/
  freed : disposals world'.native.log = disposals world.native.log

/-- The world in which a handle has got its owner. -/
def World.enrolled (world : World (Recorded σ)) (domain : Domain) (handle : Handle)
    (after : Recorded σ) : World (Recorded σ) :=
  { world.next.next with
    native := after
    registry := (world.registry.own handle domain.name (.plain domain)).2 }

/-- **An owner that is held in a calm world.** -/
structure World.Holds (world : World σ) (owner : Owner) (domain : Domain) : Prop
    extends world.Calm where
  /-- Its entry is in the table. -/
  found : world.registry.table.find? owner.key = some owner.entry
  /-- Its context has not been freed. -/
  waiting : world.registry.ledger.isCompleted owner.action = false
  /-- Its release function frees a context of this kind. -/
  release : world.registry.ledger.releaseOf? owner.action = some (.plain domain)

@[simp] theorem Domain.backend_ofBackend (domain : Domain) (backend : Backend σ) :
    domain.backend (.ofBackend backend) = backend := by
  cases domain <;> rfl

/-- No reply frees a context. -/
theorem Replies.disposals {native : Recorded σ} {reply : Reply}
    (h : Replies backend request native reply after) :
    disposals after.log = disposals native.log := by
  obtain ⟨call, hcall, hsubmit⟩ := h
  have hfrees : FreesNothing (backend.recorded.submit call) :=
    .submit (Request.agrees_call hcall).2.1
  have hsame := hfrees native
  rwa [hsubmit] at hsame

/-- An owner comes into a registry without a release function being entered. -/
theorem entered_own (registry : Registry Domain) (handle : Handle) (name : String)
    (release : Release Domain) :
    (registry.own handle name release).2.ledger.entered = registry.ledger.entered := by
  by_cases hmem : handle.address ∈ registry.table.live
  · obtain ⟨abort, hown⟩ := registry.own_of_mem handle name release hmem
    simp [hown]
  · simp [registry.own_of_not_mem handle name release hmem]

theorem acquire_of_allocate {world : World (Recorded σ)} (h : world.Calm)
    (hallocate : backend.recorded.allocate request world.native = (.ok handle, after)) :
    acquire (.ofBackend backend.recorded) domain request world
      = ((world.registry.own handle domain.name (.plain domain)).1,
        world.enrolled domain handle after) := by
  have hask : ask (.ofBackend backend.recorded)
      ((domain.backend (.ofBackend backend.recorded)).allocate request) world
      = (.ok handle, { world.next with native := after }) := by
    rw [ask_of_calm h, Domain.backend_ofBackend, hallocate]
  rw [acquire, Act.bind_of_ok hask]
  exact entrust_of_cleared (h.native after) ((entered_own _ _ _ _).trans h.cleared)

/-- **A context that was handed out gets its owner.** -/
theorem acquire_of_grants {world : World (Recorded σ)} (h : world.Calm)
    (hgrants : Grants backend request world handle after) :
    acquire (.ofBackend backend.recorded) domain request world
      = (.ok (world.registry.nextOwner handle domain.name),
        world.enrolled domain handle after) := by
  obtain ⟨reply, ⟨call, hcall, hsubmit⟩, hstatus, hhandle, hnew⟩ := hgrants
  have hallocate := backend.recorded.allocate_eq_ok_iff.mpr
    ⟨call, reply, hcall, hsubmit, hstatus, hhandle⟩
  rw [acquire_of_allocate h hallocate, Registry.own_of_not_mem _ _ _ _ hnew]

/-- **Where no context was handed out, or only one that has an owner, nothing comes of it.** -/
theorem acquire_of_not_grants {world : World (Recorded σ)} (h : world.Calm)
    (hnot : ∀ handle after, ¬ Grants backend request world handle after) :
    (∃ abort, (acquire (.ofBackend backend.recorded) domain request world).1 = .error abort)
      ∧ Untouched world (acquire (.ofBackend backend.recorded) domain request world).2 := by
  have hfrees : FreesNothing (backend.recorded.allocate request) := .allocate request
  have hspares := hfrees world.native
  cases hallocate : backend.recorded.allocate request world.native with
  | mk result after =>
    rw [hallocate] at hspares
    cases result with
    | error abort =>
      have hask : ask (.ofBackend backend.recorded)
          ((domain.backend (.ofBackend backend.recorded)).allocate request) world
          = (.error abort, { world.next with native := after }) := by
        rw [ask_of_calm h, Domain.backend_ofBackend, hallocate]
      rw [acquire, Act.bind_of_error hask]
      exact ⟨⟨abort, rfl⟩, rfl, rfl, hspares⟩
    | ok handle =>
      obtain ⟨call, reply, hcall, hsubmit, hstatus, hhandle⟩ :=
        backend.recorded.allocate_eq_ok_iff.mp hallocate
      -- The library has handed out a context, so that its address must have an owner already.
      have hmem : handle.address ∈ world.registry.table.live := by
        by_contra hnew
        exact hnot handle after ⟨reply, ⟨call, hcall, hsubmit⟩, hstatus, hhandle, hnew⟩
      obtain ⟨abort, hown⟩ := world.registry.own_of_mem handle domain.name (.plain domain) hmem
      rw [acquire_of_allocate h hallocate, World.enrolled, hown]
      exact ⟨⟨abort, rfl⟩, rfl, rfl, hspares⟩

/-- **A new owner is held.** -/
theorem World.Calm.holds_enrolled {world : World (Recorded σ)} (h : world.Calm)
    (hnew : handle.address ∉ world.registry.table.live) :
    (world.enrolled domain handle after).Holds
      (world.registry.nextOwner handle domain.name) domain := by
  have hown := world.registry.own_of_not_mem handle domain.name (.plain domain) hnew
  have hmem : ∀ entry ∈ (world.registry.table.place
      (world.registry.nextEntry handle domain.name)).2.entries,
      entry = world.registry.nextEntry handle domain.name ∨ entry ∈ world.registry.table.entries :=
    fun entry hentry => List.mem_cons.mp ((h.sound.entries_place _).mem_iff.mp hentry)
  rw [World.enrolled, hown]
  -- An entry is the new one or an old one, whose action has a smaller number.
  refine ⟨⟨⟨h.sound.place hnew, ?_, ?_, by simpa using h.cleared, h.hand⟩, h.daemon, ?_⟩,
    ?_, ?_, ?_⟩
  · exact fun id release hrelease =>
      (h.quiet.prepare handle rfl) id release (by simpa using hrelease)
  · intro entry hentry
    rw [Ledger.handleOf?_hold, Ledger.handleOf?_prepare]
    cases hmem entry hentry with
    | inl heq =>
      rw [heq]
      exact if_pos rfl
    | inr hold =>
      have hbound := h.bound entry hold
      rw [if_neg, hbound]
      exact Nat.ne_of_lt (world.registry.ledger.lt_of_handleOf? hbound)
  · refine h.idle.imp (fun hturns => by simp [World.next, hturns]) fun ⟨hnotices, halive⟩ =>
      ⟨hnotices, fun entry hentry => ?_⟩
    show (world.registry.ledger.prepare handle (.plain domain)).isAlive entry.token = true
    rw [Ledger.isAlive_prepare]
    cases hmem entry hentry with
    | inl heq =>
      rw [heq]
      exact if_pos rfl
    | inr hold => rw [halive entry hold, ite_self]
  · exact (h.sound.find?_place _ _).trans (if_pos rfl)
  · rw [Ledger.isCompleted_hold, Ledger.isCompleted_prepare]
    exact world.registry.ledger.isCompleted_of_le (Nat.le_refl _)
  · rw [Ledger.releaseOf?_hold, Ledger.releaseOf?_prepare]
    exact if_pos rfl

/-- An owner is held of every context that was handed out. -/
theorem Grants.holds {world : World (Recorded σ)}
    (hgrants : Grants backend request world handle after) (h : world.Calm) :
    (world.enrolled domain handle after).Holds
      (world.registry.nextOwner handle domain.name) domain := by
  obtain ⟨reply, -, -, -, hnew⟩ := hgrants
  exact h.holds_enrolled hnew

/-! ## Owners that go -/

/-- An owner that is held is bound to its handle. -/
theorem World.Holds.bound_owner (h : world.Holds owner domain) :
    world.registry.ledger.handleOf? owner.action = some owner.handle :=
  h.bound owner.entry (SlotTable.mem_entries.mpr ⟨owner.key, h.found⟩)

/-- **A context is freed at once**, and this is counted. -/
structure FreedAtOnce (world world' : World (Recorded σ)) (context : Address × Domain) : Prop where
  /-- It is the only context that was freed. -/
  freed : disposals world'.native.log = disposals world.native.log ++ [context]
  /-- One explicit disposal is counted. -/
  counters : world'.registry.counters
    = { world.registry.counters with explicit := world.registry.counters.explicit + 1 }
  /-- Its address has no owner any more. -/
  gone : context.1 ∉ world'.registry.table.live

/-- A calm world stays calm when an entry is taken out of the table. -/
theorem World.Calm.take (h : world.Calm) {key : SlotKey} {entry : Entry} {rest : SlotTable}
    (htake : world.registry.table.take key = some (entry, rest)) :
    { world.next with registry := { world.registry with table := rest } }.Calm := by
  have hmem : ∀ other ∈ rest.entries, other ∈ world.registry.table.entries := fun other hother =>
    (SlotTable.entries_take htake).mem_iff.mpr (List.mem_cons_of_mem _ hother)
  exact
    { sound := h.sound.take htake
      quiet := h.quiet
      bound := fun other hother => h.bound other (hmem other hother)
      cleared := h.cleared
      hand := h.hand
      daemon := h.daemon
      idle := h.next.idle.imp_right fun ⟨hnotices, halive⟩ =>
        ⟨hnotices, fun other hother => halive other (hmem other hother)⟩ }

/-- A calm world stays calm when a release function has been entered and its context freed. -/
theorem World.Calm.spent (h : world.Calm) (entry : Entry) (counters : Counters) (native : σ) :
    { world.next with
      native := native
      registry := { world.registry with
        counters := counters
        ledger := { ((world.registry.ledger.run world.registry.table.live entry.action).2.letGo
          entry.action).2 with entered := [] } } }.Calm where
  sound := h.sound
  quiet := (h.quiet.run world.registry.table.live entry.action).letGo entry.action
  bound other hother := by
    rw [← h.bound other hother]
    exact (Ledger.handleOf?_letGo _ _ _).trans (Ledger.handleOf?_run _ _ _ _)
  cleared := rfl
  hand := h.hand
  daemon := h.daemon
  idle := h.next.idle.imp_right fun ⟨hnotices, halive⟩ => ⟨hnotices, fun other hother => by
    rw [← halive other hother, Ledger.isAlive, Ledger.tokens_letGo, Ledger.tokens_run]
    rfl⟩

/-- The context of an entry that has left the table is freed on the owner's account. -/
theorem settle_of_calm {world : World (Recorded σ)} (h : world.Calm) {entry : Entry}
    (hwaiting : world.registry.ledger.isCompleted entry.action = false)
    (hrelease : world.registry.ledger.releaseOf? entry.action = some (.plain domain))
    (hhandle : world.registry.ledger.handleOf? entry.action = some entry.handle) :
    ∃ world' : World (Recorded σ), entrust (.ofBackend backend.recorded)
        (fun registry => registry.settle (some entry) entry.action) world = (.ok true, world')
      ∧ world'.Calm ∧ world'.registry.table = world.registry.table
      ∧ world'.registry.counters
        = { world.registry.counters with explicit := world.registry.counters.explicit + 1 }
      ∧ disposals world'.native.log
        = disposals world.native.log ++ [(entry.address, domain)] := by
  obtain ⟨hattempt, hentered⟩ := world.registry.ledger.run_of_open world.registry.table.live
    entry.action hwaiting hrelease hhandle
  have hsettle := Registry.settle_of_released world.registry entry.action entry h.quiet hattempt
  refine ⟨_, ?_, h.spent entry _ (World.free (.ofBackend backend.recorded)
    ((world.registry.ledger.run world.registry.table.live entry.action).2.letGo
      entry.action).2.entered world.native).2, rfl, rfl, ?_⟩
  · rw [entrust_of_calm h]
    show World.custody _ _ { world.next with registry := world.registry } = _
    simp only [World.custody, hsettle]
    rfl
  · rw [disposals_free, Ledger.entered_letGo, hentered, h.cleared]
    rfl

/-- The last step of an owner that goes. -/
theorem letGo_of_calm (h : world.Calm) (owner : Owner) :
    ∃ world' : World σ, entrust services (fun registry => registry.letGo owner) world
        = (.ok (), world')
      ∧ world'.Tidy ∧ world'.registry.table = world.registry.table
      ∧ world'.registry.counters = world.registry.counters ∧ world'.native = world.native := by
  have hquiet : (world.registry.ledger.kill owner.token).Quiet := h.quiet
  have hletGo : world.registry.letGo owner = (.ok (), (world.registry.letGo owner).2) := by
    simp [Registry.letGo, hquiet.letGo_fst]
  have hentered : (world.registry.letGo owner).2.ledger.entered = [] := by
    simpa using h.cleared
  refine ⟨{ world.next with registry := (world.registry.letGo owner).2 },
    (entrust_of_cleared h hentered).trans (by rw [hletGo]),
    ⟨h.sound, hquiet.letGo owner.action, fun entry hentry => ?_, hentered, h.hand⟩, rfl, rfl, rfl⟩
  rw [← h.bound entry hentry]
  exact Ledger.handleOf?_letGo _ _ _

/-- **An owner that disposes of its handle** frees its context, and nothing else is freed. -/
theorem dispose_of_holds (backend : Backend σ) {world : World (Recorded σ)}
    (h : world.Holds owner domain) : ∃ world' : World (Recorded σ),
      dispose (.ofBackend backend.recorded) owner world = (.ok (), world')
        ∧ FreedAtOnce world world' (owner.handle.address, domain) ∧ world'.Tidy := by
  obtain ⟨rest, htake⟩ : ∃ rest, world.registry.table.take owner.key = some (owner.entry, rest) :=
    ⟨_, SlotTable.take_eq_some_iff.mpr ⟨h.found, rfl⟩⟩
  have hwithdraw : entrust (.ofBackend backend.recorded)
      (fun registry => registry.withdraw owner.key) world
      = (some owner.entry,
        { world.next with registry := { world.registry with table := rest } }) := by
    rw [entrust_of_cleared h.toCalm ((congrArg _ (Registry.withdraw_ledger _ _)).trans h.cleared),
      Registry.withdraw_of_take _ htake]
  obtain ⟨settled, hsettle, hcalm, htable, hcounters, hfreed⟩ :
      ∃ world' : World (Recorded σ), entrust (.ofBackend backend.recorded)
        (fun registry => registry.settle (some owner.entry) owner.action) _ = (.ok true, world')
        ∧ _ :=
    settle_of_calm (h.toCalm.take htake) h.waiting h.release h.bound_owner
  obtain ⟨gone, hletGo, htidy, htable', hcounters', hnative⟩ :
      ∃ world' : World (Recorded σ), entrust (.ofBackend backend.recorded)
        (fun registry => registry.letGo owner) settled = (.ok (), world') ∧ _ :=
    letGo_of_calm hcalm owner
  refine ⟨gone, ?_, ⟨?_, hcounters'.trans hcounters, ?_⟩, htidy⟩
  · simp only [dispose, bind, StateT.bind, hwithdraw, hsettle, hletGo]
    rfl
  · rw [hnative]
    exact hfreed
  · -- The addresses of the table are named once each, and this one has been struck off.
    rw [htable', htable, (SlotTable.take_eq_some_iff.mp htake).2]
    exact fun hc => (h.sound.live_nodup.mem_erase_iff.mp hc).1 rfl

end Held

end Custody

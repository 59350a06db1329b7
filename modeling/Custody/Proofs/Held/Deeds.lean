import Custody.Proofs.Held.Shelf
import Custody.Proofs.Vault.Changes

/-!
# What is done to a shelf

A program that keeps its things on a shelf runs operations and now and then waits for the daemon
(`Shelf.Deed`). Whatever it does, in whatever order, and whatever turns the daemon takes in
between, the stake of its shelf stands (`Shelf.stocked_after`). From there it can be read off
what becomes of the contexts of the library (`Shelf.contexts_in_order`): those of the things on
the shelf are there, no call is made with one that is not, and when nothing is left on the shelf
and the daemon has been waited for, each has been freed once.

The statement about a run has one hypothesis on its last state (`Fit`), which then holds of every
state before. From the last shelf everything is read off: that contexts on the shelf are there
follows from the owners that are held, that every call was proper is kept up along the log, and that
all contexts are gone in the end follows from an empty stake, under which a registry that has been
flushed answers for nothing.
-/

namespace Custody.Held

variable {σ : Type}

theorem World.eq_of_start {settings : Settings} {native : σ} {turns : List (List Turn)}
    {world : World σ}
    (h : World.start settings native turns = .ok world) : ⟨native, .empty, [], turns⟩ = world := by
  unfold World.start Registry.start at h
  split at h
  · cases h
  · split at h
    · cases h
    · exact Except.ok.inj h

namespace Shelf

/-- Something that is done to a shelf. -/
inductive Deed
  /-- An operation is run. -/
  | run (operation : Operation)
  /-- The daemon is waited for. -/
  | settle

/-- A shelf after a deed. -/
def act (services : Services σ) (shelf : Shelf σ) : Deed → Shelf σ
  | .run operation => (run services operation shelf).2
  | .settle => settle services shelf

/-- **A shelf after several deeds**, one after the other. -/
def after (services : Services σ) (shelf : Shelf σ) (deeds : List Deed) : Shelf σ :=
  deeds.foldl (act services) shelf

theorem after_append (services : Services σ) (shelf : Shelf σ) (first second : List Deed) :
    after services shelf (first ++ second) = after services (after services shelf first) second :=
  List.foldl_append

section Deeds

variable {library : Library σ}

theorem grows_act (deed : Deed) (shelf : Shelf (Recorded σ)) :
    Grows library shelf.world (act library.services shelf deed).world := by
  cases deed with
  | run operation => exact (LeadsStocked.run operation shelf).1
  | settle =>
    have hflush : Keeps library ⟨[], [], [], []⟩ (World.flush library.services) := keeps_flush
    exact (hflush shelf.world).1

/-- **A deed leaves the stake of a shelf standing.** -/
theorem stocked_act {deed : Deed} {shelf : Shelf (Recorded σ)} (h : Stocked library [] shelf)
    (hfit : Fit library (act library.services shelf deed).world) :
    Stocked library [] (act library.services shelf deed) := by
  cases deed with
  | run operation =>
    have hrun := (LeadsStocked.run operation shelf).2 hfit h
    rw [act]
    split at hrun
    · exact hrun
    · exact hrun
  | settle =>
    have hflush : Keeps library (stakeOf (holdings shelf.items)) (World.flush library.services) :=
      keeps_flush
    exact ⟨h.nodup, (hflush shelf.world).2 hfit h.stands⟩

theorem grows_after (deeds : List Deed) (shelf : Shelf (Recorded σ)) :
    Grows library shelf.world (after library.services shelf deeds).world := by
  induction deeds generalizing shelf with
  | nil => exact .refl shelf.world
  | cons deed deeds ih => exact (grows_act deed shelf).trans (ih (act library.services shelf deed))

/-- **Whatever is done to a shelf**, its stake stands. -/
theorem stocked_after {deeds : List Deed} {shelf : Shelf (Recorded σ)}
    (h : Stocked library [] shelf) (hfit : Fit library (after library.services shelf deeds).world) :
    Stocked library [] (after library.services shelf deeds) := by
  induction deeds generalizing shelf with
  | nil => exact h
  | cons deed deeds ih => exact ih (stocked_act h ((grows_after deeds _).fit hfit)) hfit

/-! ## What becomes of contexts -/

/-- The things on a shelf whose stake stands have contexts of their kind. -/
theorem Stocked.there {shelf : Shelf (Recorded σ)} (h : Stocked library [] shelf)
    {holding : Owner × Domain} (hholding : holding ∈ holdings shelf.items) :
    library.recordedAt shelf.world.native holding.1.handle.address = some holding.2 := by
  obtain ⟨s, hs⟩ := h.stands
  have hmem : (holding.1.handle.address, holding.2) ∈ (stakeOf (holdings shelf.items)).contexts :=
    List.mem_map.mpr ⟨holding, hholding, rfl⟩
  exact hs.there hmem

/-- No two of them have the same one. -/
theorem Stocked.apart {shelf : Shelf (Recorded σ)} (h : Stocked library [] shelf) :
    ((holdings shelf.items).map fun holding => holding.1.handle.address).Nodup := by
  obtain ⟨s, hs⟩ := h.stands
  have hnodup := hs.contexts_nodup
  rwa [Stake.contexts, List.map_map] at hnodup

/-- Every call was made with contexts that were there. -/
theorem Stocked.proper {shelf : Shelf (Recorded σ)} (h : Stocked library [] shelf) :
    library.Proper shelf.world.native.log := by
  obtain ⟨s, hs⟩ := h.stands
  exact hs.proper

/-- A shelf with nothing on it, in a world that has just been started over a library without
contexts. -/
theorem stocked_start {settings : Settings} {native : σ} {turns : List (List Turn)}
    {world : World (Recorded σ)} (hstart : World.start settings ⟨native, []⟩ turns = .ok world)
    (hempty : ∀ address, library.kindAt native address = none) :
    Stocked library [] ⟨world, []⟩ := by
  refine ⟨List.nodup_nil, .start, ?_⟩
  rw [← World.eq_of_start hstart]
  exact
    { coherent := Estate.coherent_start
      registry := rfl
      hand := rfl
      program := ⟨.nil, rfl, rfl⟩
      kinds := List.forall_mem_nil _
      cleared := rfl
      lets := ⟨List.nodup_nil, fun address domain =>
        ⟨fun h => (Option.some_ne_none _ (h.symm.trans (hempty address))).elim, nofun⟩⟩
      proper := List.forall_mem_nil _ }

/-- **No context is left** when nothing is on the shelf and the daemon has been waited for. -/
theorem Stocked.gone {shelf : Shelf (Recorded σ)} (h : Stocked library [] shelf)
    (hfit : Fit library (settle library.services shelf).world) (hgone : holdings shelf.items = [])
    (address : Address) :
    library.recordedAt (settle library.services shelf).world.native address = none := by
  have hstands := h.stands
  rw [hgone] at hstands
  exact recordedAt_flush hstands hfit address

/-- **Every context has been freed once** by then. -/
theorem freedOnce_settle {native : σ} {world : World (Recorded σ)} {deeds : List Deed}
    (hnative : world.native = ⟨native, []⟩) (h : Stocked library [] ⟨world, []⟩)
    (hfit : Fit library (after library.services ⟨world, []⟩ (deeds ++ [.settle])).world)
    (hgone : holdings (after library.services ⟨world, []⟩ (deeds ++ [.settle])).items = []) :
    FreedOnce (after library.services ⟨world, []⟩ (deeds ++ [.settle])).world.native.log := by
  have hgrows : Grows library (Shelf.mk world []).world
      (after library.services ⟨world, []⟩ (deeds ++ [.settle])).world := grows_after _ _
  obtain ⟨calls, hcalls⟩ := hgrows.calls
  have hsettled := stocked_after h hfit
  have hnone : ∀ address, library.recordedAt
      (after library.services ⟨world, []⟩ (deeds ++ [.settle])).world.native address = none := by
    rw [after_append] at hfit hgone ⊢
    have hlast : Grows library (after library.services ⟨world, []⟩ deeds).world
        (settle library.services (after library.services ⟨world, []⟩ deeds)).world :=
          grows_act .settle _
    exact (stocked_after h (hlast.fit hfit)).gone hfit hgone
  -- There were no notes in the beginning, so that the notes are those of these calls.
  rw [hnative] at hcalls
  rw [hcalls] at hnone
  refine Library.freedOnce_of_gone ?_ hfit.fresh hsettled.proper hnone
  rw [hcalls, library.log_afterAll]
  rfl

end Deeds

/-- **Contexts are in order** in every run of a program on a shelf, whatever turns the daemon
takes. Each thing on the shelf has a context that is there and of its kind, and no two have the
same one. Every call was made with contexts that were there and of the kind that it expects.
When nothing is left on the shelf and the daemon has been waited for, every context that was
ever made has been freed exactly once, also where the operation that made it reported a
failure. -/
theorem contexts_in_order (kind : BackendKind) (settings : Settings) (supply : Nat → Supply)
    (turns : List (List Turn)) (deeds : List Deed) {world : World (Recorded Session)}
    (hstart : World.start settings ⟨.start supply, []⟩ turns = .ok world)
    (hfit : Fit (.vault kind) (after (Library.vault kind).services ⟨world, []⟩ deeds).world) :
    let shelf := after (Library.vault kind).services ⟨world, []⟩ deeds
    (∀ holding ∈ holdings shelf.items,
      (Library.vault kind).recordedAt shelf.world.native holding.1.handle.address = some holding.2)
    ∧ ((holdings shelf.items).map fun holding => holding.1.handle.address).Nodup
    ∧ (Library.vault kind).Proper shelf.world.native.log
    ∧ (deeds.getLast? = some .settle → holdings shelf.items = [] →
      FreedOnce shelf.world.native.log) := by
  intro shelf
  have hempty : Stocked (.vault kind) [] ⟨world, []⟩ := stocked_start hstart fun _ => rfl
  have h : Stocked (.vault kind) [] shelf := stocked_after hempty hfit
  refine ⟨fun holding hholding => h.there hholding, h.apart, h.proper, fun hlast hgone => ?_⟩
  obtain ⟨earlier, hdeeds⟩ := List.getLast?_eq_some_iff.mp hlast
  have hnative : world.native = ⟨.start supply, []⟩ := by rw [← World.eq_of_start hstart]
  subst hdeeds
  exact freedOnce_settle hnative hempty hfit hgone

/-- A run in which a key is not what it should be, another is disposed of before the signer that
was made with it, and a digest comes while that signer is still there. -/
def exampleDeeds : List Deed :=
  [.run (.keyDecode "broken" .privateHalf .ed25519 []), .run (.keyGenerate "key" .ed25519),
    .run (.signerCreate "signer" "key"), .run (.dispose "key"),
    .run (.digestCreate "digest" "SHA-256" 0),
    .run (.drop "signer"), .run (.drop "digest"), .settle]

/-- The address of the first context is handed out again for every other one but the signer's. -/
def exampleSupply (n : Nat) : Supply := ⟨if n = 6 then 2 else 1, some ⟨List.replicate 32 0, rfl⟩⟩

/-- The daemon sweeps in the beginning, and looks for a notice a little later. -/
def exampleTurns : List (List Turn) := [[], [.sweep], [.notice]]

/-- The world of the run in the beginning. -/
def exampleWorld : World (Recorded Session) :=
  ⟨⟨.start exampleSupply, []⟩, .empty, [], exampleTurns⟩

/-- The shelf in the end. -/
def exampleShelf : Shelf (Recorded Session) :=
  after (Library.vault .dispatch).services ⟨exampleWorld, []⟩ exampleDeeds

/-- Four contexts are made in the run, three of them at one address, and each is freed once. -/
theorem contexts_in_order_exampleDeeds :
    World.start .default ⟨.start exampleSupply, []⟩ exampleTurns = .ok exampleWorld
    ∧ Fit (.vault .dispatch) exampleShelf.world
    ∧ exampleShelf.world.native.log.filterMap Note.granted?
      = [(1, .keySpec), (1, .keySpec), (2, .signature), (1, .digest)]
    ∧ FreedOnce exampleShelf.world.native.log := by
  have hstart : World.start .default ⟨.start exampleSupply, []⟩ exampleTurns = .ok exampleWorld :=
    rfl
  have hfit : Fit (.vault .dispatch) exampleShelf.world := ⟨by decide +kernel, by decide +kernel⟩
  have hgone : holdings exampleShelf.items = [] := by decide +kernel
  have hmade : exampleShelf.world.native.log.filterMap Note.granted?
      = [(1, .keySpec), (1, .keySpec), (2, .signature), (1, .digest)] := by decide +kernel
  unfold exampleShelf at *
  obtain ⟨-, -, -, hfreed⟩ :=
    contexts_in_order .dispatch .default exampleSupply exampleTurns exampleDeeds hstart hfit
  exact ⟨hstart, hfit, hmade, hfreed rfl hgone⟩

end Shelf

end Custody.Held

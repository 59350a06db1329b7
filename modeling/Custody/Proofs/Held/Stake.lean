import Custody.Proofs.Estate.Released
import Custody.Proofs.Held.Tenants
import Custody.Proofs.Registry.Ages

/-!
# What a program has at stake

A world is in order when its registry is that of a coherent estate, and when the contexts of its
library are those that the registry answers for, together with those that the program has just
been given and has not yet taken into ownership (`Backs`). What the program holds is put down in
a `Stake`, so that a statement about an action has the form: from worlds in which the program
has this at stake it leads to worlds in which it has that at stake (`Runs`).

Two things are asked of a world throughout (`Fit`), and of the last one only: that no slot was
vacated 2 ^ 32 times, and that new contexts came at new addresses. Worlds only grow (`Grows`),
so that both hold of every world before. That is why `Runs` says of an action that it lets its
world grow, whatever the world is, and only then what becomes of the stake.
-/

namespace Custody.Held

variable {σ α β : Type}

/-- **What a program has at stake.** -/
structure Stake where
  /-- The owners that it holds, each with the kind of its context. -/
  held : List (Owner × Domain)
  /-- The owners that have begun to dispose of their handle, with what they took out of the
  table. -/
  disposing : List (Owner × Option Entry)
  /-- The owners that are still to go. -/
  leaving : List Owner
  /-- The contexts that have no owner yet. -/
  pending : List (Address × Domain)

namespace Stake

variable (stake : Stake)

/-- The stake with another owner. -/
def hold (owner : Owner) (domain : Domain) : Stake :=
  { stake with held := (owner, domain) :: stake.held }

/-- The stake with an owner that has taken out its entry. -/
def withdraw (owner : Owner) (taken : Option Entry) : Stake :=
  { stake with disposing := (owner, taken) :: stake.disposing }

/-- The stake with an owner that is still to go. -/
def leave (owner : Owner) : Stake := { stake with leaving := owner :: stake.leaving }

/-- The stake with a context that has no owner yet. -/
def await (address : Address) (domain : Domain) : Stake :=
  { stake with pending := (address, domain) :: stake.pending }

/-- The contexts of the owners that are held. -/
def contexts : List (Address × Domain) := stake.held.map fun pair => (pair.1.handle.address, pair.2)

/-- An owner with a context of a kind is on the stake. -/
def Has (owner : Owner) (domain : Domain) : Prop :=
  [(owner.handle.address, domain)] ⊆ stake.contexts

/-- The stake after an action that may fail. -/
def upon (failed : Stake) (next : α → Stake) : Except Abort α → Stake
  | .ok a => next a
  | .error _ => failed

/-- An estate in which the program has this at stake. -/
structure Of (s : Estate Domain) : Prop where
  /-- These owners are held. -/
  held : s.held.Perm (stake.held.map Prod.fst)
  /-- These dispose of their handle. -/
  disposing : s.disposing = stake.disposing
  /-- These are still to go. -/
  leaving : s.leaving = stake.leaving

end Stake

namespace Stake

variable {stake : Stake} {owner other : Owner} {domain domain' : Domain}

/-- An owner that is held is on the stake. -/
theorem has_hold : (stake.hold owner domain).Has owner domain :=
  List.cons_subset.mpr ⟨List.mem_cons_self, List.nil_subset _⟩

/-- An owner on the stake is on it still when there is another one. -/
theorem Has.hold (h : stake.Has owner domain) : (stake.hold other domain').Has owner domain :=
  List.Subset.trans h (List.subset_cons_self _ _)

end Stake

/-! ## Time -/

/-- **A registry and a library later on.** -/
structure Later (library : Library σ) (registry registry' : Registry Domain)
    (native native' : Recorded σ) : Prop where
  /-- No slot was vacated less often. -/
  ages : Registry.Ages registry registry'
  /-- Some calls were made. -/
  calls : ∃ calls, native' = library.afterAll native calls

namespace Later

variable {library : Library σ} {registry registry' registry'' : Registry Domain}
  {native native' native'' : Recorded σ}

theorem refl : Later library registry registry native native := ⟨.refl _, [], rfl⟩

theorem trans (h : Later library registry registry' native native')
    (h' : Later library registry' registry'' native' native'') :
    Later library registry registry'' native native'' := by
  obtain ⟨calls, hcalls⟩ := h.calls
  obtain ⟨calls', hcalls'⟩ := h'.calls
  refine ⟨h.ages.trans h'.ages, calls ++ calls', ?_⟩
  rw [hcalls', hcalls, library.afterAll_append]

/-- If slots last, they have lasted. -/
theorem lasting (h : Later library registry registry' native native')
    (hlast : registry'.table.Lasting) : registry.table.Lasting := h.ages.lasting hlast

/-- If contexts came at new addresses, they did so before. -/
theorem fresh (h : Later library registry registry' native native')
    (hfresh : library.Fresh native'.log) : library.Fresh native.log := by
  obtain ⟨calls, hcalls⟩ := h.calls
  rw [hcalls, library.log_afterAll, Library.fresh_append] at hfresh
  exact hfresh.1

end Later

/-! ## Worlds in order -/

section Worlds

variable (library : Library σ) (stake : Stake)

/-- **An estate that stands behind a world** in which a program has something at stake. -/
structure Backs (s : Estate Domain) (world : World (Recorded σ)) : Prop where
  /-- The estate is coherent. -/
  coherent : s.Coherent
  /-- The registry of the world is that of the estate. -/
  registry : world.registry = s.registry
  /-- The daemon has the same in hand. -/
  hand : world.hand = s.hand
  /-- The program has this at stake. -/
  program : stake.Of s
  /-- The release functions of the owners that are held free contexts of their kind. -/
  kinds : ∀ pair ∈ stake.held, s.registry.ledger.effectOf? pair.1.action = some pair.2
  /-- The contexts of the release functions that were entered are freed. -/
  cleared : s.registry.ledger.entered = []
  /-- Somebody answers for every context. -/
  lets : library.Lets world.native (stake.pending ++ s.tenants)
  /-- Every call was made with contexts that were there. -/
  proper : library.Proper world.native.log

/-- A world that is in order, with this at stake. -/
def Stands (world : World (Recorded σ)) : Prop := ∃ s, Backs library stake s world

/-- **What is asked of a world**: its slots last, and its contexts came at new addresses. -/
structure Fit (world : World (Recorded σ)) : Prop where
  /-- No slot was vacated 2 ^ 32 times. -/
  lasting : world.registry.table.Lasting
  /-- New contexts came at new addresses. -/
  fresh : library.Fresh world.native.log

/-- **A world later on.** -/
abbrev Grows (world world' : World (Recorded σ)) : Prop :=
  Later library world.registry world'.registry world.native world'.native

/-- **What an action does to a stake**, and to any world. -/
def Runs (act : StateM (World (Recorded σ)) α) (next : α → Stake) : Prop :=
  ∀ world, Grows library world (act world).2 ∧ (Fit library (act world).2 →
    Stands library stake world → Stands library (next (act world).1) (act world).2)

end Worlds

variable {library : Library σ} {stake stake' : Stake} {s : Estate Domain}
  {world world' : World (Recorded σ)}

namespace Grows

theorem refl (world : World (Recorded σ)) : Grows library world world := Later.refl

/-- What is asked of a world holds of every world before. -/
theorem fit (h : Grows library world world') (hfit : Fit library world') : Fit library world :=
  ⟨h.lasting hfit.lasting, h.fresh hfit.fresh⟩

end Grows

/-- An action that leaves a stake as it is. -/
abbrev Keeps (library : Library σ) (stake : Stake) (act : StateM (World (Recorded σ)) α) : Prop :=
  Runs library stake act fun _ => stake

/-! ## Actions put together -/

namespace Runs

theorem pure (a : α) {next : α → Stake} (h : next a = stake) :
    Runs library stake (Pure.pure a) next := fun world =>
  ⟨.refl world, fun _ hstands => h.symm ▸ hstands⟩

/-- **One action after another**: the worlds grow on, and the stakes are passed along. -/
theorem bind {act : StateM (World (Recorded σ)) α} {rest : α → StateM (World (Recorded σ)) β}
    {mid : α → Stake} {next : β → Stake} (h : Runs library stake act mid)
    (hrest : ∀ a, Runs library (mid a) (rest a) next) : Runs library stake (act >>= rest) next := by
  intro world
  obtain ⟨hgrows, hact⟩ := h world
  obtain ⟨hgrows', hnext⟩ := hrest (act world).1 (act world).2
  exact ⟨hgrows.trans hgrows', fun hfit hstands => hnext hfit (hact (hgrows'.fit hfit) hstands)⟩

/-- An action that may end early, and another that comes after it. -/
theorem andThen {act : Work (Recorded σ) α} {rest : α → Work (Recorded σ) β} {failed : Stake}
    {mid : α → Stake} {next : β → Stake} (h : Runs library stake act (failed.upon mid))
    (hrest : ∀ a, Runs library (mid a) (rest a) (failed.upon next)) :
    Runs library stake (act >>= rest : Work (Recorded σ) β) (failed.upon next) := by
  -- Of an early end nothing comes any more, and the stake is that of a failure.
  have hcont : ∀ result : Except Abort α,
      Runs library (failed.upon mid result) (ExceptT.bindCont rest result) (failed.upon next) := by
    intro result
    cases result with
    | ok a => exact hrest a
    | error abort => exact pure _ rfl
  exact bind h hcont

/-- However an action ends. -/
theorem always {act : Work (Recorded σ) α} (h : Runs library stake act fun _ => stake') :
    Runs library stake act (stake'.upon fun _ => stake') := by
  intro world
  obtain ⟨hgrows, hstands⟩ := h world
  refine ⟨hgrows, fun hfit hstand => ?_⟩
  cases (act world).1 with
  | ok a => exact hstands hfit hstand
  | error abort => exact hstands hfit hstand

/-- An action that leaves the same stake, however it ends. -/
theorem of_always {act : Work (Recorded σ) α}
    (h : Runs library stake act (stake'.upon fun _ => stake')) :
    Runs library stake act fun _ => stake' := by
  intro world
  obtain ⟨hgrows, hstands⟩ := h world
  refine ⟨hgrows, fun hfit hstand => ?_⟩
  have hnext := hstands hfit hstand
  cases hresult : (act world).1 with
  | ok a => rwa [hresult] at hnext
  | error abort => rwa [hresult] at hnext

end Runs

/-- Two actions that may end early, each of which leaves the stake as it is. -/
theorem Keeps.andThen {act : Work (Recorded σ) α} {rest : α → Work (Recorded σ) β}
    (h : Keeps library stake act) (hrest : ∀ a, Keeps library stake (rest a)) :
    Keeps library stake (act >>= rest : Work (Recorded σ) β) :=
  Runs.of_always (Runs.andThen (Runs.always h) fun a => Runs.always (hrest a))

/-- An action that cannot fail. -/
theorem Keeps.ofState {act : StateM (World (Recorded σ)) α} (h : Keeps library stake act) :
    Keeps library stake (Act.ofState act) := h

theorem keeps_ofExcept (result : Except Abort α) :
    Keeps library stake (Act.ofExcept result : Work (Recorded σ) α) := Runs.pure result rfl

end Custody.Held

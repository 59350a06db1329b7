import Custody.Proofs.Held.Stake
import Custody.Proofs.Held.Turns

/-!
# A registry that frees contexts

The steps of a world in which its registry acts, on behalf of the program or on account of the
daemon. Each of them is a few moves of the estate behind the world (`Backs.moves`): what the
moves release is what the step frees, so that in the end somebody answers for every context
again. An owner that comes is the one move in which more is answered for than before, namely for
the context that was waiting for it (`Backs.own`).

A release function that was entered is on a list in the ledger until somebody frees its context. In
a world this is done in the same step, so that the list is empty between any two steps; an estate in
which the list stands at something else is `Estate.withRunning`. Nothing else of an estate depends
on the list, and so an estate is coherent with any such list if it is coherent with one.
-/

namespace Custody

open Held

variable {ε : Type}

/-! ## Release functions that are running -/

namespace Estate

variable {s : Estate ε}

/-- The estate with these release functions running. -/
def withRunning (s : Estate ε) (running : List (Entered ε)) : Estate ε :=
  { s with registry := { s.registry with ledger := { s.registry.ledger with entered := running } } }

theorem Coherent.withRunning (h : s.Coherent) (running : List (Entered ε)) :
    (s.withRunning running).Coherent where
  books := h.books.of_ledger h.books.quiet rfl rfl (fun _ => rfl) fun _ => rfl
  holding := h.holding.of_tokens rfl
  queue := h.queue
  daemon := h.daemon
  own_entry := h.own_entry
  not_held := h.not_held

theorem withRunning_nil (h : s.registry.ledger.entered = []) : s.withRunning [] = s := by
  unfold withRunning
  rw [← h]

end Estate

namespace Held

variable {σ α : Type} {library : Library σ} {stake stake' : Stake} {s : Estate Domain}
  {world world' : World (Recorded σ)} {owner : Owner} {domain : Domain}

/-! ## Steps as moves -/

/-- The moves of a program or a daemon in which no owner comes. -/
def Spares (moves : List (Move Domain)) : Prop :=
  ∀ move ∈ moves, ∀ handle name effect panics, move ≠ .own handle name effect panics

/-- **A step that is a few moves.** What the moves release is what the step frees. -/
theorem Backs.moves (h : Backs library stake s world) (moves : List (Move Domain))
    (hspares : Spares moves)
    (hregistry : world'.registry = ((s.after moves).withRunning []).registry)
    (hhand : world'.hand = (s.after moves).hand)
    (hnative : world'.native
      = (World.free library.services (s.after moves).registry.ledger.entered world.native).2)
    (hlast : world'.registry.table.Lasting) (hprogram : stake'.Of (s.after moves))
    (hheld : stake'.held ⊆ stake.held) (hpending : stake'.pending = stake.pending) :
    Backs library stake' ((s.after moves).withRunning []) world' := by
  have hlast' : (s.after moves).Lasting := by rwa [hregistry] at hlast
  obtain ⟨released, entered, hdischarge⟩ := Estate.Discharge.after h.coherent moves hlast' hspares
  have hhistory : (s.after moves).registry.ledger.entered = entered := by
    rw [hdischarge.history, h.cleared, List.nil_append]
  rw [hhistory] at hnative
  -- The contexts that were released stand first, and those that are still answered for after them.
  have hlets : library.Lets world.native
      (entered.map Entered.context ++ (stake.pending ++ (s.after moves).tenants)) := by
    refine h.lets.perm ((hdischarge.tenants_perm.append_left stake.pending).trans ?_)
    rw [← List.append_assoc, ← List.append_assoc]
    exact List.perm_append_comm.append_right _
  obtain ⟨hlets', hproper⟩ := hlets.free entered h.proper
  exact
    { coherent := (h.coherent.after moves hlast').withRunning []
      registry := hregistry
      hand := hhand
      program := ⟨hprogram.held, hprogram.disposing, hprogram.leaving⟩
      kinds := fun pair hpair => (hdischarge.effects _).trans (h.kinds pair (hheld hpair))
      cleared := rfl
      lets := by
        rw [hnative, hpending]
        exact hlets'
      proper := by
        rw [hnative]
        exact hproper }

/-- A step of the registry that is a few moves. -/
theorem Backs.custody (h : Backs library stake s world) (moves : List (Move Domain))
    (hspares : Spares moves) {step : Registry Domain → α × Registry Domain}
    (hstep : (s.after moves).registry = (step s.registry).2) (hhand : (s.after moves).hand = s.hand)
    (hfit : Fit library (World.custody library.services step world).2)
    (hprogram : stake'.Of (s.after moves)) (hheld : stake'.held ⊆ stake.held)
    (hpending : stake'.pending = stake.pending) :
    Backs library stake' ((s.after moves).withRunning [])
      (World.custody library.services step world).2 := by
  rw [← h.registry] at hstep
  refine h.moves moves hspares ?_ ?_ ?_ hfit.lasting hprogram hheld hpending
  · rw [Estate.withRunning, hstep]
    rfl
  · rw [hhand, ← h.hand]
    rfl
  · rw [hstep]
    rfl

/-! ## Worlds that grow -/

theorem grows_custody {step : Registry Domain → α × Registry Domain}
    (hages : ∀ registry, Registry.Ages registry (step registry).2) (world : World (Recorded σ)) :
    Grows library world (World.custody library.services step world).2 :=
  ⟨hages world.registry, _, snd_free _ _⟩

/-- **Whatever a daemon does**, its world grows. -/
theorem World.Turned.grows (h : World.Turned library.services world world') :
    Grows library world world' := by
  induction h with
  | refl => exact .refl world
  | notice _ ih => exact ih.trans ⟨.takeNotice _, [], rfl⟩
  | gather _ ih => exact ih.trans ⟨.gather _, [], rfl⟩
  | release _ manner entry ih =>
    exact ih.trans (grows_custody (fun registry => .release registry manner entry) _)
  | quit _ entries ih =>
    exact ih.trans ⟨(Registry.Ages.forsake _ entries).trans (.withoutDaemon _), [], rfl⟩
  | passing _ hand turns ih => exact ⟨ih.ages, ih.calls⟩

/-! ## The daemon -/

/-- What a program has at stake does not change when the daemon acts. -/
theorem Stake.Of.same {s' : Estate Domain} (h : stake.Of s) (hsame : s.SameProgram s') :
    stake.Of s' where
  held := hsame.held ▸ h.held
  disposing := hsame.disposing.trans h.disposing
  leaving := hsame.leaving.trans h.leaving

/-- Nothing depends on the turns that the daemon is going to take. -/
theorem Backs.of_eq (h : Backs library stake s world) (hnative : world'.native = world.native)
    (hregistry : world'.registry = world.registry) (hhand : world'.hand = world.hand) :
    Backs library stake s world' where
  coherent := h.coherent
  registry := hregistry.trans h.registry
  hand := hhand.trans h.hand
  program := h.program
  kinds := h.kinds
  cleared := h.cleared
  lets := hnative ▸ h.lets
  proper := hnative ▸ h.proper

/-- The daemon takes entries into its hand that leave the table. -/
theorem Backs.takeUp (h : Backs library stake s world) (move : Move Domain)
    (hspares : Spares [move]) (hprogram : s.SameProgram (s.step move))
    (hledger : (s.step move).registry.ledger = s.registry.ledger) {manner : Manner}
    {entries : List Entry}
    {registry : Registry Domain} (hregistry : (s.step move).registry = registry)
    (hhand : (s.step move).hand = s.hand ++ entries.map (manner, ·))
    (hlast : registry.table.Lasting) :
    Stands library stake (world.takeUp manner entries registry) := by
  -- Taking up releases nothing.
  have hentered : (s.step move).registry.ledger.entered = [] := by rw [hledger, h.cleared]
  refine ⟨_, h.moves [move] hspares ?_ ?_ ?_ hlast (h.program.same hprogram)
    (List.Subset.refl _) rfl⟩
  · rw [show s.after [move] = s.step move from rfl, Estate.withRunning_nil hentered]
    exact hregistry.symm
  · rw [show s.after [move] = s.step move from rfl, hhand, ← h.hand]
    rfl
  · rw [show s.after [move] = s.step move from rfl, hentered]
    rfl

theorem stands_release (h : Backs library stake s world)
    (hfit : Fit library (World.release library.services world).2) :
    Stands library stake (World.release library.services world).2 := by
  cases hhand : world.hand with
  | nil =>
    have hsame : World.release library.services world = ((), world) := by
      unfold World.release
      rw [hhand]
    rw [hsame]
    exact ⟨s, h⟩
  | cons first rest =>
    obtain ⟨manner, entry⟩ := first
    have hheld : s.hand = (manner, entry) :: rest := h.hand ▸ hhand
    -- The ledger is quiet, so that the daemon outlives the release.
    have hburst := Registry.release_of_quiet s.registry h.coherent.books.quiet manner entry
    have hrelease : (World.release library.services world).2 = (World.custody library.services
        (fun registry => registry.release manner entry) { world with hand := rest }).2 := by
      unfold World.release
      rw [hhand]
      simp only [World.custody, h.registry]
      rw [hburst]
      rfl
    rw [hrelease] at hfit ⊢
    refine ⟨_, h.moves [.release] (by simp [Spares]) ?_ ?_ ?_ hfit.lasting
      (h.program.same (.release s)) (List.Subset.refl _) rfl⟩
    · rw [show s.after [.release] = s.release from rfl, Estate.release_of_hand_eq hheld,
        ← h.registry]
      rfl
    · rw [show s.after [.release] = s.release from rfl, Estate.release_of_hand_eq hheld]
      rfl
    · rw [show s.after [.release] = s.release from rfl, Estate.release_of_hand_eq hheld,
        ← h.registry]
      rfl

end Held

end Custody

import Custody.Held.Basic

/-!
# The turns of a daemon

Whatever turns a daemon takes, it does only a few things to its world (`World.Turned`): it takes a
notice or the orphans out of the table, it lets the registry release what it has in hand, and if
that bursts it ends. What these leave as it was, the daemon leaves as it was, in the moment before
any step of a program (`World.turned_pause`).

A turn takes the world from one state to another without any call of the program, and several turns
may come before a step, or none. Being a relation and not a function, `World.Turned` hides how many
turns there were and what each of them found to do.
-/

namespace Custody.Held.World

variable {σ : Type} (services : Services σ)

/-- **What a daemon does to a world** on its own account, one thing after the other. -/
inductive Turned (world : World σ) : World σ → Prop
  | refl : Turned world world
  /-- It takes the oldest notice. -/
  | notice {world' : World σ} (before : Turned world world') :
    Turned world { world' with registry := world'.registry.takeNotice.2 }
  /-- It takes the orphans. -/
  | gather {world' : World σ} (before : Turned world world') :
    Turned world { world' with registry := world'.registry.gather.2 }
  /-- It has the registry release something. -/
  | release {world' : World σ} (before : Turned world world') (manner : Manner) (entry : Entry) :
    Turned world (custody services (fun registry => registry.release manner entry) world').2
  /-- It ends. -/
  | quit {world' : World σ} (before : Turned world world') (entries : List Entry) :
    Turned world
      { world' with registry := (world'.registry.forsake entries).2.withoutDaemon }
  /-- It has other things in hand, and other turns to take. -/
  | passing {world' : World σ} (before : Turned world world') (hand : List (Manner × Entry))
    (turns : List (List Turn)) : Turned world { world' with hand := hand, turns := turns }

variable {services}

theorem Turned.trans {first second third : World σ} (h : Turned services first second)
    (h' : Turned services second third) : Turned services first third := by
  induction h' with
  | refl => exact h
  | notice _ ih => exact .notice ih
  | gather _ ih => exact .gather ih
  | release _ manner entry ih => exact .release ih manner entry
  | quit _ entries ih => exact .quit ih entries
  | passing _ hand turns ih => exact .passing ih hand turns

variable (world : World σ)

theorem turned_release : Turned services world (release services world).2 := by
  unfold release
  split
  · exact .refl
  · rename_i manner entry rest _
    have hrelease : Turned services world (custody services
        (fun registry => registry.release manner entry) { world with hand := rest }).2 :=
      .release (.passing .refl rest world.turns) manner entry
    split
    · rename_i heq
      rwa [heq] at hrelease
    · rename_i message world' heq
      rw [heq] at hrelease
      exact .passing (.quit hrelease (world'.hand.map (·.2))) [] world'.turns

theorem turned_turn (turn : Turn) : Turned services world (World.turn services turn world).2 := by
  cases turn with
  | notice => exact .passing (.notice .refl) _ world.turns
  | sweep =>
    simp only [World.turn]
    split
    · exact .passing (.gather .refl) _ world.turns
    · exact .refl
  | release => exact turned_release world

theorem turned_takeTurns (turns : List Turn) :
    Turned services world (takeTurns services turns world).2 := by
  induction turns generalizing world with
  | nil => exact .refl
  | cons first rest ih => exact (turned_turn world first).trans (ih _)

/-- **The moment before a step** is the daemon's. -/
theorem turned_pause : Turned services world (pause services world).2 := by
  unfold pause
  split
  · exact .refl
  · rename_i batch rest _
    exact .trans (.passing .refl world.hand rest) (turned_takeTurns _ batch)

theorem turned_finish : Turned services world (finish services world).2 := turned_takeTurns world _

end Custody.Held.World

import Custody.Proofs.Registry.Steps

/-!
# A registry in common use

A registry that any number of callers use as it stands, without owners. A caller may register an
action, dispose of a key with whatever action, run an action directly, post notices for a key as
often as it likes, and let tokens die; the daemon takes notices and sweeps. Keys may be stale,
repeated or paired with the wrong action.

Whoever wants to release the handle of an action has an errand (`Errand`). It is cut into the moves
between which others may come: first what is taken out of the table, then the attempt on the action
(`Commons.attempt`), which enters the release function unless somebody has done so before, and after
the release function has returned or panicked the end, where the errand is counted and a caller is
told what came of it (`Commons.finish`). Any number of errands may be at any of these points at the
same time, and several of them may be for the same action.

A run is a list of moves in any order. The release functions are those that return or panic, and
can be destroyed.
-/

namespace Custody

/-- What a caller is told of its attempt: whether that released the handle. -/
def Attempt.told : Attempt → Except Abort Bool
  | .spent => .ok false
  | .released => .ok true
  | .panicked message => .error (.panicked message)

/-- A release function that is to be entered, by whoever has it to do. -/
inductive Errand
  /-- A caller disposes of a key with an action; it has taken this out of the table. -/
  | dispose (taken : Option Entry) (action : ActionId)
  /-- A caller runs an action. -/
  | run (action : ActionId)
  /-- An entry that has left the table is reclaimed. -/
  | reclaim (manner : Manner) (entry : Entry)
  deriving DecidableEq

namespace Errand

/-- The action of an errand. -/
def action : Errand → ActionId
  | dispose _ action | run action => action
  | reclaim _ entry => entry.action

/-- The entry that is dropped at the end of an errand. -/
def entry? : Errand → Option Entry
  | dispose taken _ => taken
  | run _ => none
  | reclaim _ entry => some entry

/-- The counters at the end of an errand. -/
def count (counters : Counters) : Errand → Attempt → Counters
  | dispose _ _, .released => { counters with explicit := counters.explicit + 1 }
  | reclaim manner _, attempt => counters.note manner attempt
  | _, _ => counters

/-- What a caller is told at the end of an errand. A reclamation is nobody's call. -/
def result? : Errand → Attempt → Option (Except Abort Bool)
  | reclaim _ _, _ => none
  | _, attempt => some attempt.told

end Errand

/-- A registry with all that is going on around it. -/
structure Commons (ε : Type) where
  /-- The registry. -/
  registry : Registry ε
  /-- The errands that are still to try their action. -/
  waiting : List Errand
  /-- The errands that have tried their action and are not at their end. -/
  underway : List (Errand × Attempt)
  /-- What callers were told, the first of them first. -/
  results : List (Except Abort Bool)

namespace Commons

variable {ε : Type}

/-- A registry of which no use has been made. -/
def start : Commons ε := ⟨.empty, [], [], []⟩

/-! ## Moves -/

/-- A move of a caller or of the daemon. -/
inductive Move (ε : Type)
  /-- A caller makes an action for a handle. -/
  | create (handle : Handle) (effect : ε) (panics : Option String)
  /-- A caller makes a token. -/
  | token
  /-- A token dies. -/
  | kill (token : TokenId)
  /-- A caller registers an action. -/
  | register (action : ActionId) (label : String) (token : TokenId)
  /-- A caller begins to dispose of a key with an action. -/
  | dispose (key : SlotKey) (action : ActionId)
  /-- A caller begins to run an action. -/
  | run (action : ActionId)
  /-- A caller posts a notice. -/
  | notify (key : SlotKey)
  /-- The daemon takes the oldest notice. -/
  | notice
  /-- The daemon takes all orphans, on its own account or for a caller. -/
  | sweep
  /-- An errand tries its action. -/
  | attempt (errand : Errand)
  /-- An errand comes to its end. -/
  | finish (errand : Errand) (attempt : Attempt)

/-- Registers an action, if there is one of that number. The entry has the handle of the action. -/
def enrol (registry : Registry ε) (action : ActionId) (label : String) (token : TokenId) :
    Registry ε :=
  match registry.ledger.handleOf? action with
  | none => registry
  | some handle =>
    match registry.register ⟨action, handle, label, token⟩ with
    | .ok (_, registry) => registry
    | .error _ => registry

/-- An errand tries its action. -/
def attempt (s : Commons ε) (errand : Errand) : Commons ε :=
  let tried := s.registry.ledger.run s.registry.table.live errand.action
  { s with
    registry := { s.registry with ledger := tried.2 }
    waiting := s.waiting.erase errand
    underway := (errand, tried.1) :: s.underway }

/-- An errand comes to its end. Whoever did it counts it, and drops the entry that it had. -/
def finish (s : Commons ε) (errand : Errand) (attempt : Attempt) : Commons ε :=
  { s with
    registry := { s.registry with
      counters := errand.count s.registry.counters attempt
      ledger := match errand.entry? with
        | some entry => (s.registry.ledger.letGo entry.action).2
        | none => s.registry.ledger }
    underway := s.underway.erase (errand, attempt)
    results := s.results ++ (errand.result? attempt).toList }

/-- A registry in use after a move. A move that cannot be made changes nothing. -/
def step (s : Commons ε) : Move ε → Commons ε
  | .create handle effect panics => { s with registry := { s.registry with
      ledger := (s.registry.ledger.addAction handle ⟨effect, panics, none⟩).2 } }
  | .token => { s with registry := { s.registry with ledger := s.registry.ledger.addToken.2 } }
  | .kill token => { s with registry := { s.registry with ledger := s.registry.ledger.kill token } }
  | .register action label token => { s with registry := enrol s.registry action label token }
  | .dispose key action => { s with
      registry := (s.registry.withdraw key).2
      waiting := .dispose (s.registry.withdraw key).1 action :: s.waiting }
  | .run action => { s with waiting := .run action :: s.waiting }
  | .notify key => { s with registry := (s.registry.notify key).2 }
  | .notice => { s with
      registry := s.registry.takeNotice.2
      waiting := s.registry.takeNotice.1.toList.map (.reclaim .notice) ++ s.waiting }
  | .sweep => { s with
      registry := s.registry.gather.2
      waiting := s.registry.gather.1.map (.reclaim .sweep) ++ s.waiting }
  | .attempt errand => if errand ∈ s.waiting then s.attempt errand else s
  | .finish errand attempt => if (errand, attempt) ∈ s.underway then s.finish errand attempt else s

/-- A registry in use after several moves, one after the other. -/
def after (s : Commons ε) (moves : List (Move ε)) : Commons ε := moves.foldl step s

/-- **The registry in use that a run leads to.** -/
def run (moves : List (Move ε)) : Commons ε := start.after moves

theorem after_append (s : Commons ε) (first second : List (Move ε)) :
    s.after (first ++ second) = (s.after first).after second := List.foldl_append

end Commons

end Custody

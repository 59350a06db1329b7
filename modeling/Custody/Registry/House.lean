import Custody.Registry.Owner
import Custody.Setback

/-!
# Houses of registries

Several registries that share a ledger, with owners and entries under names. A registry is held
from outside until it is let go, and by every owner in it; whoever lets go of it last drops it
(`House.reap`).

An owner that goes lets go of its registry before its token dies and its reference to the action
goes (`House.depart`). So the last owner of a registry waits for the daemon first, and what the
daemon cannot drop because the owner still refers to it is dropped by the owner.

A release function may look at the registry of its own entry while it runs. What it sees there
is noted beside the entry into it (`Sighting`): the number of entries, or nothing while that
registry is dropped.
-/

namespace Custody

/-- An entry into a release function with what the function sees of its own registry. -/
structure Sighting (ε : Type) where
  /-- The entry into the function. -/
  entered : Entered ε
  /-- The number of entries of the registry, if it can be reached. -/
  liveCount : Option Nat
  deriving DecidableEq

/-- An entry that was made without an owner. -/
structure Enrolment where
  /-- The registry. -/
  home : Nat
  /-- The key of the entry. -/
  key : SlotKey
  /-- Its action. -/
  action : ActionId
  /-- Its token. -/
  token : TokenId
  /-- Whether the action can still be reached from outside. -/
  kept : Bool
  deriving DecidableEq

/-- Several registries. -/
structure House (ε : Type) where
  /-- The registries; a dropped one leaves its place empty. -/
  registries : List (Option (Registry ε))
  /-- Which registries are held from outside. -/
  held : List Bool
  /-- The actions and tokens that they share. -/
  ledger : Ledger ε
  /-- The registry of each action. -/
  homes : List Nat
  /-- The owners by name, each with its registry. -/
  owners : List (String × Nat × Owner)
  /-- The other entries by name. -/
  enrolments : List (String × Enrolment)
  /-- The entries into release functions so far, the oldest first. -/
  sightings : List (Sighting ε)

namespace House

variable {ε α β : Type}

/-- A step on a house. -/
abbrev Step (ε α : Type) := ExceptT Setback (StateM (House ε)) α

/-- A house of `count` registries with the same settings. -/
def start (settings : Settings) (count : Nat) : Except Abort (House ε) :=
  ((List.replicate count settings).mapM Registry.start).map fun registries =>
    ⟨registries.map some, registries.map fun _ => true, .empty, [], [], [], []⟩

/-- A registry that has not been dropped. -/
def registryAt? (house : House ε) (i : Nat) : Option (Registry ε) := house.registries[i]?.join

/-- What a release function sees of its own registry, while the registry `i` acts or is dropped. -/
def sight (house : House ε) (i : Nat) (dropping : Bool) (entered : Entered ε) : Sighting ε :=
  let home := house.homes[entered.action]?.getD 0
  ⟨entered,
    if home = i then if dropping then none else some entered.live.length
    else (house.registryAt? home).map (·.liveCount)⟩

/-- Lets the registry `i` act on the shared ledger, and notes the release functions that it
enters. -/
def act (house : House ε) (i : Nat) (dropping : Bool) (registry : Registry ε)
    (step : Registry ε → α × Registry ε) : α × House ε :=
  let (a, registry) := step { registry with ledger := house.ledger }
  (a, { house with
    registries := house.registries.set i (some registry)
    ledger := { registry.ledger with entered := [] }
    sightings := house.sightings ++ registry.ledger.entered.map (house.sight i dropping) })

/-- Lets the registry `i` act, if it has not been dropped. -/
def within (i : Nat) (step : Registry ε → Except Abort α × Registry ε) : Step ε α := fun house =>
  match house.registryAt? i with
  | none => (.error (.absent .registry), house)
  | some registry =>
    let (result, house) := house.act i false registry step
    (result.mapError .aborted, house)

/-- Waits for the daemon of the registry `i`. -/
def flushOne (house : House ε) (i : Nat) : House ε :=
  match house.registryAt? i with
  | none => house
  | some registry => (house.act i false registry fun registry => ((), registry.flush)).2

/-- Waits for the daemons of all registries. -/
def flush (house : House ε) : House ε :=
  (List.range house.registries.length).foldl flushOne house

/-- Whether somebody holds the registry `i`. -/
def isHeld (house : House ε) (i : Nat) : Bool :=
  house.held[i]?.getD false || house.owners.any fun owner => owner.2.1 == i

/-- Drops the registry `i` if nobody holds it. -/
def reap (i : Nat) : Step ε Unit := fun house =>
  match house.registryAt? i with
  | none => (.ok (), house)
  | some registry =>
    if house.isHeld i then (.ok (), house)
    else
      let (result, house) := house.act i true registry Registry.close
      (result.mapError .aborted, { house with registries := house.registries.set i none })

/-- Lets go of a registry from outside. It may have been let go before. -/
def release (i : Nat) : Step ε Unit := do
  modify fun house => { house with held := house.held.set i false }
  reap i

/-! ## Owners -/

/-- The owner under a name, with its registry. -/
def owner (name : String) : Step ε (Nat × Owner) := do
  match (← get).owners.lookup name with
  | some found => return found
  | none => throw (.absent .object)

/-- Takes a name away from its owner. -/
def unname (name : String) : Step ε Unit :=
  modify fun house => { house with owners := house.owners.filter (·.1 ≠ name) }

/-- **An owner goes** that has no name any more. After its first step it lets go of its
registry, and last of its token and its action. What ends early first decides the outcome, and
the later steps are taken all the same. -/
def depart (i : Nat) (owner : Owner) (first : Registry ε → Except Abort α × Registry ε) :
    Step ε α :=
  fun house =>
    let (result, house) := within i first house
    let (reaped, house) := reap i house
    let (burst, ledger) := (house.ledger.kill owner.token).letGo owner.action
    let gone := match burst with
      | none => .ok ()
      | some burst => .error (.aborted (.panicked burst))
    (Registry.firstOf (Registry.firstOf result reaped) gone, { house with ledger := ledger })

/-- A step in which the owner under a name goes. -/
def consume (name : String) (first : Owner → Registry ε → Except Abort α × Registry ε) :
    Step ε α := do
  let (i, owner) ← owner name
  unname name
  depart i owner (first owner)

/-- Takes a handle into ownership under a name. An owner that had the name is dropped. -/
def own (name : String) (i : Nat) (handle : Handle) (domain : String) (release : Release ε) :
    Step ε Owner := do
  if ((← get).registryAt? i).isNone then throw (.absent .registry)
  modify fun house => { house with homes := house.homes ++ [i] }
  let owner ← within i fun registry => registry.own handle domain release
  let old := (← get).owners.lookup name
  unname name
  modify fun house => { house with owners := (name, i, owner) :: house.owners }
  match old with
  | none => return owner
  | some (j, old) =>
    depart j old fun registry => registry.post old
    return owner

/-- Disposes of an owner. -/
def dispose (name : String) : Step ε Unit := consume name fun owner registry =>
  let (released, registry) := registry.disposeNow owner.key owner.action
  (released.map fun _ => (), registry)

/-- Drops an owner. -/
def abandon (name : String) : Step ε Unit := consume name fun owner registry => registry.post owner

/-- Lends an owner to a body that leaves the registry alone, and disposes of it. -/
def lend (name : String) (body : Owner → Except Abort α) : Step ε α :=
  consume name fun owner registry =>
    let (released, registry) := registry.disposeNow owner.key owner.action
    (Registry.firstOf (body owner) (released.map fun _ => ()), registry)

/-! ## Other entries -/

/-- The entry under a name. -/
def enrolment (name : String) : Step ε Enrolment := do
  match (← get).enrolments.lookup name with
  | some found => return found
  | none => throw (.absent .object)

/-- The entry under a name, if its registry has not been dropped. -/
def entryAtHome (name : String) : Step ε Enrolment := do
  let found ← enrolment name
  if ((← get).registryAt? found.home).isNone then throw (.absent .registry)
  return found

/-- The action of an entry, if it can still be reached. -/
def actionOf (enrolment : Enrolment) : Step ε ActionId :=
  if enrolment.kept then return enrolment.action else throw (.absent .object)

/-- Gives up the entry under a name: its token dies, and its action is out of reach from now on. -/
def discard (name : String) : Step ε Unit := fun house =>
  match house.enrolments.lookup name with
  | none => (.ok (), house)
  | some old =>
    let ledger := house.ledger.kill old.token
    let (burst, ledger) := if old.kept then ledger.letGo old.action else (none, ledger)
    (match burst with
      | none => .ok ()
      | some burst => .error (.aborted (.panicked burst)),
     { house with ledger := ledger, enrolments := house.enrolments.filter (·.1 ≠ name) })

/-- Makes an entry under a name. Its token may be dead from the start, and its action out of
reach. An entry that had the name is given up. -/
def enrol (name : String) (i : Nat) (handle : Handle) (label : String) (release : Release ε)
    (dead kept : Bool) : Step ε SlotKey := fun house =>
  let (action, ledger) := house.ledger.addAction handle release
  let (token, ledger) := ledger.addToken
  let register (registry : Registry ε) : Except Abort SlotKey × Registry ε :=
    match registry.register ⟨action, handle, label, token⟩ with
    | .ok (key, registry) => (.ok key, registry)
    | .error failure => (.error (.failed failure), registry)
  match within i register { house with ledger := ledger, homes := house.homes ++ [i] } with
  | (.error (.absent what), _) => (.error (.absent what), house)
  | (.error (.aborted abort), house) =>
    let (burst, ledger) := (house.ledger.kill token).letGo action
    (.error (.aborted (burst.elim abort .panicked)), { house with ledger := ledger })
  | (.ok key, house) =>
    let ledger := if dead then house.ledger.kill token else house.ledger
    let ledger := if kept then ledger else (ledger.letGo action).2
    let (given, house) := discard name { house with ledger := ledger }
    (given.map fun _ => key,
      { house with enrolments := (name, ⟨i, key, action, token, kept⟩) :: house.enrolments })

/-- Lets the token of an entry die: whether it was alive. -/
def kill (name : String) : Step ε Bool := do
  let token := (← enrolment name).token
  modifyGet fun house =>
    (house.ledger.isAlive token, { house with ledger := house.ledger.kill token })

/-- Posts a notice for an entry. -/
def notify (name : String) : Step ε Unit := do
  let found ← entryAtHome name
  within found.home fun registry => registry.notify found.key

/-- Disposes of an entry with its own action or that of another one. -/
def disposeNow (name other : String) : Step ε Bool := do
  let found ← entryAtHome name
  let action ← actionOf (← enrolment other)
  within found.home fun registry => registry.disposeNow found.key action

/-- Runs the action of an entry: whether this released the handle. -/
def run (name : String) : Step ε Bool := do
  let found ← entryAtHome name
  let action ← actionOf found
  within found.home fun registry =>
    let (attempt, ledger) := registry.ledger.run registry.table.live action
    (match attempt with
      | .spent => .ok false
      | .released => .ok true
      | .panicked message => .error (.panicked message), { registry with ledger := ledger })

/-- The action of an entry as it stands. -/
def inspect (name : String) : Step ε (Option (Action ε)) := do
  let action ← actionOf (← entryAtHome name)
  return (← get).ledger.actions[action]?

/-- Asks for a sweep. -/
def sweep (i : Nat) : Step ε Nat := within i Registry.sweepNow

/-- Lets the tokens of several entries die, and waits for a sweep on time unless the registry
has no more than `limit` entries: the number of entries then. -/
def awaitSweep (i : Nat) (names : List String) (limit : Nat) : Step ε Nat := fun house =>
  let house := names.foldl (fun house name => (kill name house).2) house
  within i (fun registry =>
    let registry := if limit < registry.liveCount then registry.sweepOnTime else registry
    (.ok registry.liveCount, registry)) house

/-! ## The end -/

/-- Takes a step for each of several things, one after the other, until one of them ends early. -/
def inTurn (step : β → Step ε Unit) : List β → Step ε Unit
  | [] => pure ()
  | first :: rest => do
    step first
    inTurn step rest

/-- **Drops everything**: the owners in the order of their names, then the other entries, then the
registries. -/
def finish : Step ε Unit := do
  let names := ((← get).owners.map (·.1)).mergeSort fun a b => a ≤ b
  inTurn (fun name => do
    abandon name
    modify flush) names
  inTurn (fun entry => discard entry.1) (← get).enrolments
  inTurn release (List.range (← get).registries.length)

end House

end Custody

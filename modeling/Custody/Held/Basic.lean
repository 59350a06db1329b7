import Custody.Registry.Owner
import Custody.Service.Basic

/-!
# Held contexts

Native contexts in the care of a registry. A `World` is a native library and a registry side by
side: an owner in the registry stands for a context in the library, and entering the release
function of an action frees the context behind its handle (`World.custody`).

The daemon of a registry acts on its own account, at moments that a program cannot know. A world
carries the turns that its daemon is going to take, one batch for each step of the program, so
that a statement about all worlds is one about all interleavings. What the daemon takes out of
the table it has in hand until it releases it in a later turn. It takes up nothing new before
its hand is empty; in a world it may, which only adds to the interleavings. In a world without
turns the daemon waits until it is waited for.
-/

namespace Custody.Held

variable {σ α : Type}

/-- A kind of native context. -/
inductive Domain
  | digest
  | keySpec
  | signature
  deriving DecidableEq, Repr

namespace Domain

/-- What the owner of a context of this kind is called after. -/
def name : Domain → String
  | digest => "Digest"
  | keySpec => "KeySpec"
  | signature => "Signature"

/-- The call that frees a context of this kind. -/
def disposal : Domain → Address → Call
  | digest => .digestDispose
  | keySpec => .keyDispose
  | signature => .signatureDispose

/-- The request for a context of this kind belongs to this backend, and so does the call that
frees it. -/
def backend (services : Services σ) : Domain → Backend σ
  | digest => services.digest
  | keySpec => services.keySpec
  | signature => services.signature

end Domain

/-- What a daemon does on its own account. -/
inductive Turn
  /-- It takes up the oldest notice. -/
  | notice
  /-- It takes up the orphans. -/
  | sweep
  /-- It releases the first thing that it has in hand. -/
  | release
  deriving DecidableEq, Repr

/-- A native library and a registry of contexts in it. -/
structure World (σ : Type) where
  /-- The library. -/
  native : σ
  /-- The registry. -/
  registry : Registry Domain
  /-- What the daemon has taken out of the table and is still to release. -/
  hand : List (Manner × Entry)
  /-- The turns of the daemon, a batch before each step to come. -/
  turns : List (List Turn)

/-- An operation on a world. -/
abbrev Work (σ α : Type) := Act (World σ) α

namespace World

/-- A world with a registry that has just been started. -/
def start (settings : Settings) (native : σ) (turns : List (List Turn)) : Except Abort (World σ) :=
  (Registry.start settings).map fun registry => ⟨native, registry, [], turns⟩

/-! ## The registry frees contexts -/

/-- Frees the contexts whose release functions were entered, in that order. -/
def free (services : Services σ) : List (Entered Domain) → StateM σ Unit
  | [] => pure ()
  | entered :: rest => do
    (entered.effect.backend services).dispose entered.effect.disposal entered.handle.address
    free services rest

/-- **Lets the registry act.** The contexts that it releases are freed. -/
def custody (services : Services σ) (step : Registry Domain → α × Registry Domain) :
    StateM (World σ) α := fun world =>
  let (a, registry) := step world.registry
  let (_, native) := free services registry.ledger.entered world.native
  (a, { world with
    native := native
    registry := { registry with ledger := { registry.ledger with entered := [] } } })

/-! ## The daemon -/

/-- The daemon takes entries into its hand that have left the table. -/
def takeUp (manner : Manner) (entries : List Entry) (registry : Registry Domain) (world : World σ) :
    World σ :=
  { world with registry := registry, hand := world.hand ++ entries.map (manner, ·) }

/-- The world after the daemon has ended. What it had in hand is dropped without being released. -/
def withoutDaemon (world : World σ) : World σ :=
  { world with
    registry := (world.registry.forsake (world.hand.map (·.2))).2.withoutDaemon
    hand := [] }

/-- The daemon releases the first thing that it has in hand. If that cannot be dropped, the
daemon ends. -/
def release (services : Services σ) : StateM (World σ) Unit := fun world =>
  match world.hand with
  | [] => ((), world)
  | (manner, entry) :: rest =>
    match custody services (fun registry => registry.release manner entry)
        { world with hand := rest } with
    | (none, world) => ((), world)
    | (some _, world) => ((), world.withoutDaemon)

/-- The daemon takes a turn. -/
def turn (services : Services σ) : Turn → StateM (World σ) Unit
  | .notice => fun world =>
    let (taken, registry) := world.registry.takeNotice
    ((), world.takeUp .notice taken.toList registry)
  | .sweep => fun world =>
    if world.registry.daemon then
      let (orphans, registry) := world.registry.gather
      ((), world.takeUp .sweep orphans registry)
    else ((), world)
  | .release => release services

/-- The daemon takes turns, one after the other. -/
def takeTurns (services : Services σ) : List Turn → StateM (World σ) Unit
  | [] => pure ()
  | first :: rest => do
    turn services first
    takeTurns services rest

/-- The moment before a step, in which the daemon takes the next batch of its turns. -/
def pause (services : Services σ) : StateM (World σ) Unit := fun world =>
  match world.turns with
  | [] => ((), world)
  | batch :: rest => takeTurns services batch { world with turns := rest }

/-- The daemon releases what it has in hand. -/
def finish (services : Services σ) : StateM (World σ) Unit := fun world =>
  takeTurns services (List.replicate world.hand.length .release) world

/-- Waits until the daemon has taken every notice. -/
def flush (services : Services σ) : StateM (World σ) Unit := do
  finish services
  custody services fun registry => ((), registry.flush)

/-- Drops the registry. -/
def close (services : Services σ) : Act (World σ) Unit :=
  show StateM (World σ) (Except Abort Unit) from do
    finish services
    custody services Registry.close

end World

/-! ## Steps of a program -/

/-- A step in which the library is used. -/
def native (services : Services σ) (act : StateM σ α) : StateM (World σ) α := do
  World.pause services
  fun world =>
    let (a, native) := act world.native
    (a, { world with native := native })

/-- A step in which the library is used and may report a failure. -/
def ask (services : Services σ) (act : Act σ α) : Work σ α := native services act

/-- A step of the registry. -/
def entrust (services : Services σ) (step : Registry Domain → α × Registry Domain) :
    StateM (World σ) α := do
  World.pause services
  World.custody services step

/-- Asks the registry for a sweep. The daemon finishes first what it has in hand. -/
def sweep (services : Services σ) : Work σ Nat := show StateM (World σ) (Except Abort Nat) from do
  World.pause services
  World.finish services
  World.custody services Registry.sweepNow

/-! ## Owners -/

/-- **Makes a context and takes it into ownership.** -/
def acquire (services : Services σ) (domain : Domain) (request : Request) : Work σ Owner := do
  let handle ← ask services ((domain.backend services).allocate request)
  show StateM (World σ) (Except Abort Owner) from
    entrust services fun registry => registry.own handle domain.name (.plain domain)

/-- Disposes of a context at once. The daemon may act between the three steps of it. -/
def dispose (services : Services σ) (owner : Owner) : Work σ Unit :=
  show StateM (World σ) (Except Abort Unit) from do
    let taken ← entrust services fun registry => registry.withdraw owner.key
    let released ← entrust services fun registry => registry.settle taken owner.action
    let gone ← entrust services fun registry => registry.letGo owner
    return Registry.firstOf (released.map fun _ => ()) gone

/-- Drops an owner. The daemon may act between the two steps of it. -/
def abandon (services : Services σ) (owner : Owner) : Work σ Unit :=
  show StateM (World σ) (Except Abort Unit) from do
    let posted ← entrust services fun registry => registry.post owner
    let gone ← entrust services fun registry => registry.letGo owner
    return Registry.firstOf posted gone

/-- Lends an owner to a body and disposes of it when the body ends, early or not. -/
def lend (services : Services σ) (owner : Owner) (body : Work σ α) : Work σ α :=
  show StateM (World σ) (Except Abort α) from do
    let result ← body.outcome
    let disposed ← (dispose services owner).outcome
    return Registry.firstOf result disposed

/-- **Prepares a context that has just been made.** Where that fails the context is disposed of
at once, and where it panics the owner is dropped. -/
def prepare (services : Services σ) (owner : Owner) (init : Work σ Unit) : Work σ Unit :=
  show StateM (World σ) (Except Abort Unit) from do
    match ← init.outcome with
    | .ok () => return .ok ()
    | .error (.failed failure) =>
      let disposed ← (dispose services owner).outcome
      return Registry.firstOf disposed (.error (.failed failure))
    | .error (.panicked message) =>
      let _ ← (abandon services owner).outcome
      return .error (.panicked message)

/-! ## Bytes -/

/-- **Asks for bytes into a buffer of a length.** No more of it is handed out than the library
says that it has written. -/
def fetch (services : Services σ) (backend : Backend σ) (request : Nat → Request) (length : Nat) :
    Work σ Bytes := do
  let (result, buffer) ← Act.ofState (native services (backend.fill request (Bytes.zeros length)))
  let written ← Act.ofExcept result
  return buffer.take written

end Custody.Held

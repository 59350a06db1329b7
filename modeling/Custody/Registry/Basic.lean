import Custody.Registry.Ledger
import Custody.Settings
import Custody.Text.Utf8

/-!
# Registries

A registry has an entry for every handle that somebody owns, and sees to it that the handle is
released when the owner is gone. Its daemon takes notices of unreachable owners in the order in
which they were posted, and from time to time sweeps the table for entries whose token has died
without a notice.

An entry leaves the table before its release function is entered, on every path: explicit
disposal (`Registry.disposeNow`), a notice (`Registry.reclaim`) or a sweep (`Registry.sweep`). A
release function that panics is counted, and the daemon carries on. Only the destruction of a
release function can end the daemon; from then on its work is done by whoever asks for it, and
what it had in hand is lost.

A registry that is dropped (`Registry.close`) lets its daemon finish first. Entries whose owners
are still there then, or which no daemon was left to sweep, go with the table, and their handles
are not released.
-/

namespace Custody

/-- What a registry has counted. -/
structure Counters where
  /-- Entries ever made. -/
  registered : Nat
  /-- Handles released by explicit disposal. -/
  explicit : Nat
  /-- Handles released after a notice. -/
  reclaimed : Nat
  /-- Handles released by a sweep. -/
  swept : Nat
  /-- Release functions that panicked after a notice or in a sweep. -/
  failed : Nat
  deriving DecidableEq, Repr

/-- Counters before the first entry. -/
def Counters.zero : Counters := ⟨0, 0, 0, 0, 0⟩

/-- Why an entry is reclaimed. -/
inductive Manner
  /-- Its owner posted a notice. -/
  | notice
  /-- A sweep found its token dead. -/
  | sweep
  deriving DecidableEq, Repr

/-- The counters after an attempt to release in the course of a reclamation. -/
def Counters.note (counters : Counters) (manner : Manner) : Attempt → Counters
  | .spent => counters
  | .panicked _ => { counters with failed := counters.failed + 1 }
  | .released =>
    match manner with
    | .notice => { counters with reclaimed := counters.reclaimed + 1 }
    | .sweep => { counters with swept := counters.swept + 1 }

/-- A registry. -/
structure Registry (ε : Type) where
  /-- The entries. -/
  table : SlotTable
  /-- What has been counted. -/
  counters : Counters
  /-- The notices that the daemon has not taken yet, the oldest first. -/
  notices : List SlotKey
  /-- Whether the daemon runs. -/
  daemon : Bool
  /-- The actions and tokens that entries refer to. -/
  ledger : Ledger ε
  deriving DecidableEq

namespace Registry

variable {ε : Type}

/-- A registry without entries. -/
def empty : Registry ε := ⟨.empty, .zero, [], true, .empty⟩

/-- The complaint about a thread name with a zero byte in it. -/
def nameComplaint (name : String) : String :=
  let bytes := Text.utf8 name
  "thread name may not contain interior null bytes: NulError(" ++ toString (bytes.idxOf 0) ++
    ", [" ++ ", ".intercalate (bytes.map fun b => toString b.toNat) ++ "])"

/-- Starts a registry with its daemon. -/
def start (settings : Settings) : Except Abort (Registry ε) :=
  match settings.validate with
  | .error failure => .error (.failed failure)
  | .ok () =>
    if '\x00' ∈ settings.daemonName.toList then
      .error (.panicked (nameComplaint settings.daemonName))
    else .ok empty

/-- The number of entries. -/
def liveCount (registry : Registry ε) : Nat := registry.table.size

/-! ## Entering and leaving -/

/-- **Makes an entry** for an action, under a label and with a token. The entry refers to the
action. -/
def register (registry : Registry ε) (entry : Entry) : Except Failure (SlotKey × Registry ε) :=
  match registry.table.insert entry with
  | .error failure => .error failure
  | .ok (key, table) => .ok (key,
      { registry with
        table := table
        counters := { registry.counters with registered := registry.counters.registered + 1 }
        ledger := registry.ledger.hold entry.action })

/-- Releases the handle of an entry that has left the table, counts what came of it, and drops
the entry. The panic of the last step, if there is one, is not caught. -/
def release (registry : Registry ε) (manner : Manner) (entry : Entry) :
    Option String × Registry ε :=
  let (attempt, ledger) := registry.ledger.run registry.table.live entry.action
  let (burst, ledger) := ledger.letGo entry.action
  (burst, { registry with counters := registry.counters.note manner attempt, ledger := ledger })

/-- Takes the entry under a key out of the table, if it is there. -/
def withdraw (registry : Registry ε) (key : SlotKey) : Option Entry × Registry ε :=
  match registry.table.take key with
  | none => (none, registry)
  | some (entry, table) => (some entry, { registry with table := table })

/-- Reclaims the entry under a key, if it is still there. -/
def reclaim (registry : Registry ε) (key : SlotKey) : Option String × Registry ε :=
  match registry.withdraw key with
  | (none, registry) => (none, registry)
  | (some entry, registry) => registry.release .notice entry

/-- Drops entries that have left the table without releasing their handles. The panic of the
first one that cannot be dropped, if there is one; the others go all the same. -/
def forsake (registry : Registry ε) : List Entry → Option String × Registry ε
  | [] => (none, registry)
  | entry :: rest =>
    let (burst, ledger) := registry.ledger.letGo entry.action
    let (later, registry) := forsake { registry with ledger := ledger } rest
    (burst <|> later, registry)

/-- Releases the handles of entries that have left the table, one after the other. If one of
them cannot be dropped, the rest is lost. -/
def releaseAll (registry : Registry ε) : List Entry → Option String × Registry ε
  | [] => (none, registry)
  | entry :: rest =>
    match registry.release .sweep entry with
    | (none, registry) => releaseAll registry rest
    | (some burst, registry) => (some burst, (registry.forsake rest).2)

/-- The keys of the entries whose token has died. -/
def orphans (registry : Registry ε) : List SlotKey :=
  registry.table.keysWhere fun entry => !registry.ledger.isAlive entry.token

/-- Takes all orphans out of the table. -/
def gather (registry : Registry ε) : List Entry × Registry ε :=
  let (entries, table) := registry.table.takeAll registry.orphans
  (entries, { registry with table := table })

/-- **A sweep.** All orphans leave the table before the first of them is released. The number of
orphans, and the panic that ended the sweep, if one did. -/
def sweep (registry : Registry ε) : Nat × Option String × Registry ε :=
  let (entries, registry) := registry.gather
  let (burst, registry) := registry.releaseAll entries
  (entries.length, burst, registry)

/-! ## The daemon -/

/-- The registry after the daemon has ended. The notices that it had not taken are lost. -/
def withoutDaemon (registry : Registry ε) : Registry ε :=
  { registry with daemon := false, notices := [] }

/-- Takes the oldest notice, and the entry that it names out of the table, if that is still
there. -/
def takeNotice (registry : Registry ε) : Option Entry × Registry ε :=
  match registry.notices with
  | [] => (none, registry)
  | key :: rest => { registry with notices := rest }.withdraw key

/-- The daemon takes the oldest notice and releases what it names. -/
def handleNext (registry : Registry ε) : Registry ε :=
  match registry.takeNotice with
  | (none, registry) => registry
  | (some entry, registry) =>
    match registry.release .notice entry with
    | (none, registry) => registry
    | (some _, registry) => registry.withoutDaemon

/-- The daemon sweeps on its own account. -/
def sweepOnTime (registry : Registry ε) : Registry ε :=
  if registry.daemon then
    match registry.sweep with
    | (_, none, registry) => registry
    | (_, some _, registry) => registry.withoutDaemon
  else registry

/-- The daemon takes notices until none is left; at most `bound` of them. -/
def handleUpTo : Nat → Registry ε → Registry ε
  | 0, registry => registry
  | bound + 1, registry => handleUpTo bound registry.handleNext

/-- Waits until the daemon has taken every notice posted so far. -/
def flush (registry : Registry ε) : Registry ε := registry.handleUpTo registry.notices.length

/-- Asks the daemon for a sweep and waits for the number of orphans; without a daemon the caller
sweeps. A daemon that ends before it has answered leaves the number 0. -/
def sweepNow (registry : Registry ε) : Except Abort Nat × Registry ε :=
  if registry.daemon then
    let registry := registry.flush
    if registry.daemon then
      match registry.sweep with
      | (count, none, registry) => (.ok count, registry)
      | (_, some _, registry) => (.ok 0, registry.withoutDaemon)
    else (.ok 0, registry)
  else
    match registry.sweep with
    | (count, none, registry) => (.ok count, registry)
    | (_, some burst, registry) => (.error (.panicked burst), registry)

/-- Posts a notice that the owner of a key is unreachable; without a daemon the caller reclaims. -/
def notify (registry : Registry ε) (key : SlotKey) : Except Abort Unit × Registry ε :=
  if registry.daemon then (.ok (), { registry with notices := registry.notices ++ [key] })
  else
    match registry.reclaim key with
    | (none, registry) => (.ok (), registry)
    | (some burst, registry) => (.error (.panicked burst), registry)

/-- Releases the handle of an action on the caller's account, and drops the entry that the
caller has taken out of the table, if there was one: whether this released the handle. -/
def settle (registry : Registry ε) (taken : Option Entry) (action : ActionId) :
    Except Abort Bool × Registry ε :=
  let (attempt, ledger) := registry.ledger.run registry.table.live action
  let (burst, ledger) := match taken with
    | some entry => ledger.letGo entry.action
    | none => (none, ledger)
  let registry := { registry with ledger := ledger }
  match attempt, burst with
  | .panicked message, _ => (.error (.panicked message), registry)
  | .spent, none => (.ok false, registry)
  | .spent, some burst => (.error (.panicked burst), registry)
  | .released, burst =>
    let counters := { registry.counters with explicit := registry.counters.explicit + 1 }
    (match burst with
      | none => .ok true
      | some burst => .error (.panicked burst),
     { registry with counters := counters })

/-- Takes the entry under a key out of the table, if it is there, and releases the handle of an
action: whether this released it. -/
def disposeNow (registry : Registry ε) (key : SlotKey) (action : ActionId) :
    Except Abort Bool × Registry ε :=
  let (taken, registry) := registry.withdraw key
  registry.settle taken action

/-- The daemon takes what is left of the notices, sweeps once more and ends. -/
def retire (registry : Registry ε) : Registry ε :=
  if registry.daemon then registry.flush.sweepOnTime.withoutDaemon else registry

/-- **Drops the registry.** The daemon retires, and what it leaves in the table is dropped
without being released. -/
def close (registry : Registry ε) : Except Abort Unit × Registry ε :=
  let registry := registry.retire
  let (burst, registry) := { registry with table := .empty }.forsake registry.table.entries
  (match burst with
    | none => .ok ()
    | some burst => .error (.panicked burst), registry)

end Registry

end Custody

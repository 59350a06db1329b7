import Custody.Registry.Basic

/-!
# Owners

An owner holds one handle. Its handle is released once: at once when the owner disposes of it or
leaves its scope, or by the registry after the owner was dropped.

Dropping has two steps. The owner posts its notice (`Registry.post`), and only then its token
dies and its reference to the action goes (`Registry.letGo`); the daemon may act between the
two.
-/

namespace Custody

/-- An owner. -/
structure Owner where
  /-- The key of its entry. -/
  key : SlotKey
  /-- The action that releases the handle. -/
  action : ActionId
  /-- The token that lives as long as the owner. -/
  token : TokenId
  /-- The handle. -/
  handle : Handle
  /-- What it is called in messages. -/
  label : String
  deriving DecidableEq

namespace Owner

/-- What the owner of a handle in a domain is called. -/
def labelFor (domain : String) (handle : Handle) : String :=
  "Reference(" ++ domain ++ ") " ++ handle.text

/-- An owner in the form of debugging output. -/
def debug (owner : Owner) (disposed : Bool) : String :=
  "HandleOwner \x7b label: " ++ Text.quoted owner.label ++ ", disposed: " ++ toString disposed ++
    " \x7d"

end Owner

namespace Registry

variable {ε : Type}

/-- Whether the handle of an owner has been released. -/
def isDisposed (registry : Registry ε) (owner : Owner) : Bool :=
  registry.ledger.isCompleted owner.action

/-- The last step of every way in which an owner goes: its token dies, and its reference to the
action goes. -/
def letGo (registry : Registry ε) (owner : Owner) : Except Abort Unit × Registry ε :=
  let (burst, ledger) := (registry.ledger.kill owner.token).letGo owner.action
  (match burst with
    | none => .ok ()
    | some burst => .error (.panicked burst), { registry with ledger := ledger })

/-- **Takes a handle into ownership.** If it has an owner already, it gets no second one, and
the release function is destroyed without being entered. -/
def own (registry : Registry ε) (handle : Handle) (domain : String) (release : Release ε) :
    Except Abort Owner × Registry ε :=
  let label := Owner.labelFor domain handle
  let (action, ledger) := registry.ledger.addAction handle release
  let (token, ledger) := ledger.addToken
  let registry := { registry with ledger := ledger }
  match registry.register ⟨action, handle, label, token⟩ with
  | .ok (key, registry) => (.ok ⟨key, action, token, handle, label⟩, registry)
  | .error failure =>
    let (burst, ledger) := (registry.ledger.kill token).letGo action
    (match burst with
      | none => .error (.failed failure)
      | some burst => .error (.panicked burst), { registry with ledger := ledger })

/-- Two outcomes of which the first, if it is early, decides. -/
def firstOf {δ α : Type} (first : Except δ α) (second : Except δ Unit) : Except δ α :=
  match first, second with
  | .error early, _ => .error early
  | .ok _, .error early => .error early
  | .ok a, .ok () => .ok a

/-- Disposes of a handle at once; the owner goes. -/
def dispose (registry : Registry ε) (owner : Owner) : Except Abort Unit × Registry ε :=
  let (released, registry) := registry.disposeNow owner.key owner.action
  let (gone, registry) := registry.letGo owner
  (firstOf (released.map fun _ => ()) gone, registry)

/-- The first step of dropping an owner: its notice. -/
def post (registry : Registry ε) (owner : Owner) : Except Abort Unit × Registry ε :=
  registry.notify owner.key

/-- Drops an owner: both steps, with nothing between them. -/
def abandon (registry : Registry ε) (owner : Owner) : Except Abort Unit × Registry ε :=
  let (posted, registry) := registry.post owner
  let (gone, registry) := registry.letGo owner
  (firstOf posted gone, registry)

/-- Lends an owner to a body and disposes of it when the body ends, early or not. An early end
of the body decides the outcome. -/
def lend {α : Type} (registry : Registry ε) (owner : Owner)
    (body : Registry ε → Except Abort α × Registry ε) : Except Abort α × Registry ε :=
  let (result, registry) := body registry
  let (disposed, registry) := registry.dispose owner
  (firstOf result disposed, registry)

end Registry

end Custody

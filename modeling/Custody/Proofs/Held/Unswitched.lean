import Custody.Proofs.Held.Adapters
import Custody.Proofs.Service.Views
import Custody.Proofs.Vault.Switches

/-!
# Actions that leave the faults alone

Of all that a program does to a library, only raising a fault and clearing one sets a fault. Every
other action, from a single request to the operations on digests, keys and signatures, and whatever
the daemon does meanwhile, leaves the calls that set faults as they were in the log. That holds of
any library, and however an action ends.

The list of the calls that set a fault is a view of the log (`Recorded.switches`), and the proofs
are about this view only. A request is harmless if its call sets no fault (`Harmless`), which is
seen from the request; the calls that fetch the diagnostics set none. From there on the rules of
`Preserves` put the operations together.
-/

namespace Custody

variable {σ α : Type}

/-! ## Requests -/

/-- The calls that set faults, as a library has noted them. -/
abbrev Recorded.switches (recorded : Recorded σ) : FaultFlag → List Bool :=
  Custody.switches recorded.log

namespace Request

/-- A request whose call, if it has one, sets no fault. -/
def Harmless (request : Except Failure Call) : Prop :=
  ∀ call, request = .ok call → ∀ flag, call.sets? flag = none

/-- A request stays harmless, whatever its arguments are put into. -/
theorem Harmless.bind {argument : Except Failure α} {rest : α → Except Failure Call}
    (h : ∀ a, Harmless (rest a)) : Harmless (argument >>= rest) := by
  cases argument with
  | error failure => exact nofun
  | ok a => exact h a

/-- A request for a call that sets no fault is harmless. -/
theorem Harmless.ok {call : Call} (h : ∀ flag, call.sets? flag = none) : Harmless (.ok call) := by
  rintro _ ⟨⟩
  exact h

/-- **No request sets a fault.** -/
theorem harmless_call (request : Request) : Harmless request.call := by
  cases request with
  | digestAllocate | pbkdf2 | hkdf | scrypt | decapsulate =>
    repeat refine .bind fun _ => ?_
    exact .ok fun _ => rfl
  | digestFeed | digestFinish | encapsulate | signatureFeed | signatureSign | signatureVerify =>
    exact .bind fun _ => .ok fun _ => rfl
  | keyDecode handle part | keyEncode handle part =>
    refine .bind fun _ => .ok ?_
    cases part <;> exact fun _ => rfl
  | keyEncodedLength handle part =>
    refine .ok ?_
    cases part <;> exact fun _ => rfl
  | _ => exact .ok fun _ => rfl

end Request

namespace Held

open Preserves

section Requests

variable {backend : Backend σ}

/-- A call that sets no fault leaves the record of the faults as it is. -/
theorem preserves_submit {call : Call} (h : ∀ flag, call.sets? flag = none) :
    Preserves Recorded.switches (backend.recorded.submit call) := by
  intro recorded
  funext flag
  exact (switches_snoc recorded.log ⟨recorded.state, call, _⟩ flag).trans (by simp [h flag])

/-- **No request sets a fault.** -/
theorem overlooks_switches (backend : Backend σ) :
    Overlooks backend.recorded Recorded.switches where
  request hcall := preserves_submit (Request.harmless_call _ _ hcall)
  drain _ := preserves_submit fun _ => rfl

theorem preserves_faultsAvailable :
    Preserves Recorded.switches backend.recorded.faultsAvailable :=
  bind (preserves_submit fun _ => rfl) fun _ => pure _

end Requests

/-! ## The registry and the daemon -/

/-- The calls that set faults in the library of a world. -/
abbrev World.switches (world : World (Recorded σ)) : FaultFlag → List Bool := world.native.switches

variable {library : Library σ}

/-- The daemon frees contexts, and sets no fault with it. -/
theorem preserves_free (effects : List (Entered Domain)) :
    Preserves Recorded.switches (World.free library.services effects) := by
  induction effects with
  | nil => exact pure _
  | cons entered rest ih =>
    refine bind ?_ fun _ => ih
    rw [backend_services]
    refine bind (preserves_submit ?_) fun _ => pure _
    cases entered.effect <;> exact fun _ => rfl

/-- **What the registry releases** are contexts. -/
theorem preserves_custody (step : Registry Domain → α × Registry Domain) :
    Preserves World.switches (World.custody library.services step) := fun world =>
  preserves_free _ world.native

/-- **Whatever a daemon does**, it sets no fault. -/
theorem World.Turned.switches {world world' : World (Recorded σ)}
    (h : World.Turned library.services world world') :
    world'.switches = world.switches := by
  induction h with
  | refl => rfl
  | notice _ ih | gather _ ih | quit _ _ ih | passing _ _ _ ih => exact ih
  | release _ manner entry ih => exact (preserves_custody _ _).trans ih

/-- **Whatever turns the daemon takes**, it sets no fault. -/
theorem preserves_pause : Preserves World.switches (World.pause library.services) := fun world =>
  (World.turned_pause world).switches

theorem preserves_finish : Preserves World.switches (World.finish library.services) := fun world =>
  (World.turned_finish world).switches

theorem preserves_flush : Preserves World.switches (World.flush library.services) :=
  bind preserves_finish fun _ => preserves_custody _

/-! ## Steps of a program -/

/-- The daemon acts before a step of the program, if it has a turn. -/
theorem native_eq (act : StateM (Recorded σ) α) (world : World (Recorded σ)) :
    native library.services act world
      = let paused := (World.pause library.services world).2
        ((act paused.native).1, { paused with native := (act paused.native).2 }) := rfl

/-- **A step in which the library is used** sets no fault if the use of it does not. -/
theorem preserves_native {act : StateM (Recorded σ) α} (h : Preserves Recorded.switches act) :
    Preserves World.switches (native library.services act) :=
  bind preserves_pause fun _ world => h world.native

/-- What the library is asked sets a fault only if the request does. -/
theorem preserves_ask {act : Act (Recorded σ) α} (h : Preserves Recorded.switches act) :
    Preserves World.switches (ask library.services act) := preserves_native h

/-- A step of the registry sets no fault. -/
theorem preserves_entrust (step : Registry Domain → α × Registry Domain) :
    Preserves World.switches (entrust library.services step) :=
  bind preserves_pause fun _ => preserves_custody step

theorem preserves_sweep : Preserves World.switches (sweep library.services) :=
  bind preserves_pause fun _ => bind preserves_finish fun _ => preserves_custody _

/-- A context is made and given an owner. -/
theorem preserves_acquire (domain : Domain) (request : Request) :
    Preserves World.switches (acquire library.services domain request) := by
  unfold acquire
  rw [backend_services]
  exact andThen (preserves_ask ((overlooks_switches _).allocate request)) fun _ =>
    preserves_entrust _

/-- A context is disposed of by its owner. -/
theorem preserves_dispose (owner : Owner) :
    Preserves World.switches (dispose library.services owner) :=
  bind (preserves_entrust _) fun _ => bind (preserves_entrust _) fun _ =>
    bind (preserves_entrust _) fun _ => pure _

/-- A context is left to the daemon. -/
theorem preserves_abandon (owner : Owner) :
    Preserves World.switches (abandon library.services owner) :=
  bind (preserves_entrust _) fun _ => bind (preserves_entrust _) fun _ => pure _

/-- A context is lent to a body, which is what may set faults here, if anything does. -/
theorem preserves_lend (owner : Owner) {body : Work (Recorded σ) α}
    (h : Preserves World.switches body) :
    Preserves World.switches (lend library.services owner body) :=
  bind h fun _ => bind (preserves_dispose owner) fun _ => pure _

/-- A new owner is prepared, and disposed of if that fails. -/
theorem preserves_prepare (owner : Owner) {init : Work (Recorded σ) Unit}
    (h : Preserves World.switches init) :
    Preserves World.switches (prepare library.services owner init) := by
  refine bind h fun result => ?_
  split
  · exact pure _
  · exact bind (preserves_dispose owner) fun _ => pure _
  · exact bind (preserves_abandon owner) fun _ => pure _

/-- A buffer is filled and cut to what was written. -/
theorem preserves_fetch (request : Nat → Request) (length : Nat) :
    Preserves World.switches
      (fetch library.services library.backend.recorded request length) :=
  andThen (ofState (preserves_native ((overlooks_switches _).fill _ _))) fun _ =>
    andThen (ofExcept _) fun _ => ofExcept _

theorem preserves_askNumber (request : Request) : Preserves World.switches
    (ask library.services (library.backend.recorded.number request)) :=
  preserves_ask ((overlooks_switches _).number request)

theorem preserves_askPerform (request : Request) : Preserves World.switches
    (ask library.services (library.backend.recorded.perform request)) :=
  preserves_ask ((overlooks_switches _).perform request)

/-- To ask whether faults can be set sets none. -/
theorem preserves_requireFaults : Preserves World.switches (requireFaults library.services) := by
  refine preserves_ask (andThen (ofState preserves_faultsAvailable) fun available => ?_)
  split
  · exact pure _
  · exact fail _

/-! ## Digests -/

namespace Digest

theorem preserves_create (algorithm : String) (outputLength : Nat) :
    Preserves World.switches (create library.services algorithm outputLength) :=
  andThen (preserves_acquire _ _) fun _ => pure _

theorem preserves_finishInto (digest : Digest) (before : Bytes) :
    Preserves World.switches (digest.finishInto library.services before) :=
  preserves_native ((overlooks_switches _).fill _ before)

theorem preserves_finish (digest : Digest) :
    Preserves World.switches (digest.finish library.services) :=
  andThen (preserves_askNumber _) fun length => preserves_fetch (.digestFinish digest.handle) length

/-- A digest that a body works with, which is disposed of afterwards. -/
theorem preserves_within (algorithm : String) {body : Digest → Work (Recorded σ) α}
    (h : ∀ digest, Preserves World.switches (body digest)) :
    Preserves World.switches (within library.services algorithm body) :=
  andThen (preserves_create algorithm 0) fun digest => preserves_lend digest.owner (h digest)

/-- All of a message at once. -/
theorem preserves_once (algorithm : String) (data : Bytes) :
    Preserves World.switches (once library.services algorithm data) :=
  preserves_within algorithm fun digest =>
    andThen (preserves_askPerform _) fun _ => digest.preserves_finish

end Digest

/-! ## Keys and signatures -/

namespace KeySpec

theorem preserves_create {init : KeySpec → Work (Recorded σ) Unit}
    (h : ∀ key, Preserves World.switches (init key)) :
    Preserves World.switches (create library.services init) :=
  andThen (preserves_acquire _ _) fun owner =>
    andThen (preserves_prepare owner (h ⟨owner⟩)) fun _ => pure _

theorem preserves_encode (key : KeySpec) (part : KeyPart) :
    Preserves World.switches (key.encode library.services part) :=
  andThen (preserves_askNumber _) fun length => preserves_fetch (.keyEncode key.handle part) length

theorem preserves_type (key : KeySpec) : Preserves World.switches (key.type library.services) :=
  preserves_ask ((overlooks_switches _).keyType _)

theorem preserves_encapsulate (key : KeySpec) :
    Preserves World.switches (key.encapsulate library.services) := by
  refine andThen (preserves_askNumber _) fun total => ?_
  refine andThen (preserves_askNumber _) fun secret => ?_
  split
  · exact fail _
  · exact andThen (ofState (preserves_native ((overlooks_switches _).fill _ _))) fun _ =>
      andThen (ofExcept _) fun _ => pure _

theorem preserves_decapsulate (key : KeySpec) (ciphertext : Bytes) :
    Preserves World.switches (key.decapsulate library.services ciphertext) :=
  andThen (preserves_askNumber _) fun length =>
    preserves_fetch (.decapsulate key.handle ciphertext) length

end KeySpec

/-- A signature context, made and prepared for a key. -/
theorem preserves_acquireSignature (request : Address → Address → Request) (key : KeySpec) :
    Preserves World.switches (acquireSignature library.services request key) :=
  andThen (preserves_acquire _ _) fun owner =>
    andThen (preserves_prepare owner (preserves_askPerform _)) fun _ => pure _

theorem Signer.preserves_create (key : KeySpec) :
    Preserves World.switches (create library.services key) :=
  andThen (preserves_acquireSignature _ key) fun _ => pure _

theorem Signer.preserves_sign (signer : Signer) :
    Preserves World.switches (signer.sign library.services) :=
  andThen (preserves_askNumber _) fun length =>
    preserves_fetch (.signatureSign signer.owner.handle.address) length

theorem Verifier.preserves_create (key : KeySpec) :
    Preserves World.switches (create library.services key) :=
  andThen (preserves_acquireSignature _ key) fun _ => pure _

theorem Verifier.preserves_verify (verifier : Verifier) (signature : Bytes) :
    Preserves World.switches (verifier.verify library.services signature) :=
  preserves_ask ((overlooks_switches _).verify _ signature)

end Held

end Custody

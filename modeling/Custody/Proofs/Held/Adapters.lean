import Custody.Held.Derivation
import Custody.Held.Digest
import Custody.Held.Fault
import Custody.Held.KeySpec
import Custody.Held.Signature
import Custody.Proofs.Held.Steps

/-!
# What each operation does to a stake

A constructor that succeeds adds its owner to the stake. One that fails leaves the stake as it
was, whether no context was made or one that is disposed of again. Every other operation asks
the library for something on behalf of owners that are held, which leaves the stake as it is.

Two facts carry all of this. A request that allocates nothing leaves the contexts as they are and is
made with the contexts that it names (`keeps_ask`), for which it is enough that their owners are on
the stake. And a constructor that has allocated a context either passes it on to its owner or has it
disposed of before it reports its failure (`runs_acquire`, `runs_prepare`). The operations are put
together from these two by the rules for actions, in the order in which they make their requests.
-/

namespace Custody.Held

variable {σ α : Type} {library : Library σ} {stake : Stake} {owner : Owner} {domain : Domain}

/-! ## Owners -/

/-- All domains are served by one library. -/
theorem backend_services (domain : Domain) :
    domain.backend library.services = library.backend.recorded := by
  cases domain <;> rfl

/-- **Making a context and taking it into ownership.** -/
theorem runs_acquire {request : Request} (hmakes : request.makes? = some domain) :
    Runs library stake (acquire library.services domain request)
      (stake.upon fun owner => stake.hold owner domain) := by
  unfold acquire
  rw [backend_services]
  exact .andThen (runs_allocate hmakes) fun handle => runs_own handle domain.name

/-- **Lending an owner** takes it off the stake, however the body ends. -/
theorem runs_lend {body : Work (Recorded σ) α} (h : Keeps library (stake.hold owner domain) body) :
    Runs library (stake.hold owner domain) (lend library.services owner body) fun _ => stake :=
  Runs.bind h fun _ => Runs.bind (runs_dispose stake owner domain) fun _ => .pure _ rfl

/-- **Preparing a context.** Its owner stays on the stake if that succeeds and is taken off it
if not. -/
theorem runs_prepare {init : Work (Recorded σ) Unit}
    (h : Keeps library (stake.hold owner domain) init) :
    Runs library (stake.hold owner domain) (prepare library.services owner init)
      (stake.upon fun _ => stake.hold owner domain) := by
  refine Runs.bind h fun result => ?_
  split
  · exact .pure _ rfl
  · refine Runs.bind (runs_dispose stake owner domain) fun disposed => .pure _ ?_
    cases disposed <;> rfl
  · exact Runs.bind (runs_abandon stake owner domain) fun _ => .pure _ rfl

/-! ## Bytes -/

/-- **Asking for bytes** on behalf of owners that are held. -/
theorem keeps_fetch (request : Nat → Request) (hmakes : ∀ n, (request n).makes? = none)
    (hheld : ∀ n, (request n).targets ⊆ stake.contexts) (length : Nat) :
    Keeps library stake (fetch library.services library.backend.recorded request length) :=
  .andThen (.ofState (keeps_native (.fill (hmakes _)) (hheld _))) fun _ =>
    .andThen (keeps_ofExcept _) fun _ => keeps_ofExcept _

/-- A step in which the library is asked for something on behalf of owners that are held. -/
theorem keeps_ask {act : Act (Recorded σ) α} {targets : List (Address × Domain)}
    (h : library.Uses targets act) (hheld : targets ⊆ stake.contexts) :
    Keeps library stake (ask library.services act) := keeps_native h hheld

/-- A request to the library on behalf of owners that are held. -/
theorem keeps_number {request : Request} (hmakes : request.makes? = none)
    (hheld : request.targets ⊆ stake.contexts) :
    Keeps library stake (ask library.services (library.backend.recorded.number request)) :=
  keeps_ask (.number hmakes) hheld

/-- A request that is only to be carried out. -/
theorem keeps_perform {request : Request} (hmakes : request.makes? = none)
    (hheld : request.targets ⊆ stake.contexts) :
    Keeps library stake (ask library.services (library.backend.recorded.perform request)) :=
  keeps_ask (.perform hmakes) hheld

/-! ## Digests -/

namespace Digest

variable (digest : Digest)

/-- **A new digest is held** by whoever asked for it. -/
theorem runs_create (algorithm : String) (outputLength : Nat) :
    Runs library stake (create library.services algorithm outputLength)
      (stake.upon fun digest => stake.hold digest.owner .digest) :=
  .andThen (runs_acquire rfl) fun _ => .pure _ rfl

section Held

variable {digest} (hheld : stake.Has digest.owner .digest)

include hheld

theorem keeps_feedRange (data : Bytes) (offset len : Nat) :
    Keeps library stake (digest.feedRange library.services data offset len) :=
  keeps_perform rfl hheld

theorem keeps_feedByte (byte : UInt8) :
    Keeps library stake (digest.feedByte library.services byte) :=
  keeps_perform rfl hheld

theorem keeps_length : Keeps library stake (digest.length library.services) :=
  keeps_number rfl hheld

theorem keeps_finishInto (before : Bytes) :
    Keeps library stake (digest.finishInto library.services before) :=
  keeps_native (.fill rfl) hheld

theorem keeps_finish : Keeps library stake (digest.finish library.services) := by
  refine .andThen (keeps_length hheld) fun length => ?_
  exact keeps_fetch (.digestFinish digest.handle) (fun _ => rfl) (fun _ => hheld) length

theorem keeps_reset : Keeps library stake (digest.reset library.services) :=
  keeps_perform rfl hheld

end Held

/-- **A digest for a body** is there while the body runs and gone afterwards. -/
theorem keeps_within (algorithm : String) {body : Digest → Work (Recorded σ) α}
    (h : ∀ digest, Keeps library (stake.hold digest.owner .digest) (body digest)) :
    Keeps library stake (within library.services algorithm body) :=
  .of_always (.andThen (runs_create algorithm 0) fun _ => .always (runs_lend (h _)))

/-- A digest that is made, fed and finished at once is not held afterwards. -/
theorem keeps_once (algorithm : String) (data : Bytes) :
    Keeps library stake (once library.services algorithm data) :=
  keeps_within algorithm fun _ =>
    .andThen (keeps_feedRange Stake.has_hold data 0 data.length)
      fun _ => keeps_finish Stake.has_hold

end Digest

/-! ## Keys -/

namespace KeySpec

variable (key : KeySpec)

/-- **A new key is held** by whoever asked for it, if preparing it keeps what is at stake. -/
theorem runs_create {init : KeySpec → Work (Recorded σ) Unit}
    (h : ∀ key, Keeps library (stake.hold key.owner .keySpec) (init key)) :
    Runs library stake (create library.services init)
      (stake.upon fun key => stake.hold key.owner .keySpec) :=
  .andThen (runs_acquire rfl) fun owner => .andThen (runs_prepare (h ⟨owner⟩)) fun _ => .pure _ rfl

theorem runs_generate (type : KeyType) : Runs library stake (generate library.services type)
    (stake.upon fun key => stake.hold key.owner .keySpec) :=
  runs_create fun _ => keeps_perform rfl Stake.has_hold

theorem runs_decode (part : KeyPart) (type : KeyType) (encoded : Bytes) :
    Runs library stake (decode library.services part type encoded)
      (stake.upon fun key => stake.hold key.owner .keySpec) :=
  runs_create fun _ => keeps_perform rfl Stake.has_hold

section Held

variable {key} (hheld : stake.Has key.owner .keySpec)

include hheld

theorem keeps_encode (part : KeyPart) : Keeps library stake (key.encode library.services part) := by
  refine .andThen (keeps_number rfl hheld) fun length => ?_
  exact keeps_fetch (.keyEncode key.handle part) (fun _ => rfl) (fun _ => hheld) length

theorem keeps_type : Keeps library stake (key.type library.services) := keeps_ask (.keyType _) hheld

/-- The secret and the ciphertext are bytes, for which nobody has to answer. -/
theorem keeps_encapsulate : Keeps library stake (key.encapsulate library.services) := by
  refine .andThen (keeps_number rfl hheld) fun total => ?_
  refine .andThen (keeps_number rfl hheld) fun secret => ?_
  split
  · exact keeps_ofExcept _
  · refine .andThen ?_ fun result => .andThen (keeps_ofExcept _) fun _ => keeps_ofExcept _
    have hfill : library.Uses (Request.encapsulate key.handle (Bytes.zeros total).length).targets
        (library.backend.recorded.fill (.encapsulate key.handle) (Bytes.zeros total)) := .fill rfl
    exact .ofState (keeps_native hfill hheld)

/-- The secret that is opened is bytes, for which nobody has to answer. -/
theorem keeps_decapsulate (ciphertext : Bytes) :
    Keeps library stake (key.decapsulate library.services ciphertext) := by
  refine .andThen (keeps_number rfl hheld) fun length => ?_
  exact keeps_fetch (.decapsulate key.handle ciphertext) (fun _ => rfl) (fun _ => hheld) length

end Held

end KeySpec

/-! ## Signatures -/

/-- **A signature context is prepared with a key** that is held, and keeps nothing of it
afterwards. -/
theorem runs_acquireSignature {request : Address → Address → Request} {key : KeySpec}
    (hmakes : ∀ handle, (request handle key.handle).makes? = none)
    (htargets : ∀ handle, (request handle key.handle).targets
      = [(handle, .signature), (key.handle, .keySpec)])
    (hheld : stake.Has key.owner .keySpec) :
    Runs library stake (acquireSignature library.services request key)
      (stake.upon fun owner => stake.hold owner .signature) := by
  refine .andThen (runs_acquire rfl) fun owner => .andThen (runs_prepare ?_) fun _ => .pure _ rfl
  refine keeps_perform (hmakes _) ?_
  rw [htargets]
  exact List.cons_subset.mpr ⟨List.mem_cons_self, hheld.hold⟩

theorem keeps_feedMessage (hheld : stake.Has owner .signature) (data : Bytes) (offset len : Nat) :
    Keeps library stake (feedMessage library.services owner data offset len) :=
  keeps_perform rfl hheld

namespace Signer

/-- **A new signer is held**, and not the key that it was made for. -/
theorem runs_create {key : KeySpec} (hheld : stake.Has key.owner .keySpec) :
    Runs library stake (create library.services key)
      (stake.upon fun signer => stake.hold signer.owner .signature) :=
  .andThen (runs_acquireSignature (fun _ => rfl) (fun _ => rfl) hheld) fun _ => .pure _ rfl

theorem keeps_sign {signer : Signer} (hheld : stake.Has signer.owner .signature) :
    Keeps library stake (signer.sign library.services) := by
  refine .andThen (keeps_number rfl hheld) fun length => ?_
  exact keeps_fetch (.signatureSign signer.owner.handle.address)
    (fun _ => rfl) (fun _ => hheld) length

end Signer

namespace Verifier

/-- **A new verifier is held**, and not the key that it was made for. -/
theorem runs_create {key : KeySpec} (hheld : stake.Has key.owner .keySpec) :
    Runs library stake (create library.services key)
      (stake.upon fun verifier => stake.hold verifier.owner .signature) :=
  .andThen (runs_acquireSignature (fun _ => rfl) (fun _ => rfl) hheld) fun _ => .pure _ rfl

theorem keeps_verify {verifier : Verifier} (hheld : stake.Has verifier.owner .signature)
    (signature : Bytes) : Keeps library stake (verifier.verify library.services signature) :=
  keeps_ask (.verify _ _) hheld

end Verifier

/-! ## Derived keys and faults -/

theorem keeps_pbkdf2 (digest : String) (password salt : Bytes) (iterations length : Nat) :
    Keeps library stake (pbkdf2 library.services digest password salt iterations length) :=
  keeps_fetch (.pbkdf2 digest password salt iterations)
    (fun _ => rfl) (fun _ => List.nil_subset _) length

theorem keeps_hkdf (digest : String) (material salt info : Bytes) (length : Nat) :
    Keeps library stake (hkdf library.services digest material salt info length) :=
  keeps_fetch (.hkdf digest material salt info) (fun _ => rfl) (fun _ => List.nil_subset _) length

theorem keeps_scrypt (password salt : Bytes) (n r p length : Nat) :
    Keeps library stake (scrypt library.services password salt n r p length) :=
  keeps_fetch (.scrypt password salt n r p) (fun _ => rfl) (fun _ => List.nil_subset _) length

theorem keeps_requireFaults : Keeps library stake (requireFaults library.services) := by
  refine keeps_ask (.andThen (.ofState .faultsAvailable) fun available => ?_) (List.nil_subset _)
  split
  · exact .pure _
  · exact .fail _

theorem keeps_setFault (flag : FaultFlag) (on : Bool) :
    Keeps library stake (setFault library.services flag on) :=
  .andThen keeps_requireFaults fun _ => keeps_ask (.setFault flag on) (List.nil_subset _)

theorem keeps_resetFaults : Keeps library stake (resetFaults library.services) :=
  .andThen keeps_requireFaults fun _ => .ofState (keeps_native .resetFaults (List.nil_subset _))

namespace Guard

/-- A guard holds no context. -/
theorem keeps_raise (flag : FaultFlag) : Keeps library stake (raise library.services flag) :=
  .andThen (keeps_setFault flag true) fun _ => keeps_ofExcept _

/-- A guard that goes gives no context up. -/
theorem keeps_clear (guard : Guard) : Keeps library stake (guard.clear library.services) := by
  have hask : Keeps library stake
      (ask library.services (library.backend.recorded.setFault guard.flag false)) :=
    keeps_ask (.setFault guard.flag false) (List.nil_subset _)
  intro world
  have hworld := hask world
  unfold clear
  split
  · rename_i heq
    rwa [show ask library.services (library.backend.recorded.setFault guard.flag false) world = _
      from heq] at hworld
  · exact hworld

end Guard

end Custody.Held

import Custody.Proofs.Held.Adapters
import Custody.Proofs.Held.Trust

/-!
# What each operation does to a charge

Every operation of a program serves a charge well: whatever comes of it, an early end is excused,
and the charge is there as it was, with one more owner where a constructor succeeds. A signer comes
with a context that signs and a verifier with one that checks, so that signing and checking never
find a context that was not prepared for them. Where a length, a truth or a type comes from the
library, it is one that the program expects.

Each lemma follows the operation that it is about, request by request, and asks at every request
what the charge has to allow (`Charge.Allows`). Where an operation computes with a number that it
was given, the lemma on the request says which numbers can come (`Gained`), and the early end for
any other number is never reached.
-/

namespace Custody.Held

open Vault

variable {α : Type} {kind : BackendKind} {own : Option String} {charge : Charge} {owner : Owner}
  {domain : Domain} {role : Role}

/-! ## Owners -/

/-- **Making a context and taking it into ownership.** -/
theorem changesCharge_acquire {request : Request} (hmakes : request.makes? = some domain) :
    ChangesCharge kind own charge (acquire (Library.vault kind).services domain request)
      fun owner => charge.hold owner domain := by
  unfold acquire
  rw [backend_services]
  exact .andThen (changesCharge_allocate hmakes) fun handle => serves_own handle domain.name

/-- An owner that is disposed of. -/
theorem keepsCharge_dispose {pre : World (Recorded Session) → Prop}
    (h : ∀ world, pre world → Trusts kind (charge.hold owner domain) world) :
    Serves kind pre (dispose (Library.vault kind).services owner)
      (Ends own (Trusts kind charge) fun _ => Trusts kind charge) := by
  refine ((serves_dispose charge owner domain).strengthen h).weaken ?_
  rintro _ world ⟨rfl, htrusts⟩
  exact htrusts

/-- An owner that is dropped. -/
theorem keepsCharge_abandon {pre : World (Recorded Session) → Prop}
    (h : ∀ world, pre world → Trusts kind (charge.hold owner domain) world) :
    Serves kind pre (abandon (Library.vault kind).services owner)
      (Ends own (Trusts kind charge) fun _ => Trusts kind charge) := by
  refine ((serves_abandon charge owner domain).strengthen h).weaken ?_
  rintro _ world ⟨rfl, htrusts⟩
  exact htrusts

/-- **Lending an owner** to a body that leaves it there. What is known of the result of the body is
known of the result of lending. -/
theorem serves_lend {fact : α → Prop} {pre : World (Recorded Session) → Prop}
    {body : Work (Recorded Session) α}
    (h : Serves kind pre body (Ends own (Trusts kind (charge.hold owner domain))
      fun a world => fact a ∧ Trusts kind (charge.hold owner domain) world)) :
    Serves kind pre (lend (Library.vault kind).services owner body)
      (Ends own (Trusts kind charge) fun a world => fact a ∧ Trusts kind charge world) := by
  refine Serves.bind h fun result => ?_
  cases result with
  | ok a =>
    refine Serves.bind ((serves_dispose charge owner domain).frame _) fun disposed => .pure _ ?_
    rintro world ⟨hfact, rfl, htrusts⟩
    exact ⟨hfact, htrusts⟩
  | error abort =>
    refine Serves.bind ((serves_dispose charge owner domain).frame _) fun disposed => .pure _ ?_
    rintro world ⟨hexcused, -, htrusts⟩
    exact ⟨hexcused, htrusts⟩

/-- **Preparing a context.** If that fails or panics its owner goes. -/
theorem serves_prepare {init : Work (Recorded Session) Unit}
    {next : World (Recorded Session) → Prop}
    (h : Serves kind (Trusts kind (charge.hold owner domain)) init
      (Ends own (Trusts kind (charge.hold owner domain)) fun _ => next)) :
    Serves kind (Trusts kind (charge.hold owner domain))
      (prepare (Library.vault kind).services owner init)
      (Ends own (Trusts kind charge) fun _ => next) := by
  refine Serves.bind h fun result => ?_
  cases result with
  | ok a => exact .pure _ fun _ h => h
  | error abort =>
    cases abort with
    | failed failure =>
      refine Serves.bind ((serves_dispose charge owner domain).frame _) fun disposed => .pure _ ?_
      rintro world ⟨hexcused, rfl, htrusts⟩
      exact ⟨hexcused, htrusts⟩
    | panicked message =>
      refine Serves.bind ((serves_abandon charge owner domain).frame _) fun gone => .pure _ ?_
      rintro world ⟨hexcused, -, htrusts⟩
      exact ⟨hexcused, htrusts⟩

/-! ## Requests -/

/-- **What may be asked on behalf of a charge.** -/
structure Charge.Allows (charge : Charge) (request : Request) : Prop where
  /-- It does not allocate. -/
  makes : request.makes? = none
  /-- It is made with contexts of owners that are held. -/
  held : request.targets ⊆ charge.stake.contexts
  /-- The signature context that it is for is prepared for it. -/
  needs : ∀ need ∈ request.needs?, ∃ role ∈ need.2, (need.1, role) ∈ charge.roles

namespace Charge

/-- A context with a role is one of an owner that is held. -/
theorem Plays.has (h : charge.Plays owner role) : charge.Has owner .signature :=
  List.cons_subset.mpr ⟨charge.cast _ h, List.nil_subset _⟩

namespace Allows

variable {request : Request}

/-- A request that is for no signature context. -/
theorem plain (hmakes : request.makes? = none) (hneeds : request.needs? = none)
    (hheld : request.targets ⊆ charge.stake.contexts) : charge.Allows request :=
  ⟨hmakes, hheld, by simp [hneeds]⟩

/-- A request to a signature context that has one of the roles for it. -/
theorem prepared {roles : List Role} (hmakes : request.makes? = none)
    (hneeds : request.needs? = some (owner.handle.address, roles)) (hrole : role ∈ roles)
    (htargets : request.targets = [(owner.handle.address, .signature)])
    (h : charge.Plays owner role) : charge.Allows request where
  makes := hmakes
  held := htargets ▸ h.has
  needs := by
    rw [hneeds]
    rintro _ ⟨⟩
    exact ⟨role, hrole, h⟩

/-- The library is ready for it. -/
theorem suits {vault : Vault} (h : charge.Allows request) (hready : Ready charge vault) :
    request.Suits vault := hready.suits h.held h.needs

end Allows

end Charge

section Requests

variable {request : Request} {targets : List (Address × Domain)}

/-- **A use of the library that keeps to the contract**, on behalf of owners that are held. -/
theorem keepsCharge_ask {act : Act (Recorded Session) α}
    (huses : (Library.vault kind).Uses targets act) (hheld : targets ⊆ charge.stake.contexts)
    (hkeeps : ∀ recorded : Recorded Session, Ready charge recorded.state.vault →
      Session.Keeps own [] recorded (act recorded)) :
    KeepsCharge kind own charge (ask (Library.vault kind).services act) := by
  have hask := serves_ask (fun _ _ => True) huses hheld (fun _ _ _ => List.not_mem_nil) hkeeps
    fun _ _ _ => trivial
  exact hask.mapEnds (fun _ h => h) fun _ _ h => h.2

/-- One that needs no context. -/
theorem keepsCharge_minds {act : Act (Recorded Session) α}
    (huses : (Library.vault kind).Uses [] act) (h : Session.Minds own act) :
    KeepsCharge kind own charge (ask (Library.vault kind).services act) :=
  keepsCharge_ask huses (List.nil_subset _) fun recorded hready => h recorded hready.faultless

/-- A number that the library gives for a request. -/
def Gained (kind : BackendKind) (request : Request) (n : Nat) : Prop :=
  ∃ recorded, ((Library.vault kind).backend.recorded.number request recorded).1 = .ok n

variable (h : charge.Allows request) (hassigns : request.assigns? = none)

include h hassigns

/-- A request for a number that prepares nothing keeps to the contract. -/
theorem Charge.Allows.keeps_number {recorded : Recorded Session}
    (hready : Ready charge recorded.state.vault) :
    Session.Keeps own [] recorded
      ((Library.vault kind).backend.recorded.number request recorded) := by
  have hkeeps : Session.Keeps own _ recorded
    ((Library.vault kind).backend.recorded.number request recorded) :=
      Session.keeps_number hready.faultless (h.suits hready) h.makes
  rwa [hassigns] at hkeeps

/-- **A request for a number** leaves the charge as it is, and the number is one that the library
gives. -/
theorem serves_number :
    Serves kind (Trusts kind charge)
      (ask (Library.vault kind).services ((Library.vault kind).backend.recorded.number request))
      (Ends own (Trusts kind charge) fun n world =>
        Gained kind request n ∧ Trusts kind charge world) :=
  serves_ask (fun n _ => Gained kind request n) (.number h.makes) h.held
    (fun _ _ _ => List.not_mem_nil) (fun _ => h.keeps_number hassigns)
    fun recorded _ hn => ⟨recorded, hn⟩

theorem keepsCharge_number : KeepsCharge kind own charge
    (ask (Library.vault kind).services ((Library.vault kind).backend.recorded.number request)) :=
  keepsCharge_ask (.number h.makes) h.held fun _ => h.keeps_number hassigns

/-- A request that something be done. -/
theorem keepsCharge_perform : KeepsCharge kind own charge
    (ask (Library.vault kind).services ((Library.vault kind).backend.recorded.perform request)) :=
  keepsCharge_ask (.perform h.makes) h.held fun _ hready =>
    (h.keeps_number hassigns hready).andThen fun _ _ => .of_ok _ (.refl _)

omit h hassigns

/-- **A request for bytes.** -/
theorem serves_fill {request : Nat → Request} {before : Bytes}
    (h : charge.Allows (request before.length))
    (hassigns : (request before.length).assigns? = none) :
    Serves kind (Trusts kind charge)
      (native (Library.vault kind).services
        ((Library.vault kind).backend.recorded.fill request before))
      fun result => Ends own (Trusts kind charge) (fun _ => Trusts kind charge) result.1 := by
  have hnative : Serves kind (Trusts kind charge)
      (native (Library.vault kind).services
        ((Library.vault kind).backend.recorded.fill request before))
      fun result world => (∀ abort, result.1 = .error abort → abort.Excused own)
        ∧ Trusts kind charge world := by
    refine serves_native (fun result _ => ∀ abort, result.1 = .error abort → abort.Excused own)
      (.fill h.makes) h.held (fun _ _ _ => List.not_mem_nil) fun recorded hready => ?_
    have hkeeps : Session.Keeps own _ recorded
      ((Library.vault kind).backend.recorded.number (request before.length) recorded) :=
        h.keeps_number hassigns hready
    exact ⟨hkeeps.upholds, hkeeps.excused⟩
  refine hnative.weaken ?_
  rintro ⟨abort | n, buffer⟩ world ⟨hexcused, htrusts⟩
  · exact ⟨hexcused abort rfl, htrusts⟩
  · exact htrusts

/-- Bytes into a buffer of a length. -/
theorem keepsCharge_fetch (request : Nat → Request) (h : ∀ n, charge.Allows (request n))
    (hassigns : ∀ n, (request n).assigns? = none) (length : Nat) :
    KeepsCharge kind own charge (fetch (Library.vault kind).services
      (Library.vault kind).backend.recorded request length) :=
  .andThen (.ofState (serves_fill (h _) (hassigns _))) fun result =>
    .andThen (.ofExcept result.1) fun _ => .done _ fun _ h => h

end Requests

/-- **A signature context that is prepared** has its role afterwards. -/
theorem serves_init {request : Request} (hmakes : request.makes? = none)
    (hneeds : request.needs? = none)
    (hassigns : request.assigns? = some (owner.handle.address, role))
    (htargets : request.targets ⊆ (charge.hold owner .signature).stake.contexts) :
    Serves kind (Trusts kind (charge.hold owner .signature))
      (ask (Library.vault kind).services ((Library.vault kind).backend.recorded.perform request))
      (Ends own (Trusts kind (charge.hold owner .signature))
        fun _ => Trusts kind (charge.assign owner role)) := by
  have hallows : (charge.hold owner .signature).Allows request := .plain hmakes hneeds htargets
  -- No other context at stake has the address of this one, so that no other role is touched.
  have hapart : ((charge.hold owner .signature).stake.contexts.map Prod.fst).Nodup →
      ∀ pair ∈ charge.roles, pair.1 ∉ [owner.handle.address] := by
    intro hnodup pair hpair hmem
    exact (List.nodup_cons.mp hnodup).1 (List.mem_map.mpr
      ⟨_, charge.cast pair hpair, List.mem_singleton.mp hmem⟩)
  have hinit : ∀ recorded : Recorded Session,
      Ready (charge.hold owner .signature) recorded.state.vault →
      Session.Keeps own [owner.handle.address] recorded
        ((Library.vault kind).backend.recorded.perform request recorded) := by
    intro recorded hready
    have hkeeps : Session.Keeps own _ recorded
      ((Library.vault kind).backend.recorded.perform request recorded) :=
        Session.keeps_perform hready.faultless (hallows.suits hready) hmakes
    rwa [hassigns] at hkeeps
  have hask := serves_ask (fun _ vault => vault.roleAt owner.handle.address = some role)
    (.perform hmakes) htargets hapart hinit
    fun _ _ hdone => Session.roleAt_of_perform hassigns hdone
  exact hask.mapEnds (fun _ h => h) fun _ _ h => h.2.assign h.1

/-! ## Digests -/

namespace Digest

theorem changesCharge_create (algorithm : String) (outputLength : Nat) :
    ChangesCharge kind own charge (create (Library.vault kind).services algorithm outputLength)
      fun digest => charge.hold digest.owner .digest :=
  .andThen (changesCharge_acquire rfl) fun _ => .done _ fun _ h => h

section Held

variable {digest : Digest} (hheld : charge.Has digest.owner .digest)

include hheld

theorem keepsCharge_feedRange (data : Bytes) (offset len : Nat) :
    KeepsCharge kind own charge (digest.feedRange (Library.vault kind).services data offset len) :=
  keepsCharge_perform (.plain rfl rfl hheld) rfl

theorem keepsCharge_feedByte (byte : UInt8) :
    KeepsCharge kind own charge (digest.feedByte (Library.vault kind).services byte) :=
  keepsCharge_perform (.plain rfl rfl hheld) rfl

theorem keepsCharge_length :
    KeepsCharge kind own charge (digest.length (Library.vault kind).services) :=
  keepsCharge_number (.plain rfl rfl hheld) rfl

theorem serves_finishInto (before : Bytes) :
    Serves kind (Trusts kind charge) (digest.finishInto (Library.vault kind).services before)
      fun result => Ends own (Trusts kind charge) (fun _ => Trusts kind charge) result.1 :=
  serves_fill (.plain rfl rfl hheld) rfl

theorem keepsCharge_finish :
    KeepsCharge kind own charge (digest.finish (Library.vault kind).services) :=
  .andThen (keepsCharge_length hheld) fun length =>
    keepsCharge_fetch (.digestFinish digest.handle) (fun _ => .plain rfl rfl hheld)
      (fun _ => rfl) length

theorem keepsCharge_reset :
    KeepsCharge kind own charge (digest.reset (Library.vault kind).services) :=
  keepsCharge_perform (.plain rfl rfl hheld) rfl

end Held

/-- **A digest for a body** is there while the body runs and gone afterwards. -/
theorem keepsCharge_within (algorithm : String) {body : Digest → Work (Recorded Session) α}
    (h : ∀ digest, KeepsCharge kind own (charge.hold digest.owner .digest) (body digest)) :
    KeepsCharge kind own charge (within (Library.vault kind).services algorithm body) := by
  refine .andThen (changesCharge_create algorithm 0) fun digest => ?_
  have hlend : Serves kind (Trusts kind (charge.hold digest.owner .digest))
      (lend (Library.vault kind).services digest.owner (body digest))
      (Ends own (Trusts kind charge) fun _ world => True ∧ Trusts kind charge world) :=
    serves_lend ((h digest).mapEnds (fun _ h => h) fun _ _ h => ⟨trivial, h⟩)
  exact hlend.mapEnds (fun _ h => h) fun _ _ h => h.2

theorem keepsCharge_once (algorithm : String) (data : Bytes) :
    KeepsCharge kind own charge (once (Library.vault kind).services algorithm data) :=
  keepsCharge_within algorithm fun _ =>
    .andThen (keepsCharge_feedRange Stake.has_hold data 0 data.length)
      fun _ => keepsCharge_finish Stake.has_hold

end Digest

/-! ## Keys -/

namespace KeySpec

theorem changesCharge_create {init : KeySpec → Work (Recorded Session) Unit}
    (h : ∀ key, KeepsCharge kind own (charge.hold key.owner .keySpec) (init key)) :
    ChangesCharge kind own charge (create (Library.vault kind).services init)
      fun key => charge.hold key.owner .keySpec :=
  .andThen (changesCharge_acquire rfl) fun owner =>
    .andThen (serves_prepare (h ⟨owner⟩)) fun _ => .done _ fun _ h => h

theorem changesCharge_generate (type : KeyType) :
    ChangesCharge kind own charge (generate (Library.vault kind).services type)
      fun key => charge.hold key.owner .keySpec :=
  changesCharge_create fun _ => keepsCharge_perform (.plain rfl rfl Stake.has_hold) rfl

theorem changesCharge_decode (part : KeyPart) (type : KeyType) (encoded : Bytes) :
    ChangesCharge kind own charge (decode (Library.vault kind).services part type encoded)
      fun key => charge.hold key.owner .keySpec :=
  changesCharge_create fun _ => keepsCharge_perform (.plain rfl rfl Stake.has_hold) rfl

section Held

variable {key : KeySpec} (hheld : charge.Has key.owner .keySpec)

include hheld

theorem keepsCharge_encode (part : KeyPart) :
    KeepsCharge kind own charge (key.encode (Library.vault kind).services part) :=
  .andThen (keepsCharge_number (.plain rfl rfl hheld) rfl) fun length =>
    keepsCharge_fetch (.keyEncode key.handle part) (fun _ => .plain rfl rfl hheld) (fun _ => rfl)
      length

/-- **The library gives no type that is unknown.** -/
theorem keepsCharge_type :
    KeepsCharge kind own charge (key.type (Library.vault kind).services) := by
  have hallows : charge.Allows (.keyType key.handle) := .plain rfl rfl hheld
  exact keepsCharge_ask (.keyType _) hheld fun _ hready =>
    Session.keeps_keyType hready.faultless (hallows.suits hready) rfl

/-- **What is sealed is longer than the secret in it**, so that the secret can be taken from it. -/
theorem keepsCharge_encapsulate :
    KeepsCharge kind own charge (key.encapsulate (Library.vault kind).services) := by
  have htotal : charge.Allows (.encapsulatedLength key.handle) := .plain rfl rfl hheld
  have hsecret : charge.Allows (.secretLength key.handle) := .plain rfl rfl hheld
  refine .andThen (serves_number htotal rfl) fun total => ?_
  refine .andThen ((serves_number hsecret rfl).remember _) fun secret => ?_
  split
  · rename_i hless
    refine .pure _ ?_
    rintro world ⟨⟨_, htotal⟩, ⟨_, hsecret⟩, -⟩
    -- The library says 64 and 32, whatever the key is.
    rw [Session.eq_of_encapsulatedLength htotal, Session.eq_of_secretLength hsecret] at hless
    exact absurd hless (by decide)
  · have hfill : Serves kind (Trusts kind charge)
        (native (Library.vault kind).services
          ((Library.vault kind).backend.recorded.fill (.encapsulate key.handle)
            (Bytes.zeros total)))
        fun result => Ends own (Trusts kind charge) (fun _ => Trusts kind charge) result.1 :=
      serves_fill (.plain rfl rfl hheld) rfl
    exact .andThen (.ofState (hfill.strengthen fun _ h => h.2.2)) fun result =>
      .andThen (.ofExcept result.1) fun _ => .done _ fun _ h => h

theorem keepsCharge_decapsulate (ciphertext : Bytes) :
    KeepsCharge kind own charge (key.decapsulate (Library.vault kind).services ciphertext) :=
  .andThen (keepsCharge_number (.plain rfl rfl hheld) rfl) fun length =>
    keepsCharge_fetch (.decapsulate key.handle ciphertext) (fun _ => .plain rfl rfl hheld)
      (fun _ => rfl) length

end Held

end KeySpec

/-! ## Signatures -/

/-- **A signature context is prepared with a key** that is held, and has its role then. -/
theorem changesCharge_acquireSignature {request : Address → Address → Request} {key : KeySpec}
    (hmakes : ∀ handle, (request handle key.handle).makes? = none)
    (hneeds : ∀ handle, (request handle key.handle).needs? = none)
    (hassigns : ∀ handle, (request handle key.handle).assigns? = some (handle, role))
    (htargets : ∀ handle, (request handle key.handle).targets
      = [(handle, .signature), (key.handle, .keySpec)])
    (hheld : charge.Has key.owner .keySpec) :
    ChangesCharge kind own charge (acquireSignature (Library.vault kind).services request key)
      fun owner => charge.assign owner role := by
  refine .andThen (changesCharge_acquire rfl) fun owner => .andThen (serves_prepare ?_) fun _ =>
    .done _ fun _ h => h
  refine serves_init (hmakes _) (hneeds _) (hassigns _) ?_
  rw [htargets]
  exact List.cons_subset.mpr ⟨List.mem_cons_self, hheld.hold⟩

/-- Signing and checking are alike in what they are fed. -/
theorem keepsCharge_feedMessage (hplays : charge.Plays owner role) (data : Bytes)
    (offset len : Nat) :
    KeepsCharge kind own charge
      (feedMessage (Library.vault kind).services owner data offset len) := by
  refine keepsCharge_perform (.prepared rfl rfl ?_ rfl hplays) rfl
  cases role with
  | signs => exact .head _
  | checks => exact .tail _ (.head _)

namespace Signer

theorem changesCharge_create {key : KeySpec} (hheld : charge.Has key.owner .keySpec) :
    ChangesCharge kind own charge (create (Library.vault kind).services key)
      fun signer => charge.assign signer.owner .signs :=
  .andThen
    (changesCharge_acquireSignature (fun _ => rfl) (fun _ => rfl) (fun _ => rfl) (fun _ => rfl)
      hheld)
    fun _ => .done _ fun _ h => h

theorem keepsCharge_sign {signer : Signer} (hplays : charge.Plays signer.owner .signs) :
    KeepsCharge kind own charge (signer.sign (Library.vault kind).services) :=
  .andThen (keepsCharge_number (.prepared rfl rfl (.head _) rfl hplays) rfl) fun length =>
    keepsCharge_fetch (.signatureSign signer.owner.handle.address)
      (fun _ => .prepared rfl rfl (.head _) rfl hplays) (fun _ => rfl) length

end Signer

namespace Verifier

theorem changesCharge_create {key : KeySpec} (hheld : charge.Has key.owner .keySpec) :
    ChangesCharge kind own charge (create (Library.vault kind).services key)
      fun verifier => charge.assign verifier.owner .checks :=
  .andThen
    (changesCharge_acquireSignature (fun _ => rfl) (fun _ => rfl) (fun _ => rfl) (fun _ => rfl)
      hheld)
    fun _ => .done _ fun _ h => h

/-- **The library gives no truth but two.** -/
theorem keepsCharge_verify {verifier : Verifier} (hplays : charge.Plays verifier.owner .checks)
    (signature : Bytes) :
    KeepsCharge kind own charge (verifier.verify (Library.vault kind).services signature) := by
  have hallows : charge.Allows
      (.signatureVerify verifier.owner.handle.address signature) :=
    .prepared rfl rfl (.head _) rfl hplays
  exact keepsCharge_ask (.verify _ _) hplays.has fun _ hready =>
    Session.keeps_verify hready.faultless (hallows.suits hready) rfl

end Verifier

/-! ## Derived keys and faults -/

theorem keepsCharge_pbkdf2 (digest : String) (password salt : Bytes) (iterations length : Nat) :
    KeepsCharge kind own charge
      (pbkdf2 (Library.vault kind).services digest password salt iterations length) :=
  keepsCharge_fetch (.pbkdf2 digest password salt iterations)
    (fun _ => .plain rfl rfl (List.nil_subset _)) (fun _ => rfl) length

theorem keepsCharge_hkdf (digest : String) (material salt info : Bytes) (length : Nat) :
    KeepsCharge kind own charge
      (hkdf (Library.vault kind).services digest material salt info length) :=
  keepsCharge_fetch (.hkdf digest material salt info)
    (fun _ => .plain rfl rfl (List.nil_subset _)) (fun _ => rfl) length

theorem keepsCharge_scrypt (password salt : Bytes) (n r p length : Nat) :
    KeepsCharge kind own charge
      (scrypt (Library.vault kind).services password salt n r p length) :=
  keepsCharge_fetch (.scrypt password salt n r p)
    (fun _ => .plain rfl rfl (List.nil_subset _)) (fun _ => rfl) length

theorem keepsCharge_requireFaults :
    KeepsCharge kind own charge (requireFaults (Library.vault kind).services) := by
  have huses : (Library.vault kind).Uses [] (do
      if ← Act.ofState (Library.vault kind).backend.recorded.faultsAvailable then return ()
      else Act.fail Backend.noFaults : Act (Recorded Session) Unit) := by
    refine .andThen (.ofState .faultsAvailable) fun available => ?_
    split
    · exact .pure _
    · exact .fail _
  refine keepsCharge_minds huses (.andThen .faultsAvailable fun available => ?_)
  split
  · exact .pure _
  · exact .fail nofun

/-- **Clearing a fault**, which is as much as a program does that raises none. -/
theorem keepsCharge_clearFault (flag : FaultFlag) :
    KeepsCharge kind own charge (setFault (Library.vault kind).services flag false) :=
  .andThen keepsCharge_requireFaults fun _ =>
    keepsCharge_minds (.setFault flag false) (.clearFault flag)

theorem keepsCharge_resetFaults :
    KeepsCharge kind own charge (resetFaults (Library.vault kind).services) :=
  .andThen keepsCharge_requireFaults fun _ =>
    keepsCharge_minds (.ofState .resetFaults) .resetFaults

theorem Guard.keepsCharge_clear (guard : Guard) :
    KeepsCharge kind own charge (guard.clear (Library.vault kind).services) := by
  have hask : KeepsCharge kind own charge (ask (Library.vault kind).services
      ((Library.vault kind).backend.recorded.setFault guard.flag false)) :=
    keepsCharge_minds (.setFault guard.flag false) (.clearFault guard.flag)
  intro world
  have hworld := hask world
  unfold clear
  split
  · rename_i heq
    rw [show ask (Library.vault kind).services
      ((Library.vault kind).backend.recorded.setFault guard.flag false) world = _
        from heq] at hworld
    exact ⟨hworld.1, fun hfit h => (hworld.2 hfit h).2⟩
  · exact hworld

/-- **Asking for a sweep** leaves the charge as it is. -/
theorem keepsCharge_sweep : KeepsCharge kind own charge (sweep (Library.vault kind).services) := by
  refine serves_sweep.weaken ?_
  rintro _ world ⟨⟨count, rfl⟩, htrusts⟩
  exact htrusts

end Custody.Held

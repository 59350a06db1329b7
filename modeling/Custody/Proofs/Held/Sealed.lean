import Custody.Proofs.Held.Deeds
import Custody.Proofs.Service.Outcomes
import Custody.Proofs.Vault.Sealing

/-!
# Keys that are held, and what is sealed to them

While a program holds a key, its container keeps the key that is in it: what the daemon does in the
meantime frees contexts and does nothing else to the library (`Session.OnlyFreed`), and the context
of an owner that is held is not among them (`HoldsKey.pause`). So a request for a held key is
answered by a library that has the key and the faults of the moment before (`HoldsKey.asked`),
whatever turns the daemon takes, and what is sealed to a key on one shelf is opened by its private
half on another (`Shelf.sealed_secrets_are_opened`).

The way of a secret through a program is longer than through the library. The length is asked for
first, then the buffer is filled, and in between the daemon may free contexts, so that every request
is made to another library than the one before. The key that is held is the same in all of them, and
so are the faults and the seed that comes next from outside, which is all that the outcome depends
on.
-/

namespace Custody

open Curve Held Vault

/-! ## Contexts that are freed -/

/-- **A session in which some contexts are gone.** The others are as they were, and so are the
faults and what is to come from outside. -/
structure Session.OnlyFreed (session session' : Session) : Prop where
  /-- What is there was there before. -/
  contexts : ∀ address context, session'.vault.contexts.get? address = some context →
    session.vault.contexts.get? address = some context
  /-- The faults are the same. -/
  raised : session'.vault.raised = session.vault.raised
  /-- So is what calls may take. -/
  supply : session'.supply = session.supply

namespace Session.OnlyFreed

theorem refl (session : Session) : session.OnlyFreed session := ⟨fun _ _ h => h, rfl, rfl⟩

theorem trans {first second third : Session} (h : first.OnlyFreed second)
    (h' : second.OnlyFreed third) :
    first.OnlyFreed third :=
  ⟨fun address context hcontext =>
      h.contexts address context (h'.contexts address context hcontext),
    h'.raised.trans h.raised, h'.supply.trans h.supply⟩

/-- A context is freed. -/
theorem disposal (session : Session) (domain : Domain) (handle : Address) :
    session.OnlyFreed (session.submit (domain.disposal handle)).2 := by
  have hanswer := answer_of_ok
    (session.vault.verdict_disposal (session.supply session.calls) domain handle)
  have hvault : (session.submit (domain.disposal handle)).2.vault
      = (session.vault.disposed handle domain).vault := congrArg Prod.snd hanswer
  refine ⟨fun address context h => ?_, ?_, rfl⟩
  · rw [hvault, disposed] at h
    split at h
    · have herased : (session.vault.contexts.erase handle).get? address = some context := h
      rw [Heap.get?_erase] at herased
      split at herased
      · cases herased
      · exact herased
    · exact h
  · rw [hvault, disposed]
    split <;> rfl

end Session.OnlyFreed

namespace Held

variable {α : Type} {kind : BackendKind}

/-- The session under a world. -/
abbrev World.session (world : World (Recorded Session)) : Session := world.native.state

/-- **An action that frees contexts** and does nothing else to the library. -/
def OnlyFrees (act : StateM (World (Recorded Session)) α) : Prop :=
  ∀ world : World (Recorded Session), world.session.OnlyFreed (act world).2.session

theorem onlyFreed_free (entered : List (Entered Domain)) (recorded : Recorded Session) :
    recorded.state.OnlyFreed
      (World.free (Library.vault kind).services entered recorded).2.state := by
  rw [snd_free]
  induction entered generalizing recorded with
  | nil => exact .refl _
  | cons first entered ih =>
    exact (Session.OnlyFreed.disposal recorded.state first.effect first.handle.address).trans
      (ih ((Library.vault kind).after recorded first.disposal))

theorem onlyFrees_custody (step : Registry Domain → α × Registry Domain) :
    OnlyFrees (World.custody (Library.vault kind).services step) := fun _ => onlyFreed_free _ _

/-- **Whatever a daemon does**, it does nothing to the library but free contexts. -/
theorem World.Turned.session_onlyFreed {world world' : World (Recorded Session)}
    (h : World.Turned (Library.vault kind).services world world') :
    world.session.OnlyFreed world'.session := by
  induction h with
  | refl => exact .refl _
  | notice _ ih | gather _ ih | quit _ _ ih | passing _ _ _ ih => exact ih
  | release _ manner entry ih => exact ih.trans (onlyFreed_free _ _)

theorem onlyFrees_pause : OnlyFrees (World.pause (Library.vault kind).services) := fun world =>
  (World.turned_pause world).session_onlyFreed

/-- A request that is made through the services of the vault, after the daemon's turns. -/
abbrev asked (kind : BackendKind) (request : Request) :
    StateM (World (Recorded Session)) Exchange :=
  native (Library.vault kind).services ((Library.vault kind).backend.recorded.exchange request)

theorem ask_number (kind : BackendKind) (request : Request) (world : World (Recorded Session)) :
    ask (Library.vault kind).services ((Library.vault kind).backend.recorded.number request) world
      = ((asked kind request world).1.outcome, (asked kind request world).2) := rfl

/-! ## Keys that are held -/

/-- **A key that is held**: its container is at stake, and the key is in it. -/
structure HoldsKey (kind : BackendKind) (stake : Stake) (spec : KeySpec) (key : KeyMaterial)
    (world : World (Recorded Session)) : Prop where
  /-- The stake stands. -/
  stands : Stands (.vault kind) stake world
  /-- The container is on it. -/
  has : stake.Has spec.owner .keySpec
  /-- The key is in the container. -/
  there : world.session.vault.contexts.get? spec.handle = some (.key (some key))

namespace HoldsKey

variable {stake : Stake} {spec : KeySpec} {key : KeyMaterial} {world : World (Recorded Session)}
  {request : Request} {call : Call}

/-- The container of a key that is held is not freed. -/
theorem of_onlyFreed (h : HoldsKey kind stake spec key world) {world' : World (Recorded Session)}
    (hstands : Stands (.vault kind) stake world')
    (hfreed : world.session.OnlyFreed world'.session) :
    HoldsKey kind stake spec key world' := by
  refine ⟨hstands, h.has, ?_⟩
  obtain ⟨s, hs⟩ := hstands
  have hkind : world'.session.vault.kindAt spec.handle = some .keySpec :=
    hs.there (h.has List.mem_cons_self)
  obtain ⟨context, hcontext, -⟩ := Option.map_eq_some_iff.mp hkind
  rw [hcontext, ← hfreed.contexts _ _ hcontext]
  exact h.there

/-- **The daemon leaves a key that is held alone.** -/
theorem pause (h : HoldsKey kind stake spec key world)
    (hfit : Fit (.vault kind) (World.pause (Library.vault kind).services world).2) :
    HoldsKey kind stake spec key (World.pause (Library.vault kind).services world).2 := by
  have hkeeps : Keeps (.vault kind) stake (World.pause (Library.vault kind).services) := keeps_pause
  exact h.of_onlyFreed ((hkeeps world).2 hfit h.stands) (onlyFrees_pause world)

/-- A request that is granted and leaves the library as it is. -/
theorem exchange_of_granted (hcall : request.call = .ok call) {recorded : Recorded Session}
    {grant : Grant} (hgrant : recorded.state.vault.verdict
      (recorded.state.supply recorded.state.calls) call = .ok grant)
    (hsame : grant.vault = recorded.state.vault) :
    ((Library.vault kind).backend.recorded.exchange request recorded).1
        = ⟨.ok grant.status.toInt.toNat, grant.handle, grant.written⟩
      ∧ recorded.state.OnlyFreed
        ((Library.vault kind).backend.recorded.exchange request recorded).2.state := by
  have hanswer := answer_of_ok hgrant
  have hreply : ((Library.vault kind).backend.recorded.submit call recorded).1
      = ⟨grant.status, grant.handle, grant.written⟩ := congrArg Prod.fst hanswer
  have hvault : ((Library.vault kind).backend.recorded.submit call recorded).2.state.vault
      = recorded.state.vault := (congrArg Prod.snd hanswer).trans hsame
  have hstatus : 0 ≤ ((Library.vault kind).backend.recorded.submit call recorded).1.status :=
    status_nonneg_of_ok hgrant
  rw [Backend.exchange_of_nonneg _ hcall hstatus, hreply]
  exact ⟨rfl, fun _ _ hcontext => hvault ▸ hcontext, congrArg Vault.raised hvault, rfl⟩

/-- **A request for a key that is held** is answered by a library that has the key and the faults of
the moment before, whatever the daemon does. If it is granted and leaves the library as it is, then
the key is still held afterwards. -/
theorem asked (h : HoldsKey kind stake spec key world) (hcall : request.call = .ok call)
    (hmakes : request.makes? = none) (htargets : request.targets = [(spec.handle, .keySpec)])
    (hfit : Fit (.vault kind) (asked kind request world).2) :
    ∃ (vault : Vault) (n : Nat), vault.contexts.get? spec.handle = some (.key (some key))
      ∧ vault.raised = world.session.vault.raised
      ∧ (∀ grant, vault.verdict (world.session.supply n) call = .ok grant → grant.vault = vault →
        (Held.asked kind request world).1
            = ⟨.ok grant.status.toInt.toNat, grant.handle, grant.written⟩
          ∧ HoldsKey kind stake spec key (Held.asked kind request world).2
          ∧ world.session.OnlyFreed (Held.asked kind request world).2.session)
      ∧ ∀ refusal, vault.verdict (world.session.supply n) call = .error refusal →
        ∀ m, (Held.asked kind request world).1.outcome ≠ .ok m := by
  have huses : (Library.vault kind).Uses request.targets
      ((Library.vault kind).backend.recorded.exchange request) := .exchange hmakes
  have hheld : request.targets ⊆ stake.contexts := htargets ▸ h.has
  have hkeeps : Keeps (.vault kind) stake (Held.asked kind request) := keeps_native huses hheld
  have hstands := (hkeeps world).2 hfit h.stands
  -- What the daemon leaves is what the request finds.
  have hfrees : OnlyFrees (World.pause (Library.vault kind).services) := onlyFrees_pause
  have hpaused := hfrees world
  have hgrows : Grows (.vault kind) (World.pause (Library.vault kind).services world).2
      (Held.asked kind request world).2 := ⟨.refl _, (huses _).exists_afterAll⟩
  have hthere := (h.pause (hgrows.fit hfit)).there
  generalize hpause : (World.pause (Library.vault kind).services world).2 = paused at *
  have hasked : Held.asked kind request world
      = (((Library.vault kind).backend.recorded.exchange request paused.native).1,
        { paused with native :=
            ((Library.vault kind).backend.recorded.exchange request paused.native).2 }) := by
    rw [← hpause]
    rfl
  refine ⟨paused.session.vault, paused.session.calls, hthere, hpaused.raised, ?_, ?_⟩
  · intro grant hgrant hsame
    rw [← hpaused.supply] at hgrant
    obtain ⟨hresult, hfreed⟩ := exchange_of_granted hcall hgrant hsame
    rw [hasked] at hstands ⊢
    exact ⟨hresult, h.of_onlyFreed hstands (hpaused.trans hfreed), hpaused.trans hfreed⟩
  · intro refusal hrefused m houtcome
    rw [← hpaused.supply] at hrefused
    rw [hasked] at houtcome
    obtain ⟨call', hcall', hstatus, -⟩ := Backend.exchange_of_outcome _ houtcome
    obtain rfl : call' = call := Except.ok.inj (hcall'.symm.trans hcall)
    have hreply : ((Library.vault kind).backend.recorded.submit call' paused.native).1.status
        = refusal.code.status := status_of_error hrefused
    rw [hreply] at hstatus
    exact absurd hstatus (Int32.not_le.mpr (status_neg refusal.code))

/-! ## Sealing and opening with a key that is held -/

variable {half : Key32} {secret : Bytes}

/-- The length of a secret is asked for. -/
theorem asked_secretLength (h : HoldsKey kind stake spec key world) (htype : key.type = .x25519)
    (hfit : Fit (.vault kind) (Held.asked kind (.secretLength spec.handle) world).2) :
    (Held.asked kind (.secretLength spec.handle) world).1.outcome = .ok 32
      ∧ HoldsKey kind stake spec key (Held.asked kind (.secretLength spec.handle) world).2
      ∧ world.session.OnlyFreed (Held.asked kind (.secretLength spec.handle) world).2.session := by
  obtain ⟨vault, n, hthere, -, hgranted, -⟩ := h.asked rfl rfl rfl hfit
  obtain ⟨hresult, hholds, hfreed⟩ := hgranted _ (reportSecretLength_eq_ok hthere htype) rfl
  exact ⟨congrArg Exchange.outcome hresult, hholds, hfreed⟩

/-- The length of a ciphertext with its secret is asked for. -/
theorem asked_encapsulatedLength (h : HoldsKey kind stake spec key world)
    (htype : key.type = .x25519)
    (hfit : Fit (.vault kind) (Held.asked kind (.encapsulatedLength spec.handle) world).2)
    {total : Nat}
    (hok : (Held.asked kind (.encapsulatedLength spec.handle) world).1.outcome = .ok total) :
    total = 64
      ∧ HoldsKey kind stake spec key (Held.asked kind (.encapsulatedLength spec.handle) world).2
      ∧ world.session.OnlyFreed
          (Held.asked kind (.encapsulatedLength spec.handle) world).2.session := by
  obtain ⟨vault, n, hthere, -, hgranted, hrefused⟩ := h.asked rfl rfl rfl hfit
  cases hverdict :
      (Vault.encapsulate (world.session.supply n).seed spec.handle none).on vault with
  | error refusal => exact absurd hok (hrefused refusal hverdict total)
  | ok grant =>
    obtain ⟨-, rfl⟩ := (encapsulate_none_eq_ok_iff hthere htype).mp hverdict
    obtain ⟨hresult, hholds, hfreed⟩ := hgranted _ hverdict rfl
    exact ⟨Except.ok.inj (hok.symm.trans (congrArg Exchange.outcome hresult)), hholds, hfreed⟩

/-- A secret is sealed in a buffer that has room for it and for the ciphertext. -/
theorem asked_encapsulate (h : HoldsKey kind stake spec key world) (htype : key.type = .x25519)
    (hfit : Fit (.vault kind) (Held.asked kind (.encapsulate spec.handle 64) world).2) {n : Nat}
    (hok : (Held.asked kind (.encapsulate spec.handle 64) world).1.outcome = .ok n) :
    ∃ m seed, (world.session.supply m).seed = some seed ∧ ∃ secret, sealed? seed key = some secret
      ∧ (Held.asked kind (.encapsulate spec.handle 64) world).1.written
        = (X25519.publicKey seed).bytes ++ secret := by
  have hcall : Request.call (.encapsulate spec.handle 64)
      = .ok (.encapsulate spec.handle (some ⟨64, 0, 64⟩)) := rfl
  obtain ⟨vault, m, hthere, -, hgranted, hrefused⟩ := h.asked hcall rfl rfl hfit
  cases hverdict : (Vault.encapsulate (world.session.supply m).seed spec.handle
      (some ⟨64, 0, 64⟩)).on vault with
  | error refusal => exact absurd hok (hrefused refusal hverdict n)
  | ok grant =>
    obtain ⟨-, -, seed, hseed, secret, hsecret, rfl⟩ :=
      (encapsulate_some_eq_ok_iff hthere htype).mp hverdict
    obtain ⟨hresult, -, -⟩ := hgranted _ hverdict rfl
    exact ⟨m, seed, hseed, secret, hsecret, congrArg Exchange.written hresult⟩

/-- The call of a request to open a ciphertext. -/
theorem call_decapsulate (handle : Address) (ciphertext : Key32) :
    Request.call (.decapsulate handle ciphertext.bytes 32)
      = .ok (.decapsulate handle (some ⟨ciphertext.bytes, 0, 32⟩) (some ⟨32, 0, 32⟩)) := by
  rw [Request.call, Request.wholeArgument, ciphertext.length_eq]
  rfl

/-- A ciphertext is opened into a buffer that has room for the secret. -/
theorem asked_decapsulate (h : HoldsKey kind stake spec key world) (htype : key.type = .x25519)
    (hhalf : key.privateHalf = some half)
    (hinput : world.session.vault.raised .failedAccess1 = false)
    (houtput : world.session.vault.raised .failedAccess2 = false) {ciphertext : Key32}
    (hsecret : opened? half key ciphertext = some secret)
    (hfit : Fit (.vault kind)
      (Held.asked kind (.decapsulate spec.handle ciphertext.bytes 32) world).2) :
    (Held.asked kind (.decapsulate spec.handle ciphertext.bytes 32) world).1.outcome = .ok 32
      ∧ (Held.asked kind (.decapsulate spec.handle ciphertext.bytes 32) world).1.written
        = secret := by
  obtain ⟨vault, n, hthere, hraised, hgranted, -⟩ :=
    h.asked (call_decapsulate spec.handle ciphertext) rfl rfl hfit
  have hrange : InputWindow.InRange ⟨ciphertext.bytes, 0, 32⟩ :=
    ⟨Int32.le_refl 0, show (0 : Int32) ≤ 32 by decide,
      Nat.le_of_eq ciphertext.length_eq.symm⟩
  have hdata : InputWindow.addressed ⟨ciphertext.bytes, 0, 32⟩ = ciphertext.bytes :=
    List.take_of_length_le (Nat.le_of_eq ciphertext.length_eq)
  have hadmits : vault.admits secretLength (some ⟨32, 0, 32⟩) = .ok true := by
    refine admits_some_iff.mpr ⟨by decide, ?_, by decide, rfl⟩
    rw [hraised, houtput]
  have hgrant := decapsulate_eq_ok hthere htype hhalf hrange hdata (hraised ▸ hinput) hadmits
    hsecret
  obtain ⟨hresult, -, -⟩ := hgranted _ hgrant rfl
  have hlength : secret.length = 32 := length_of_kemSecret? hsecret
  rw [hresult, Vault.deliver, hlength]
  exact ⟨rfl, rfl⟩

/-! ## A whole operation -/

/-- What is asked of the world at the end of an operation holds after its first part. -/
theorem fit_of_andThen {β : Type} {act : Work (Recorded Session) α}
    {rest : α → Work (Recorded Session) β} (hrest : ∀ a, Keeps (.vault kind) stake (rest a))
    (hfit : Fit (.vault kind) ((act >>= rest : Work (Recorded Session) β) world).2) :
    Fit (.vault kind) (act world).2 := by
  cases hact : (act world).1 with
  | ok a =>
    rw [Act.bind_of_ok (Prod.ext hact rfl)] at hfit
    exact (hrest a (act world).2).1.fit hfit
  | error abort =>
    rwa [Act.bind_of_error (Prod.ext hact rfl)] at hfit

/-- The last part of sealing, when the lengths are known. -/
def sealing (kind : BackendKind) (spec : KeySpec) (total secret : Nat) :
    Work (Recorded Session) Encapsulated :=
  if total < secret then .fail (KeySpec.lengthMismatch total secret)
  else do
    let (result, both) ← Act.ofState (native (Library.vault kind).services
      ((Library.vault kind).backend.recorded.fill (.encapsulate spec.handle) (Bytes.zeros total)))
    let _ ← Act.ofExcept result
    return ⟨both.take (total - secret), both.drop (total - secret)⟩

theorem encapsulate_eq (kind : BackendKind) (spec : KeySpec) :
    spec.encapsulate (Library.vault kind).services = (do
      let total ← ask (Library.vault kind).services
        ((Library.vault kind).backend.recorded.number (.encapsulatedLength spec.handle))
      let secret ← ask (Library.vault kind).services
        ((Library.vault kind).backend.recorded.number (.secretLength spec.handle))
      sealing kind spec total secret) := rfl

theorem keeps_sealing (hhas : stake.Has spec.owner .keySpec) (total secret : Nat) :
    Keeps (.vault kind) stake (sealing kind spec total secret) := by
  unfold sealing
  split
  · exact keeps_ofExcept _
  · have hfill : (Library.vault kind).Uses
        (Request.encapsulate spec.handle (Bytes.zeros total).length).targets
        ((Library.vault kind).backend.recorded.fill (.encapsulate spec.handle)
          (Bytes.zeros total)) := .fill rfl
    exact .andThen (.ofState (keeps_native hfill hhas)) fun _ =>
      .andThen (keeps_ofExcept _) fun _ => keeps_ofExcept _

/-- A buffer that is filled from end to end. -/
theorem patch_zeros {n : Nat} {stored : Bytes} (h : stored.length = n) :
    (Bytes.zeros n).patch 0 stored = stored := by
  simp [Bytes.patch, Bytes.zeros, h, List.take_of_length_le]

/-- Sealing into a buffer for both parts. -/
theorem sealing_eq (world : World (Recorded Session)) : sealing kind spec 64 32 world
    = ((Held.asked kind (.encapsulate spec.handle 64) world).1.outcome.map fun _ =>
        ⟨((Bytes.zeros 64).patch 0
            (Held.asked kind (.encapsulate spec.handle 64) world).1.written).take 32,
          ((Bytes.zeros 64).patch 0
            (Held.asked kind (.encapsulate spec.handle 64) world).1.written).drop 32⟩,
        (Held.asked kind (.encapsulate spec.handle 64) world).2) := by
  have hfilled : Act.ofState (native (Library.vault kind).services
      ((Library.vault kind).backend.recorded.fill (.encapsulate spec.handle) (Bytes.zeros 64)))
        world
        = (.ok ((Held.asked kind (.encapsulate spec.handle 64) world).1.outcome,
          (Bytes.zeros 64).patch 0
            (Held.asked kind (.encapsulate spec.handle 64) world).1.written),
          (Held.asked kind (.encapsulate spec.handle 64) world).2) := rfl
  rw [sealing, if_neg (by decide), Act.bind_of_ok hfilled]
  cases (Held.asked kind (.encapsulate spec.handle 64) world).1.outcome with
  | ok n => rfl
  | error abort => rfl

theorem keeps_secretLength (hhas : stake.Has spec.owner .keySpec) :
    Keeps (.vault kind) stake (ask (Library.vault kind).services
      ((Library.vault kind).backend.recorded.number (.secretLength spec.handle))) :=
  keeps_number rfl hhas

/-- Sealing, when the length of both parts is known. -/
theorem encapsulate_of_length (h : HoldsKey kind stake spec key world) (htype : key.type = .x25519)
    {act : Work (Recorded Session) Encapsulated}
    (hact : act = (do
      let secret ← ask (Library.vault kind).services
        ((Library.vault kind).backend.recorded.number (.secretLength spec.handle))
      sealing kind spec 64 secret))
    (hfit : Fit (.vault kind) (act world).2) {both : Encapsulated}
    (hok : (act world).1 = .ok both) :
    ∃ n seed, (world.session.supply n).seed = some seed ∧ ∃ secret, sealed? seed key = some secret
      ∧ both = ⟨(X25519.publicKey seed).bytes, secret⟩ := by
  subst hact
  have hfirst := fit_of_andThen (keeps_sealing h.has 64) hfit
  obtain ⟨hlength, hholds, hfreed⟩ := h.asked_secretLength htype hfirst
  have hasked := ask_number kind (.secretLength spec.handle) world
  rw [hlength] at hasked
  rw [Act.bind_of_ok hasked, sealing_eq] at hok hfit
  generalize (Held.asked kind (.secretLength spec.handle) world).2 = world'
    at hok hfit hholds hfreed
  cases houtcome : (Held.asked kind (.encapsulate spec.handle 64) world').1.outcome with
  | error abort =>
    rw [houtcome] at hok
    cases hok
  | ok n =>
    obtain ⟨m, seed, hseed, secret, hsecret, hwritten⟩ :=
      hholds.asked_encapsulate htype hfit houtcome
    rw [hfreed.supply] at hseed
    have hlength : ((X25519.publicKey seed).bytes ++ secret).length = 64 := by
      rw [List.length_append, Key32.length_eq, length_of_sealed? hsecret]
      rfl
    rw [houtcome, hwritten, patch_zeros hlength] at hok
    refine ⟨m, seed, hseed, secret, hsecret, (Except.ok.inj hok).symm.trans ?_⟩
    rw [List.take_left' (Key32.length_eq _), List.drop_left' (Key32.length_eq _)]

/-- **What is sealed with a key that is held**: the ciphertext of a seed that was drawn, and the
secret that it seals. -/
theorem encapsulate (h : HoldsKey kind stake spec key world) (htype : key.type = .x25519)
    (hfit : Fit (.vault kind) (spec.encapsulate (Library.vault kind).services world).2)
    {both : Encapsulated}
    (hok : (spec.encapsulate (Library.vault kind).services world).1 = .ok both) :
    ∃ n seed, (world.session.supply n).seed = some seed ∧ ∃ secret, sealed? seed key = some secret
      ∧ both = ⟨(X25519.publicKey seed).bytes, secret⟩ := by
  rw [encapsulate_eq] at hok hfit
  -- What follows the first length keeps the stake, so that the world in between is fit as well.
  obtain ⟨total, htotal, hrest⟩ := Act.exists_of_bind_ok hok
  have hfirst := fit_of_andThen
    (fun total => .andThen (keeps_secretLength h.has) (keeps_sealing h.has total)) hfit
  rw [hrest] at hok hfit
  obtain ⟨rfl, hholds, hfreed⟩ := h.asked_encapsulatedLength htype hfirst htotal
  obtain ⟨n, seed, hseed, hsealed⟩ := hholds.encapsulate_of_length htype rfl hfit hok
  rw [hfreed.supply] at hseed
  exact ⟨n, seed, hseed, hsealed⟩

/-- Asking for bytes into a buffer of a length. -/
theorem fetch_eq (kind : BackendKind) (request : Nat → Request) (length : Nat)
    (world : World (Recorded Session)) :
    fetch (Library.vault kind).services (Library.vault kind).backend.recorded request length world
      = ((Held.asked kind (request length) world).1.outcome.map fun written =>
          ((Bytes.zeros length).patch 0
            (Held.asked kind (request length) world).1.written).take written,
        (Held.asked kind (request length) world).2) := by
  have hfilled : Act.ofState (native (Library.vault kind).services
      ((Library.vault kind).backend.recorded.fill request (Bytes.zeros length))) world
        = (.ok ((Held.asked kind (request (Bytes.zeros length).length) world).1.outcome,
          (Bytes.zeros length).patch 0
            (Held.asked kind (request (Bytes.zeros length).length) world).1.written),
          (Held.asked kind (request (Bytes.zeros length).length) world).2) := rfl
  rw [Bytes.length_zeros] at hfilled
  rw [fetch]
  refine (Act.bind_of_ok hfilled).trans ?_
  cases (Held.asked kind (request length) world).1.outcome with
  | ok n => rfl
  | error abort => rfl

/-- **A ciphertext is opened** with a key that is held and has the private half. -/
theorem decapsulate (h : HoldsKey kind stake spec key world) (htype : key.type = .x25519)
    (hhalf : key.privateHalf = some half)
    (hinput : world.session.vault.raised .failedAccess1 = false)
    (houtput : world.session.vault.raised .failedAccess2 = false) {ciphertext : Key32}
    (hsecret : opened? half key ciphertext = some secret)
    (hfit : Fit (.vault kind)
      (spec.decapsulate (Library.vault kind).services ciphertext.bytes world).2) :
    (spec.decapsulate (Library.vault kind).services ciphertext.bytes world).1 = .ok secret := by
  have hfetch : ∀ length, Keeps (.vault kind) stake (fetch (Library.vault kind).services
      (Library.vault kind).backend.recorded (.decapsulate spec.handle ciphertext.bytes) length) :=
    keeps_fetch (.decapsulate spec.handle ciphertext.bytes) (fun _ => rfl) fun _ => h.has
  obtain ⟨hlength, hholds, hfreed⟩ := h.asked_secretLength htype (fit_of_andThen hfetch hfit)
  have hasked := ask_number kind (.secretLength spec.handle) world
  rw [hlength] at hasked
  have hrest : spec.decapsulate (Library.vault kind).services ciphertext.bytes world
      = fetch (Library.vault kind).services (Library.vault kind).backend.recorded
        (.decapsulate spec.handle ciphertext.bytes) 32
        (Held.asked kind (.secretLength spec.handle) world).2 := Act.bind_of_ok hasked
  rw [hrest, fetch_eq] at hfit ⊢
  obtain ⟨houtcome, hwritten⟩ := hholds.asked_decapsulate htype hhalf (hfreed.raised ▸ hinput)
    (hfreed.raised ▸ houtput) hsecret hfit
  have hlength : secret.length = 32 := length_of_kemSecret? hsecret
  rw [houtcome, hwritten, patch_zeros hlength]
  exact congrArg Except.ok (List.take_of_length_le (Nat.le_of_eq hlength))

end HoldsKey

/-! ## Sessions that are reached -/

/-- Calls that are recorded are calls of the vault under the record. -/
theorem vault_afterAll (kind : BackendKind) (recorded : Recorded Session) (calls : List Call) :
    (∃ supplied, ((Library.vault kind).afterAll recorded calls).state.vault
        = recorded.state.vault.after supplied)
      ∧ ((Library.vault kind).afterAll recorded calls).state.supply = recorded.state.supply := by
  induction calls generalizing recorded with
  | nil => exact ⟨⟨[], rfl⟩, rfl⟩
  | cons call calls ih =>
    obtain ⟨⟨supplied, hvault⟩, hsupply⟩ := ih ((Library.vault kind).after recorded call)
    exact ⟨⟨(recorded.state.supply recorded.state.calls, call) :: supplied, hvault⟩, hsupply⟩

namespace Shelf

/-- **A shelf that a program can come to**, from an empty shelf over a library that has just been
started. -/
def Reached (kind : BackendKind) (supply : Nat → Supply) (shelf : Shelf (Recorded Session)) :
    Prop :=
  ∃ settings turns deeds world, World.start settings ⟨.start supply, []⟩ turns = .ok world
    ∧ after (Library.vault kind).services ⟨world, []⟩ deeds = shelf

/-- **A key on a shelf**, with what is in its container. -/
structure HasKey (shelf : Shelf (Recorded Session)) (name : String) (spec : KeySpec)
    (key : KeyMaterial) : Prop where
  /-- It is on the shelf. -/
  lookup : shelf.items.lookup name = some (.key spec)
  /-- The key is in its container. -/
  there : shelf.world.session.vault.contexts.get? spec.handle = some (.key (some key))

variable {kind : BackendKind} {supply : Nat → Supply} {shelf : Shelf (Recorded Session)}
  {name : String} {spec : KeySpec} {key : KeyMaterial}

/-- The library under a shelf that is reached is one after some calls. -/
theorem Reached.vault (h : Reached kind supply shelf) :
    (∃ calls, shelf.world.session.vault = Vault.empty.after calls)
      ∧ shelf.world.session.supply = supply := by
  obtain ⟨settings, turns, deeds, world, hstart, rfl⟩ := h
  have hgrows : Grows (.vault kind) world
      (after (Library.vault kind).services ⟨world, []⟩ deeds).world := grows_after deeds ⟨world, []⟩
  obtain ⟨calls, hcalls⟩ := hgrows.calls
  rw [← World.eq_of_start hstart] at hcalls ⊢
  rw [World.session, hcalls]
  exact vault_afterAll kind ⟨.start supply, []⟩ calls

/-- The halves of the keys under a shelf that is reached belong together. -/
theorem Reached.consistent (h : Reached kind supply shelf) (hkey : HasKey shelf name spec key) :
    key.Consistent := by
  obtain ⟨⟨calls, hvault⟩, -⟩ := h.vault
  exact consistent_after (hvault ▸ hkey.there)

/-- A key on a shelf that is reached is held. -/
theorem Reached.holdsKey (h : Reached kind supply shelf) (hfit : Fit (.vault kind) shelf.world)
    (hkey : HasKey shelf name spec key) :
    HoldsKey kind (stakeOf (holdings shelf.items)) spec key shelf.world := by
  obtain ⟨settings, turns, deeds, world, hstart, rfl⟩ := h
  have hempty : Stocked (.vault kind) [] ⟨world, []⟩ := stocked_start hstart fun _ => rfl
  have hheld : (spec.owner, Domain.keySpec) ∈ holdings
      (after (Library.vault kind).services ⟨world, []⟩ deeds).items :=
    List.mem_filterMap.mpr ⟨_, mem_of_lookup hkey.lookup, rfl⟩
  refine ⟨(stocked_after hempty hfit).stands, ?_, hkey.there⟩
  exact List.cons_subset.mpr ⟨List.mem_map.mpr ⟨_, hheld, rfl⟩, List.nil_subset _⟩

/-- What is done with a key on a shelf. -/
theorem run_onKey {α : Type} (hlookup : shelf.items.lookup name = some (.key spec))
    (body : KeySpec → Work (Recorded Session) α) (answer : α → Answer) :
    (do return answer (← work (body (← Shelf.key name))) : Step (Recorded Session) Answer) shelf
      = (((body spec shelf.world).1.mapError Setback.aborted).map answer,
        { shelf with world := (body spec shelf.world).2 }) := by
  have hitem : item name shelf = (.ok (.key spec), shelf) := by
    rw [item, hlookup]
  have hkey : Shelf.key name shelf = (.ok spec, shelf) := Act.bind_of_ok hitem
  have hwork : work (body spec) shelf = ((body spec shelf.world).1.mapError Setback.aborted,
      { shelf with world := (body spec shelf.world).2 }) := rfl
  rw [Act.bind_of_ok hkey]
  cases hresult : (body spec shelf.world).1 with
  | ok a => exact Act.bind_of_ok (hwork.trans (by rw [hresult]; rfl))
  | error abort => exact Act.bind_of_error (hwork.trans (by rw [hresult]; rfl))

/-- **Sealed secrets are opened.** Wherever a secret is sealed to a key for agreement, a key with
the same public half and a private half opens it, provided that the seed that was drawn and the
private half agree with each other:

* in the library, where one container seals into a window and reports success, it reports 64 and
  writes the ciphertext and the secret, of 32 bytes each; another, after whatever calls, opens the
  ciphertext from every window that addresses it, into every window that has room for the secret, if
  no fault keeps it from the windows;
* in a program, where one shelf seals a secret, another, after whatever operations and turns of the
  daemon, opens the ciphertext to the same secret. -/
theorem sealed_secrets_are_opened :
    (∀ (calls calls' : List (Supply × Call)) (supply : Supply) (handle handle' : Address)
        (w : OutputWindow) (peer key : KeyMaterial) (half : Key32),
      let sender := Vault.empty.after calls
      let recipient := Vault.empty.after calls'
      let reply := (sender.answer supply (.encapsulate handle (some w))).1
      sender.contexts.get? handle = some (.key (some peer)) →
      recipient.contexts.get? handle' = some (.key (some key)) →
      key.Opens half peer → (∀ seed, supply.seed = some seed → Agree seed half) →
      0 ≤ reply.status →
      reply.status = 64 ∧ ∃ ciphertext secret : Bytes, ciphertext.length = 32 ∧ secret.length = 32
        ∧ Delivered w (ciphertext ++ secret) reply
        ∧ (recipient.raised .failedAccess1 = false → recipient.raised .failedAccess2 = false →
          recipient.OpensTo handle' ciphertext secret))
    ∧ ∀ (kind kind' : BackendKind) (supply supply' : Nat → Supply)
        (shelf shelf' : Shelf (Recorded Session)) (name name' : String) (spec spec' : KeySpec)
        (peer key : KeyMaterial) (half : Key32) (both : Encapsulated),
      let sealing := run (Library.vault kind).services (.encapsulate name) shelf
      let opening := run (Library.vault kind').services (.decapsulate name' both.ciphertext) shelf'
      Reached kind supply shelf → Reached kind' supply' shelf' →
      HasKey shelf name spec peer → HasKey shelf' name' spec' key →
      key.Opens half peer → (∀ n seed, (supply n).seed = some seed → Agree seed half) →
      shelf'.world.session.vault.raised .failedAccess1 = false →
      shelf'.world.session.vault.raised .failedAccess2 = false →
      Fit (.vault kind) sealing.2.world → Fit (.vault kind') opening.2.world →
      sealing.1 = .ok (.sealed both) → opening.1 = .ok (.bytes both.secret) := by
  constructor
  · -- What the sender derives is what the recipient would, since the two sides agree.
    intro calls calls' supply handle handle' w peer key half sender recipient reply hpeer hkey
      hopens hagree hstatus
    obtain ⟨hreport, seed, hseed, secret, hsecret, hdelivered⟩ :=
      delivered_of_encapsulate hpeer hopens.peerType hstatus
    have hconsistent : key.Consistent := consistent_after hkey
    rw [← opened?_eq_sealed? hopens hconsistent (hagree seed hseed)] at hsecret
    exact ⟨hreport, _, secret, Key32.length_eq _, length_of_kemSecret? hsecret, hdelivered,
      fun hinput houtput =>
        opensTo_of_opened? hkey hopens.type hopens.privateHalf hinput houtput hsecret⟩
  · -- The keys are held, so that each request finds its own whatever the daemon does meanwhile.
    intro kind kind' supply supply' shelf shelf' name name' spec spec' peer key half both sealing
      opening hshelf hshelf' hpeer hkey hopens hagree hinput houtput hfit hfit' hsealed
    have hgrows : Grows (.vault kind) shelf.world sealing.2.world := (LeadsStocked.run _ shelf).1
    have hgrows' : Grows (.vault kind') shelf'.world opening.2.world :=
      (LeadsStocked.run _ shelf').1
    have hholds := hshelf.holdsKey (hgrows.fit hfit) hpeer
    have hholds' := hshelf'.holdsKey (hgrows'.fit hfit') hkey
    have hrun : sealing = _ := run_onKey hpeer.lookup
      (fun key => key.encapsulate (Library.vault kind).services) Answer.sealed
    have hrun' : opening = _ := run_onKey hkey.lookup
      (fun key => key.decapsulate (Library.vault kind').services both.ciphertext) Answer.bytes
    rw [hrun] at hfit hsealed
    rw [hrun'] at hfit' ⊢
    cases hresult : (spec.encapsulate (Library.vault kind).services shelf.world).1 with
    | error abort =>
      rw [hresult] at hsealed
      cases hsealed
    | ok result =>
      rw [hresult] at hsealed
      obtain rfl : result = both := Answer.sealed.inj (Except.ok.inj hsealed)
      obtain ⟨n, seed, hseed, secret, hsecret, rfl⟩ :=
        hholds.encapsulate hopens.peerType hfit hresult
      rw [hshelf.vault.2] at hseed
      rw [← opened?_eq_sealed? hopens (hshelf'.consistent hkey) (hagree n seed hseed)] at hsecret
      have hopened :=
        hholds'.decapsulate hopens.type hopens.privateHalf hinput houtput hsecret hfit'
      exact congrArg (fun result => (result.mapError Setback.aborted).map Answer.bytes) hopened

/-- Calls that put a private key for agreement into one container, and its public half into
another. -/
def examplePair : List (Supply × Call) :=
  [(supplyOf 1, .keyAllocate true),
    (supplyOf 1, .keyDecodePrivate 1 2 (some ⟨(Key32.ofNat 5).bytes, 0, 32⟩)),
    (supplyOf 2, .keyAllocate true),
    (supplyOf 2, .keyDecodePublic 2 2 (some ⟨(X25519.publicKey (.ofNat 5)).bytes, 0, 32⟩))]

/-- The same in a program. -/
def examplePairing : List Deed :=
  [.run (.keyDecode "recipient" .privateHalf .x25519 (Key32.ofNat 5).bytes),
    .run (.keyDecode "sender" .publicHalf .x25519 (X25519.publicKey (.ofNat 5)).bytes)]

/-- Its world in the beginning. The daemon sweeps while the first key is made. -/
def examplePairingWorld : World (Recorded Session) :=
  ⟨⟨.start fun n => supplyOf (UInt64.ofNat n + 1), []⟩, .empty, [], [[], [.sweep]]⟩

/-- Its shelf. -/
def exampleSender : Shelf (Recorded Session) :=
  after (Library.vault .dispatch).services ⟨examplePairingWorld, []⟩ examplePairing

/-- What it then seals. -/
def exampleSealed : Encapsulated :=
  match (run (Library.vault .dispatch).services (.encapsulate "sender") exampleSender).1 with
  | .ok (.sealed both) => both
  | _ => ⟨[], []⟩

/-- Its shelf when the key that was sealed to is gone. -/
def exampleRecipient : Shelf (Recorded Session) :=
  after (Library.vault .dispatch).services ⟨examplePairingWorld, []⟩
    (examplePairing ++ [.run (.encapsulate "sender"), .run (.drop "sender"), .settle])

theorem run_exampleSender :
    (run (Library.vault .dispatch).services (.encapsulate "sender") exampleSender).1
      = .ok (.sealed exampleSealed) := by
  have hlength : exampleSealed.secret.length = 32 := by decide +kernel
  unfold exampleSealed at hlength ⊢
  split at hlength
  · rename_i both h
    simp only [h]
  · cases hlength

/-- Whether a key is on a shelf, and what is in its container. -/
def shows (shelf : Shelf (Recorded Session)) (name : String) (key : KeyMaterial) : Bool :=
  match shelf.items.lookup name with
  | some (.key spec) => shelf.world.session.vault.contexts.get? spec.handle = some (.key (some key))
  | _ => false

theorem exists_hasKey {shelf : Shelf (Recorded Session)} {name : String} {key : KeyMaterial}
    (h : shows shelf name key = true) : ∃ spec, HasKey shelf name spec key := by
  unfold shows at h
  split at h
  · rename_i spec hlookup
    exact ⟨spec, hlookup, of_decide_eq_true h⟩
  · cases h

/-- What is sealed to the public half is opened by the key pair, in the library and in the
program. -/
theorem sealed_secrets_are_opened_examplePair :
    ((Vault.empty.after examplePair).answer (supplyOf 3)
        (.encapsulate 2 (some ⟨80, 8, 64⟩))).1.status = 64
    ∧ (∃ ciphertext secret : Bytes, secret.length = 32
      ∧ (Vault.empty.after examplePair).OpensTo 1 ciphertext secret)
    ∧ (run (Library.vault .dispatch).services (.decapsulate "recipient" exampleSealed.ciphertext)
      exampleRecipient).1 = .ok (.bytes exampleSealed.secret) := by
  obtain ⟨hlibrary, hprogram⟩ := sealed_secrets_are_opened
  have hopens : (KeyMaterial.ofPrivate .x25519 (.ofNat 5)).Opens (.ofNat 5)
      (.ofPublic .x25519 (X25519.publicKey (.ofNat 5))) := ⟨rfl, rfl, rfl, rfl⟩
  have hagreed : X25519.agree (.ofNat 0) (X25519.publicKey (.ofNat 5))
      = X25519.agree (.ofNat 5) (X25519.publicKey (.ofNat 0)) := by decide +kernel
  have hagree (address : Address) :
      ∀ seed, (supplyOf address).seed = some seed → Agree seed (.ofNat 5) := by
    rintro _ ⟨⟩
    exact hagreed
  obtain ⟨hstatus, ciphertext, secret, -, hlength, -, hopened⟩ := hlibrary examplePair examplePair
    (supplyOf 3) 2 1 ⟨80, 8, 64⟩ _ _ _ (by decide +kernel) (by decide +kernel) hopens (hagree 3)
    (by decide +kernel)
  refine ⟨hstatus,
    ⟨ciphertext, secret, hlength, hopened (by decide +kernel) (by decide +kernel)⟩, ?_⟩
  have hstart : World.start .default ⟨.start fun n => supplyOf (UInt64.ofNat n + 1), []⟩
      [[], [.sweep]] = .ok examplePairingWorld := rfl
  have hreached : Reached .dispatch (fun n => supplyOf (UInt64.ofNat n + 1)) exampleSender :=
    ⟨.default, _, examplePairing, examplePairingWorld, hstart, rfl⟩
  have hreached' : Reached .dispatch (fun n => supplyOf (UInt64.ofNat n + 1)) exampleRecipient :=
    ⟨.default, _, _, examplePairingWorld, hstart, rfl⟩
  obtain ⟨spec, hsender⟩ := exists_hasKey
    (show shows exampleSender "sender" (.ofPublic .x25519 (X25519.publicKey (.ofNat 5))) = true by
      decide +kernel)
  obtain ⟨spec', hrecipient⟩ := exists_hasKey
    (show shows exampleRecipient "recipient" (.ofPrivate .x25519 (.ofNat 5)) = true by
      decide +kernel)
  have hfit : Fit (.vault .dispatch)
      (run (Library.vault .dispatch).services (.encapsulate "sender") exampleSender).2.world :=
    ⟨by decide +kernel, by decide +kernel⟩
  have hfit' : Fit (.vault .dispatch) (run (Library.vault .dispatch).services
      (.decapsulate "recipient" exampleSealed.ciphertext) exampleRecipient).2.world :=
    ⟨by decide +kernel, by decide +kernel⟩
  exact hprogram .dispatch .dispatch _ _ exampleSender exampleRecipient _ _ spec spec' _ _ _ _
    hreached hreached' hsender hrecipient hopens (fun _ => hagree _) (by decide +kernel)
    (by decide +kernel) hfit hfit' run_exampleSender

end Shelf

end Held

end Custody

import Custody.Held.Digest
import Custody.Held.Signature
import Custody.Proofs.Held.Deeds
import Custody.Proofs.Held.LeakFree

/-!
# Calls that make contexts

The calls of the program that make a context and hand out its owner (`Construction`), and the one
that makes a digest for its own use (`Digest.once`). None of them loses a context, in any calm world
and with any library behind it (`constructors_lose_nothing`).

Each constructor allocates a context, takes it into ownership and then goes on in its own way: a
digest is ready, a key is generated or decoded, a signer or a verifier is prepared with a key. It
stumbles where the library reports a negative status on the rest of that way. What then becomes of
the context does not depend on the status, and is proved once for all constructors
(`leakFree_of_fares`); what differs is the list of requests on which a constructor may stumble. The
library is a parameter here and may reply whatever it likes, at any moment: no reply of it is ruled
out by a hypothesis.
-/

namespace Custody.Held

variable {σ : Type} {backend : Backend σ} {world world' : World (Recorded σ)} {owner : Owner}

/-! ## Replies -/

section Replies

variable {request : Request} {native after : Recorded σ} {reply : Reply}

theorem exchange_of_replies (h : Replies backend request native reply after)
    (hstatus : 0 ≤ reply.status) : backend.recorded.exchange request native
      = (⟨.ok reply.status.toInt.toNat, reply.handle, reply.written⟩, after) := by
  obtain ⟨call, hcall, hsubmit⟩ := h
  have hreply : (backend.recorded.submit call native).1 = reply := congrArg Prod.fst hsubmit
  rw [backend.recorded.exchange_of_nonneg hcall (hreply ▸ hstatus), hsubmit]

/-- A request whose reply has a negative status is ended by that. -/
theorem endsOn_exchange (h : Replies backend request native reply after)
    (hstatus : reply.status < 0) : ∃ abort,
      (backend.recorded.exchange request native).1.outcome = .error abort
        ∧ EndsOn reply.status abort := by
  obtain ⟨call, hcall, hsubmit⟩ := h
  have hreply : (backend.recorded.submit call native).1 = reply := congrArg Prod.fst hsubmit
  rw [backend.recorded.exchange_of_neg hcall (hreply ▸ hstatus), hreply]
  exact ⟨_, rfl, request, _, rfl⟩

theorem ask_perform_of_replies (h : world.Calm)
    (hreplies : Replies backend request world.native reply after) (hstatus : 0 ≤ reply.status) :
    ask (.ofBackend backend.recorded) (backend.recorded.perform request) world
      = (.ok (), { world.next with native := after }) := by
  rw [ask_of_calm h, backend.recorded.perform_eq, exchange_of_replies hreplies hstatus]
  rfl

theorem endsOn_perform (h : world.Calm)
    (hreplies : Replies backend request world.native reply after)
    (hstatus : reply.status < 0) : ∃ abort last,
      ask (.ofBackend backend.recorded) (backend.recorded.perform request) world
        = (.error abort, last) ∧ EndsOn reply.status abort := by
  obtain ⟨abort, houtcome, hends⟩ := endsOn_exchange hreplies hstatus
  rw [ask_of_calm h, backend.recorded.perform_eq, houtcome]
  exact ⟨abort, _, rfl, hends⟩

theorem ask_number_of_replies (h : world.Calm)
    (hreplies : Replies backend request world.native reply after) (hstatus : 0 ≤ reply.status) :
    ask (.ofBackend backend.recorded) (backend.recorded.number request) world
      = (.ok reply.status.toInt.toNat, { world.next with native := after }) := by
  rw [ask_of_calm h, backend.recorded.number_eq, exchange_of_replies hreplies hstatus]

theorem endsOn_number (h : world.Calm)
    (hreplies : Replies backend request world.native reply after)
    (hstatus : reply.status < 0) : ∃ abort last,
      ask (.ofBackend backend.recorded) (backend.recorded.number request) world
        = (.error abort, last) ∧ EndsOn reply.status abort := by
  obtain ⟨abort, houtcome, hends⟩ := endsOn_exchange hreplies hstatus
  rw [ask_of_calm h, backend.recorded.number_eq, houtcome]
  exact ⟨abort, _, rfl, hends⟩

theorem endsOn_fetch (h : world.Calm) {requests : Nat → Request} {length : Nat}
    (hreplies : Replies backend (requests length) world.native reply after)
    (hstatus : reply.status < 0) : ∃ abort last,
      fetch (.ofBackend backend.recorded) backend.recorded requests length world
        = (.error abort, last) ∧ EndsOn reply.status abort := by
  obtain ⟨abort, houtcome, hends⟩ := endsOn_exchange hreplies hstatus
  have hfill : (backend.recorded.fill requests (Bytes.zeros length) world.native).1.1
      = .error abort := by
    rw [backend.recorded.fill_eq, Bytes.length_zeros]
    exact houtcome
  cases hresult : backend.recorded.fill requests (Bytes.zeros length) world.native with
  | mk filled last =>
    obtain ⟨result, buffer⟩ := filled
    obtain rfl : result = .error abort := by rw [← hfill, hresult]
    have hstate : Act.ofState (native (.ofBackend backend.recorded)
        (backend.recorded.fill requests (Bytes.zeros length))) world
        = (.ok (.error abort, buffer), { world.next with native := last }) := by
      rw [Act.ofState, native_of_calm h, hresult]
    exact ⟨abort, _, (Act.bind_of_ok hstate).trans (Act.bind_of_error rfl), hends⟩

end Replies

/-! ## Constructors -/

/-- **A call that makes a context** and hands out its owner. -/
inductive Construction
  /-- A digest; an output length other than 0 asks for that many bytes. -/
  | digest (algorithm : String) (outputLength : Nat)
  /-- A fresh key. -/
  | generate (type : KeyType)
  /-- A key from one encoded half. -/
  | decode (part : KeyPart) (type : KeyType) (encoded : Bytes)
  /-- A signer. -/
  | signer (key : KeySpec)
  /-- A verifier. -/
  | verifier (key : KeySpec)

namespace Construction

/-- The kind of context. -/
def domain : Construction → Domain
  | digest .. => .digest
  | generate _ | decode .. => .keySpec
  | signer _ | verifier _ => .signature

/-- The request that allocates the context. -/
def allocation : Construction → Request
  | digest algorithm outputLength => .digestAllocate algorithm outputLength
  | generate _ | decode .. => .keyAllocate
  | signer _ | verifier _ => .signatureAllocate

/-- The request that prepares the context at an address, if it has to be prepared. -/
def init? (address : Address) : Construction → Option Request
  | digest .. => none
  | generate type => some (.keyGenerate address type)
  | decode part type encoded => some (.keyDecode address part type encoded)
  | signer key => some (.signatureInitSign address key.handle)
  | verifier key => some (.signatureInitVerify address key.handle)

/-- **The call**, with the owner that it hands out. -/
def make (services : Services σ) : Construction → Work σ Owner
  | digest algorithm outputLength => do
    return (← Digest.create services algorithm outputLength).owner
  | generate type => do return (← KeySpec.generate services type).owner
  | decode part type encoded => do return (← KeySpec.decode services part type encoded).owner
  | signer key => do return (← Signer.create services key).owner
  | verifier key => do return (← Verifier.create services key).owner

/-- The context is not prepared: the library replies with a negative status. -/
def Stumbles (backend : Backend σ) (construction : Construction) (handle : Handle)
    (native : Recorded σ) (status : Int32) : Prop :=
  ∃ request reply after, construction.init? handle.address = some request
    ∧ Replies backend request native reply after ∧ reply.status = status ∧ status < 0

/-- What prepares the context of an owner. -/
def init (backend : Backend σ) (construction : Construction) (owner : Owner) :
    Work (Recorded σ) Unit :=
  match construction.init? owner.handle.address with
  | none => pure ()
  | some request => ask (.ofBackend backend.recorded) (backend.recorded.perform request)

variable {construction : Construction}

theorem onlyAsks_init : OnlyAsks (construction.init backend owner) := by
  unfold init
  split
  · exact .pure _
  · exact .ask (.perform _)

theorem make_of_error {abort : Abort}
    (h : acquire (.ofBackend backend.recorded) construction.domain construction.allocation world
      = (.error abort, world')) :
    construction.make (.ofBackend backend.recorded) world = (.error abort, world') := by
  cases construction with
  | digest | generate | decode => exact Act.bind_of_error (Act.bind_of_error h)
  | signer | verifier => exact Act.bind_of_error (Act.bind_of_error (Act.bind_of_error h))

/-- Where there is an owner, its context is prepared. -/
theorem make_of_ok (h : acquire (.ofBackend backend.recorded) construction.domain
      construction.allocation world = (.ok owner, world')) {result : Except Abort Unit}
    {last : World (Recorded σ)}
    (hprepare : prepare (.ofBackend backend.recorded) owner (construction.init backend owner) world'
      = (result, last)) :
    construction.make (.ofBackend backend.recorded) world = (result.map fun _ => owner, last) := by
  cases construction with
  | digest algorithm outputLength =>
    -- There is nothing to be prepared.
    obtain ⟨rfl, rfl⟩ := Prod.ext_iff.mp (show (.ok (), world') = (result, last) from hprepare)
    have hcreate : Digest.create (.ofBackend backend.recorded) algorithm outputLength world
        = (.ok ⟨owner, algorithm⟩, world') := Act.bind_of_ok h
    exact Act.bind_of_ok hcreate
  | generate type =>
    cases result with
    | ok done => exact Act.bind_of_ok ((Act.bind_of_ok h).trans (Act.bind_of_ok hprepare))
    | error abort => exact Act.bind_of_error ((Act.bind_of_ok h).trans (Act.bind_of_error hprepare))
  | decode part type encoded =>
    cases result with
    | ok done => exact Act.bind_of_ok ((Act.bind_of_ok h).trans (Act.bind_of_ok hprepare))
    | error abort => exact Act.bind_of_error ((Act.bind_of_ok h).trans (Act.bind_of_error hprepare))
  | signer key | verifier key =>
    cases result with
    | ok done =>
      exact Act.bind_of_ok (Act.bind_of_ok ((Act.bind_of_ok h).trans (Act.bind_of_ok hprepare)))
    | error abort =>
      exact Act.bind_of_error (Act.bind_of_error
        ((Act.bind_of_ok h).trans (Act.bind_of_error hprepare)))

/-- A context that was handed out is prepared in a world in which its owner is held. -/
theorem prepared (construction : Construction) (h : world.Calm) {handle : Handle}
    {after : Recorded σ} (hgrants : Grants backend construction.allocation world handle after) :
    let enrolled := world.enrolled construction.domain handle after
    let owner := world.registry.nextOwner handle construction.domain.name
    ∃ last, construction.make (.ofBackend backend.recorded) world
        = ((construction.init backend owner enrolled).1.map fun _ => owner, last)
      ∧ Fares enrolled owner construction.domain
        ((construction.init backend owner enrolled).1.map fun _ => owner) last := by
  intro enrolled owner
  have hinit : OnlyAsks (construction.init backend owner) := onlyAsks_init
  obtain ⟨last, hprepare, hfares⟩ := fares_prepare backend (hgrants.holds h) hinit
  exact ⟨last, make_of_ok (acquire_of_grants h hgrants) hprepare, hfares.map _⟩

/-- **No constructor loses a context.** -/
theorem leakFree_make (h : world.Calm) : LeakFree backend world construction.domain
    construction.allocation (construction.Stumbles backend)
    (construction.make (.ofBackend backend.recorded)) := by
  refine leakFree_of_fares (fun hnot => ?_) (fun handle after hgrants => ?_)
    fun handle after status hgrants hstumbles => ?_
  · obtain ⟨⟨abort, hresult⟩, huntouched⟩ := acquire_of_not_grants h hnot
    rw [make_of_error (Prod.ext hresult rfl)]
    exact ⟨⟨abort, rfl⟩, huntouched⟩
  · obtain ⟨last, hmake, hfares⟩ := construction.prepared h hgrants
    rw [hmake]
    exact hfares
  · obtain ⟨last, hmake, -⟩ := construction.prepared h hgrants
    obtain ⟨request, reply, replied, hinit, hreplies, rfl, hstatus⟩ := hstumbles
    have hcalm : (world.enrolled construction.domain handle after).Calm := (hgrants.holds h).toCalm
    obtain ⟨abort, last', hperform, hends⟩ := endsOn_perform hcalm hreplies hstatus
    refine ⟨abort, ?_, hends⟩
    have hask : construction.init backend (world.registry.nextOwner handle construction.domain.name)
        = ask (.ofBackend backend.recorded) (backend.recorded.perform request) := by
      rw [init, show construction.init? (world.registry.nextOwner handle _).handle.address
        = some request from hinit]
    rw [hmake, hask, hperform]
    rfl

end Construction

/-! ## A digest for one use -/

namespace Digest

/-- **The digest of some data is not finished**: on the way there the library replies with a
negative status. -/
inductive Stumbles (backend : Backend σ) (data : Bytes) (handle : Handle) (native : Recorded σ) :
    Int32 → Prop
  /-- The data is not taken. -/
  | feed {fed : Reply} {after : Recorded σ}
    (feeds : Replies backend (.digestFeed handle.address data 0 data.length) native fed after)
    (status : fed.status < 0) : Stumbles backend data handle native fed.status
  /-- The length is not told. -/
  | length {fed told : Reply} {afterFeed after : Recorded σ}
    (feeds : Replies backend (.digestFeed handle.address data 0 data.length) native fed afterFeed)
    (taken : 0 ≤ fed.status)
    (tells : Replies backend (.digestLength handle.address) afterFeed told after)
    (status : told.status < 0) : Stumbles backend data handle native told.status
  /-- The digest is not written. -/
  | finish {fed told written : Reply} {afterFeed afterLength after : Recorded σ}
    (feeds : Replies backend (.digestFeed handle.address data 0 data.length) native fed afterFeed)
    (taken : 0 ≤ fed.status)
    (tells : Replies backend (.digestLength handle.address) afterFeed told afterLength)
    (known : 0 ≤ told.status)
    (writes : Replies backend (.digestFinish handle.address told.status.toInt.toNat) afterLength
      written after)
    (status : written.status < 0) : Stumbles backend data handle native written.status

/-- What is done with a digest that is made for some data. -/
def use (services : Services σ) (digest : Digest) (data : Bytes) : Work σ Bytes := do
  digest.feed services data
  digest.finish services

variable {digest : Digest} {data : Bytes}

theorem onlyAsks_use : OnlyAsks (digest.use (.ofBackend backend.recorded) data) := by
  refine .andThen (.ask (.perform _)) fun _ => .andThen (.ask (.number _)) fun length => ?_
  refine .andThen (.ofState (.native (.fill _ _))) fun filled => ?_
  exact .andThen (.ofExcept _) fun _ => .pure _

/-- **A digest ends with the status** with which the library refuses. -/
theorem endsOn_use (h : world.Calm) {status : Int32}
    (hstumbles : Stumbles backend data digest.owner.handle world.native status) :
    ∃ abort, (digest.use (.ofBackend backend.recorded) data world).1 = .error abort
      ∧ EndsOn status abort := by
  -- The steps that succeed, each followed by the next one.
  have hfed : ∀ {fed : Reply} {after : Recorded σ}, Replies backend
      (.digestFeed digest.owner.handle.address data 0 data.length) world.native fed after →
      0 ≤ fed.status → digest.use (.ofBackend backend.recorded) data world
        = digest.finish (.ofBackend backend.recorded) { world.next with native := after } := by
    intro fed after feeds taken
    have hfeed : digest.feed (.ofBackend backend.recorded) data world = (.ok (), _) :=
      ask_perform_of_replies h feeds taken
    exact Act.bind_of_ok hfeed
  have htold : ∀ {told : Reply} {before after : Recorded σ},
      Replies backend (.digestLength digest.owner.handle.address) before told after →
      0 ≤ told.status →
      digest.finish (.ofBackend backend.recorded) { world.next with native := before }
        = fetch (.ofBackend backend.recorded) backend.recorded
          (.digestFinish digest.owner.handle.address) told.status.toInt.toNat
          { world.next.next with native := after } := by
    intro told before after tells known
    have hlength : digest.length (.ofBackend backend.recorded)
        { world.next with native := before } = (.ok told.status.toInt.toNat, _) :=
      ask_number_of_replies (h.native before) tells known
    exact Act.bind_of_ok hlength
  cases hstumbles with
  | feed feeds status =>
    obtain ⟨abort, last, hresult, hends⟩ := endsOn_perform h feeds status
    have hfeed : digest.feed (.ofBackend backend.recorded) data world = (.error abort, last) :=
      hresult
    exact ⟨abort, congrArg Prod.fst (Act.bind_of_error hfeed), hends⟩
  | length feeds taken tells status =>
    obtain ⟨abort, last, hresult, hends⟩ := endsOn_number (h.native _) tells status
    have hlength : digest.length (.ofBackend backend.recorded) _ = (.error abort, last) := hresult
    exact ⟨abort, (congrArg Prod.fst (hfed feeds taken)).trans
      (congrArg Prod.fst (Act.bind_of_error hlength)), hends⟩
  | finish feeds taken tells known writes status =>
    obtain ⟨abort, last, hresult, hends⟩ := endsOn_fetch ((h.native _).native _) writes status
    exact ⟨abort, (congrArg Prod.fst ((hfed feeds taken).trans ((htold tells known).trans
      hresult))), hends⟩

/-- **The digest of some bytes** loses no context. -/
theorem leakFree_once (algorithm : String) (h : world.Calm) :
    LeakFree backend world .digest (.digestAllocate algorithm 0) (Stumbles backend data)
      (once (.ofBackend backend.recorded) algorithm data) := by
  -- The digest that is made is used and disposed of.
  have honce : ∀ {owner : Owner} {made : World (Recorded σ)},
      acquire (.ofBackend backend.recorded) .digest (.digestAllocate algorithm 0) world
        = (.ok owner, made) →
      once (.ofBackend backend.recorded) algorithm data world
        = lend (.ofBackend backend.recorded) owner
          (use (.ofBackend backend.recorded) ⟨owner, algorithm⟩ data) made := by
    intro owner made hacquire
    have hcreate : create (.ofBackend backend.recorded) algorithm 0 world
        = (.ok ⟨owner, algorithm⟩, made) := Act.bind_of_ok hacquire
    exact Act.bind_of_ok hcreate
  refine leakFree_of_fares (fun hnot => ?_) (fun handle after hgrants => ?_)
    fun handle after status hgrants hstumbles => ?_
  · obtain ⟨⟨abort, hresult⟩, huntouched⟩ := acquire_of_not_grants h hnot
    have hcreate : create (.ofBackend backend.recorded) algorithm 0 world = (.error abort, _) :=
      Act.bind_of_error (Prod.ext hresult rfl)
    have hfails : once (.ofBackend backend.recorded) algorithm data world = (.error abort, _) :=
      Act.bind_of_error hcreate
    rw [hfails]
    exact ⟨⟨abort, rfl⟩, huntouched⟩
  · obtain ⟨last, hlend, hfares⟩ := fares_lend backend (hgrants.holds h) onlyAsks_use
    rw [honce (acquire_of_grants h hgrants), hlend]
    exact hfares
  · obtain ⟨last, hlend, -⟩ := fares_lend backend (hgrants.holds h) onlyAsks_use
    rw [honce (acquire_of_grants h hgrants), hlend]
    exact endsOn_use (hgrants.holds h).toCalm hstumbles

end Digest

/-! ## Worlds that are calm -/

/-- A world is calm in the beginning, whatever turns the daemon will take. -/
theorem calm_start {settings : Settings} {native : σ} {turns : List (List Turn)} {world : World σ}
    (h : World.start settings native turns = .ok world) : world.Calm := by
  obtain rfl := World.eq_of_start h
  exact
    { sound := SlotTable.sound_empty
      quiet := Ledger.quiet_empty
      bound := fun _ hentry => absurd hentry List.not_mem_nil
      cleared := rfl
      hand := rfl
      daemon := rfl
      idle := .inr ⟨rfl, fun _ hentry => absurd hentry List.not_mem_nil⟩ }

/-- A world in order is calm while its daemon has nothing in hand, and no notice or no turn. -/
theorem Backs.calm {library : Library σ} {stake : Stake} {s : Estate Domain}
    (h : Backs library stake s world) (hhand : s.hand = [])
    (hidle : world.turns = [] ∨ s.registry.notices = []) : world.Calm := by
  have howned : ∀ entry ∈ world.registry.table.entries, ∃ owner ∈ s.accepted,
      owner.entry = entry ∧ s.registry.table.find? owner.key = some owner.entry := by
    intro entry hentry
    obtain ⟨key, hfound⟩ := SlotTable.mem_entries.mp hentry
    rw [h.registry] at hfound
    obtain ⟨owner, ho, rfl, rfl⟩ := h.coherent.books.owned key entry hfound
    exact ⟨owner, ho, rfl, hfound⟩
  refine
    { sound := h.registry ▸ h.coherent.books.sound
      quiet := h.registry ▸ h.coherent.books.quiet
      bound := fun entry hentry => ?_
      cleared := h.registry ▸ h.cleared
      hand := h.hand.trans hhand
      daemon := h.registry ▸ h.coherent.daemon
      idle := hidle.imp_right fun hnotices => ⟨h.registry ▸ hnotices, fun entry hentry => ?_⟩ }
  · obtain ⟨owner, ho, rfl, -⟩ := howned entry hentry
    rw [h.registry]
    exact h.coherent.books.handled owner ho
  · -- No notice waits, so that the owner of the entry is held.
    obtain ⟨owner, ho, rfl, hfound⟩ := howned entry hentry
    rw [h.registry]
    have hwaiting := h.coherent.queue.waiting owner ho hfound
    refine h.coherent.holding.alive owner (hwaiting.resolve_right ?_)
    rintro ⟨-, hkey⟩
    rw [hnotices] at hkey
    cases hkey

/-- **A world in order is calm when its daemon has been waited for**, whatever turns the daemon will
take. -/
theorem calm_flush {library : Library σ} {stake : Stake} (h : Stands library stake world)
    (hfit : Fit library (World.flush library.services world).2) :
    (World.flush library.services world).2.Calm := by
  obtain ⟨s, -, -, -, hflush⟩ := exists_backs_flush h hfit
  exact hflush.calm s.hand_flush (.inr s.notices_flush)

/-! ## All of them -/

/-- **No call that makes a context loses one**, in any calm world and with any library behind it. -/
theorem constructors_lose_nothing (backend : Backend σ) (h : world.Calm) :
    (∀ construction : Construction, LeakFree backend world construction.domain
      construction.allocation (construction.Stumbles backend)
      (construction.make (.ofBackend backend.recorded)))
    ∧ ∀ (algorithm : String) (data : Bytes), LeakFree backend world .digest
      (.digestAllocate algorithm 0) (Digest.Stumbles backend data)
      (Digest.once (.ofBackend backend.recorded) algorithm data) :=
  ⟨fun _ => Construction.leakFree_make h, fun algorithm _ => Digest.leakFree_once algorithm h⟩

/-! ### A library that refuses -/

/-- A library that hands out one address for everything and then refuses: a public key has the wrong
length, and what comes of a fresh key or of data for a digest means nothing. -/
def obstinate : Backend Unit where
  kind := .dispatch
  entry _ call := pure <| match call with
    | .digestAllocate .. | .keyAllocate _ | .signatureAllocate _ => ⟨0, some 7, []⟩
    | .keyDecodePublic .. => .bare ErrorCode.encodedPublicKeyLen.status
    | .keyGenerate .. | .digestFeed .. => .bare (-1000)
    | _ => .bare 0

/-- A world with this library, in which the daemon takes several turns. -/
def obstinateWorld : World (Recorded Unit) :=
  ⟨⟨(), []⟩, .empty, [], [[.sweep], [], [.notice], [.notice, .release], [.release, .sweep]]⟩

/-- The context of a key that cannot be decoded is disposed of, and that of a key that is not made
is freed by the next flush. The digest of some data does not lose its context either. -/
theorem constructors_lose_nothing_obstinate :
    obstinateWorld.Calm
    ∧ ((∃ detail, ((Construction.decode .publicHalf .ed25519 []).make
          (.ofBackend obstinate.recorded) obstinateWorld).1
          = .error (.failed (.native .invalidArgument .encodedPublicKeyLen detail)))
      ∧ Discarded obstinateWorld ((Construction.decode .publicHalf .ed25519 []).make
          (.ofBackend obstinate.recorded) obstinateWorld).2 (7, .keySpec))
    ∧ ((∃ message, ((Construction.generate .ed25519).make (.ofBackend obstinate.recorded)
          obstinateWorld).1 = .error (.panicked message))
      ∧ FreedOnceSince obstinateWorld (World.flush (.ofBackend obstinate.recorded)
          ((Construction.generate .ed25519).make (.ofBackend obstinate.recorded)
            obstinateWorld).2).2 (7, .keySpec))
    ∧ ((∃ message, (Digest.once (.ofBackend obstinate.recorded) "SHA-256" [1, 2] obstinateWorld).1
          = .error (.panicked message))
      ∧ FreedOnceSince obstinateWorld (World.flush (.ofBackend obstinate.recorded)
          (Digest.once (.ofBackend obstinate.recorded) "SHA-256" [1, 2] obstinateWorld).2).2
          (7, .digest)) := by
  have hstart : World.start .default ⟨(), []⟩ obstinateWorld.turns = .ok obstinateWorld := rfl
  have hcalm := calm_start hstart
  have hgrants : ∀ {request : Request} {call : Call}, request.call = .ok call →
      (obstinate.recorded.submit call obstinateWorld.native).1 = ⟨0, some 7, []⟩ →
      Grants obstinate request obstinateWorld ⟨7, by decide⟩
        (obstinate.recorded.submit call obstinateWorld.native).2 := fun hcall hreply =>
    ⟨⟨0, some 7, []⟩, ⟨_, hcall, Prod.ext hreply rfl⟩, by decide, rfl, List.not_mem_nil⟩
  obtain ⟨hmake, honce⟩ := constructors_lose_nothing obstinate hcalm
  refine ⟨hcalm, ?_, ?_, ?_⟩
  · exact (hmake (.decode .publicHalf .ed25519 [])).failed ⟨7, by decide⟩ _ .encodedPublicKeyLen
      (hgrants rfl rfl) ⟨_, _, _, rfl, ⟨_, rfl, rfl⟩, rfl, by decide⟩
  · exact (hmake (.generate .ed25519)).panicked ⟨7, by decide⟩ _ (-1000) (hgrants rfl rfl)
      ⟨_, _, _, rfl, ⟨_, rfl, rfl⟩, rfl, by decide⟩ (by decide)
  · exact (honce "SHA-256" [1, 2]).panicked ⟨7, by decide⟩ _ (Reply.bare (-1000)).status
      (hgrants rfl rfl) (.feed ⟨_, rfl, rfl⟩ (by decide)) (by decide)

end Custody.Held

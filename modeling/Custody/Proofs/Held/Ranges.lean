import Custody.Proofs.Held.Blameless
import Custody.Proofs.Service.Diagnostics
import Custody.Proofs.Vault.Windows

/-!
# Feeding a range

Digests, signers and verifiers are fed with a range of some data or with all of it (`Feeder`). The
range is a window, and the library sees nothing of the data but that: feeding a range that lies in
the data is feeding what it addresses, and a range that leaves the data is out of range, which
changes nothing (`only_windows_are_seen`).

The call for a range and the one for what it addresses are not the same call, so that the notes of
the calls differ. The statements are about worlds without their notes (`World.unnoted`), and rest on
it that notes make no difference to a request (`Unnoted.perform`).
-/

namespace Custody

open Held

variable {σ α β : Type}

/-! ## Notes make no difference -/

/-- **An action on a library with notes** that does what another does on the library without. -/
def Unnoted (act : StateM (Recorded σ) α) (plain : StateM σ α) : Prop :=
  ∀ recorded, (act recorded).1 = (plain recorded.state).1
    ∧ (act recorded).2.state = (plain recorded.state).2

namespace Unnoted

variable {backend : Backend σ}

theorem pure (a : α) : Unnoted (Pure.pure a : StateM (Recorded σ) α) (Pure.pure a) :=
  fun _ => ⟨rfl, rfl⟩

/-- One action after another. -/
theorem bind {act : StateM (Recorded σ) α} {plain : StateM σ α}
    {rest : α → StateM (Recorded σ) β} {plainRest : α → StateM σ β} (h : Unnoted act plain)
    (hrest : ∀ a, Unnoted (rest a) (plainRest a)) :
    Unnoted (act >>= rest) (plain >>= plainRest) := by
  intro recorded
  obtain ⟨hvalue, hstate⟩ := h recorded
  show (rest (act recorded).1 (act recorded).2).1
      = (plainRest (plain recorded.state).1 (plain recorded.state).2).1
    ∧ (rest (act recorded).1 (act recorded).2).2.state
      = (plainRest (plain recorded.state).1 (plain recorded.state).2).2
  rw [← hvalue, ← hstate]
  exact hrest _ _

/-- Actions that may end early, one after the other. -/
theorem andThen {act : Act (Recorded σ) α} {plain : Act σ α} {rest : α → Act (Recorded σ) β}
    {plainRest : α → Act σ β} (h : Unnoted act plain)
    (hrest : ∀ a, Unnoted (rest a) (plainRest a)) :
    Unnoted (act >>= rest : Act (Recorded σ) β) (plain >>= plainRest : Act σ β) := by
  have hcont : ∀ result : Except Abort α,
      Unnoted (ExceptT.bindCont rest result) (ExceptT.bindCont plainRest result) := by
    intro result
    cases result with
    | ok a => exact hrest a
    | error abort => exact pure _
  exact bind h hcont

/-- A failure that is told with what was attempted. -/
theorem during {act : Act (Recorded σ) α} {plain : Act σ α} (h : Unnoted act plain)
    (context : String) : Unnoted (act.during context) (plain.during context) := by
  intro recorded
  obtain ⟨hvalue, hstate⟩ := h recorded
  unfold Act.during
  generalize act recorded = noted at *
  generalize plain recorded.state = bare at *
  obtain ⟨result, after⟩ := noted
  obtain ⟨result', after'⟩ := bare
  obtain rfl : result = result' := hvalue
  cases result with
  | ok a => exact ⟨rfl, hstate⟩
  | error abort => exact ⟨rfl, hstate⟩

theorem submit (call : Call) : Unnoted (backend.recorded.submit call) (backend.submit call) :=
  fun _ => ⟨rfl, rfl⟩

/-- The calls that fetch the diagnostics are noted, and the text is the same. -/
theorem takeDiagnostics : Unnoted backend.recorded.takeDiagnostics backend.takeDiagnostics := by
  refine bind (submit _) fun pending => ?_
  split
  · exact pure _
  · exact bind (submit _) fun _ => pure _

/-- A check of a status does the same with notes and without. -/
theorem check (status : Int32) :
    Unnoted (backend.recorded.check status) (backend.check status) := by
  unfold Backend.check
  split
  · exact pure _
  · exact andThen (bind takeDiagnostics fun _ => pure _) fun _ => pure _

theorem checkFor (request : Request) (status : Int32) :
    Unnoted (backend.recorded.checkFor request status) (backend.checkFor request status) := by
  unfold Backend.checkFor
  split
  · exact check status
  · exact (check status).during _

/-- **A request has the same outcome** with notes and without. -/
theorem exchange (request : Request) :
    Unnoted (backend.recorded.exchange request) (backend.exchange request) := by
  unfold Backend.exchange
  split
  · exact pure _
  · exact bind (submit _) fun reply => bind (checkFor request reply.status) fun _ => pure _

/-- **A request** does with notes what it does without. -/
theorem perform (request : Request) :
    Unnoted (backend.recorded.perform request) (backend.perform request) :=
  andThen (andThen (bind (exchange request) fun _ => pure _) fun _ => pure _) fun _ => pure _

end Unnoted

/-! ## Requests for a range -/

section Requests

variable {kind : BackendKind} {request request' : Request} {call call' : Call}
  {data : Bytes} {offset len : Nat} {session : Session} {vault : Vault} {handle : Address}

/-- A range as a window. -/
def windowOf (data : Bytes) (offset len : Nat) : InputWindow :=
  ⟨data, Int32.ofNat offset, Int32.ofNat len⟩

/-- A part whose numbers fit has its window. -/
theorem partArgument_of_lt (hoffset : offset < wordLimit) (hlen : len < wordLimit) :
    Request.partArgument data offset len = .ok (windowOf data offset len) := by
  simp only [Request.partArgument, Request.inputNumber, Request.numberArgument, if_pos hoffset,
    if_pos hlen]
  rfl

theorem toInt_ofNat_of_lt_wordLimit {n : Nat} (h : n < wordLimit) : (Int32.ofNat n).toInt = n := by
  unfold wordLimit at h
  exact Int32.toInt_ofNat_of_lt (by omega)

theorem nonneg_ofNat {n : Nat} (h : n < wordLimit) : 0 ≤ Int32.ofNat n := by
  rw [Int32.le_iff_toInt_le, toInt_ofNat_of_lt_wordLimit h]
  exact Int.natCast_nonneg n

/-- **The window addresses the part**, and nothing else. -/
theorem addressed_windowOf (hoffset : offset < wordLimit) (hlen : len < wordLimit) :
    (windowOf data offset len).addressed = data.window offset len := by
  rw [windowOf, InputWindow.addressed, toInt_ofNat_of_lt_wordLimit hoffset,
    toInt_ofNat_of_lt_wordLimit hlen, Int.toNat_natCast, Int.toNat_natCast]

/-- The window lies in the buffer if and only if the part does. -/
theorem inRange_windowOf (hoffset : offset < wordLimit) (hlen : len < wordLimit) :
    (windowOf data offset len).InRange ↔ offset + len ≤ data.length := by
  rw [windowOf, InputWindow.InRange, toInt_ofNat_of_lt_wordLimit hoffset,
    toInt_ofNat_of_lt_wordLimit hlen, Int.toNat_natCast, Int.toNat_natCast]
  exact ⟨fun h => h.2.2, fun h => ⟨nonneg_ofNat hoffset, nonneg_ofNat hlen, h⟩⟩

/-- A part in range has as many bytes as were asked for. -/
theorem length_window (hrange : offset + len ≤ data.length) :
    (data.window offset len).length = len := by
  rw [Bytes.window, List.length_take, List.length_drop]
  omega

/-- **A range that lies in the data** addresses what all of its bytes do. -/
theorem sameBytes_windowOf (hrange : offset + len ≤ data.length) (hdata : data.length < wordLimit) :
    Vault.SameBytes (some (windowOf data offset len))
      (some (windowOf (data.window offset len) 0 len)) := by
  have hlength : (data.window offset len).length = len := length_window hrange
  have hoffset : offset < wordLimit := by omega
  have hlen : len < wordLimit := by omega
  have hzero : 0 < wordLimit := by decide
  refine .intro ((inRange_windowOf hoffset hlen).mpr hrange)
    ((inRange_windowOf hzero hlen).mpr (by omega)) ?_
  rw [addressed_windowOf hoffset hlen, addressed_windowOf hzero hlen]
  exact (List.take_of_length_le (Nat.le_of_eq hlength)).symm

/-- **A range that leaves the data** is refused. -/
theorem input_windowOf (hrange : data.length < offset + len) (hoffset : offset < wordLimit)
    (hlen : len < wordLimit) :
    vault.input (some (windowOf data offset len)) = .error .inputOutOfRange := by
  have hout : ¬ offset + len ≤ data.length := Nat.not_le.mpr hrange
  rw [Vault.input, windowOf, InputWindow.read, if_neg (Int32.not_lt.mpr (nonneg_ofNat hoffset)),
    if_neg (Int32.not_lt.mpr (nonneg_ofNat hlen)), if_pos]
  · rfl
  · rwa [toInt_ofNat_of_lt_wordLimit hoffset, toInt_ofNat_of_lt_wordLimit hlen, Int.toNat_natCast,
      Int.toNat_natCast]

/-- A call of the vault takes what comes next from outside. -/
theorem submit_vault : (Library.vault kind).backend.submit call session
    = ((session.vault.answer (session.supply session.calls) call).1,
        { session with
          vault := (session.vault.answer (session.supply session.calls) call).2
          calls := session.calls + 1 }) := rfl

/-- **Requests for calls with the same windows** do the same. -/
theorem perform_of_sameWindows (hcall : request.call = .ok call)
    (hcall' : request'.call = .ok call') (hcontext : request.context? = request'.context?)
    (h : Vault.SameWindows call call') :
    (Library.vault kind).backend.perform request
      = (Library.vault kind).backend.perform request' := by
  have hsubmit : (Library.vault kind).backend.submit call
      = (Library.vault kind).backend.submit call' := by
    funext session
    rw [submit_vault, submit_vault, Vault.answer_of_sameWindows h rfl]
  have hcheck : (Library.vault kind).backend.checkFor request
      = (Library.vault kind).backend.checkFor request' := by
    funext status
    rw [Backend.checkFor, hcontext, Backend.checkFor]
  have hexchange : (Library.vault kind).backend.exchange request
      = (Library.vault kind).backend.exchange request' := by
    simp only [Backend.exchange, hcall, hcall', hsubmit, hcheck]
  rw [Backend.perform, Backend.number, hexchange, Backend.perform, Backend.number]

/-- **A session to which nothing has happened** but that calls were made, and that pending
diagnostics were taken, if there were any. -/
def Session.Undisturbed (session session' : Session) : Prop :=
  ∃ lines calls, session' = { session with vault := session.vault.saying lines, calls := calls }
    ∧ (session.vault.diagnostics = [] → lines = [])

/-- Taking the diagnostics disturbs nothing else. -/
theorem undisturbed_takeDiagnostics :
    session.Undisturbed ((Library.vault kind).backend.takeDiagnostics session).2 := by
  rw [takeDiagnostics_vault]
  dsimp only
  split
  · exact ⟨session.vault.diagnostics, session.calls + 1, rfl, id⟩
  · exact ⟨[], session.calls + 2, rfl, fun _ => rfl⟩

/-- **A request whose call is refused without a word** fails by the code, and disturbs nothing. -/
theorem perform_of_refused {code : ErrorCode} (hcall : request.call = .ok call)
    (hcontext : request.context? = none) (hcode : code.wantsDiagnostics = false)
    (hverdict : session.vault.verdict (session.supply session.calls) call
      = .error (session.vault.refused code)) :
    ((Library.vault kind).backend.perform request session).1 = .error (.failed (.ofCode code))
      ∧ session.Undisturbed ((Library.vault kind).backend.perform request session).2 := by
  have hsubmit : (Library.vault kind).backend.submit call session
      = (.bare code.status, { session with calls := session.calls + 1 }) := by
    rw [submit_vault, Vault.answer_of_refused hverdict]
  have hstatus : ((Library.vault kind).backend.submit call session).1.status < 0 := by
    rw [hsubmit]
    exact Vault.status_neg code
  rw [Backend.perform_eq, Backend.exchange_of_neg _ hcall hstatus, hsubmit]
  refine ⟨?_, ?_⟩
  · show Except.error (request.explain (.ofStatus code.status _)) = _
    rw [Request.explain, hcontext, Abort.ofStatus_status, ErrorCode.detail_of_not_wants hcode]
    rfl
  · obtain ⟨lines, calls, hafter, hlines⟩ : Session.Undisturbed
        { session with calls := session.calls + 1 }
        ((Library.vault kind).backend.takeDiagnostics
          { session with calls := session.calls + 1 }).2 := undisturbed_takeDiagnostics
    exact ⟨lines, calls, hafter, hlines⟩

end Requests

namespace Held

/-! ## Things that are fed -/

/-- **A thing that is fed.** -/
inductive Feeder
  | digest (digest : Digest)
  | signer (signer : Signer)
  | verifier (verifier : Verifier)

namespace Feeder

variable (services : Services σ)

/-- The thing as it is kept on a shelf. -/
def item : Feeder → Item
  | digest d => .digest d
  | signer s => .signer s
  | verifier v => .verifier v

/-- Feeds `len` bytes of the data from `offset` on. -/
def feedRange : Feeder → Bytes → Nat → Nat → Work σ Unit
  | digest d => d.feedRange services
  | signer s => s.feedRange services
  | verifier v => v.feedRange services

/-- Feeds bytes. -/
def feed : Feeder → Bytes → Work σ Unit
  | digest d => d.feed services
  | signer s => s.feed services
  | verifier v => v.feed services

/-- The request to feed a range. -/
def request : Feeder → Bytes → Nat → Nat → Request
  | digest d => .digestFeed d.handle
  | signer s => .signatureFeed s.owner.handle.address
  | verifier v => .signatureFeed v.owner.handle.address

/-- The native call to feed what a window addresses. -/
def call : Feeder → InputWindow → Call
  | digest d, w => .digestFeed d.handle (some w)
  | signer s, w => .signatureFeed s.owner.handle.address (some w)
  | verifier v, w => .signatureFeed v.owner.handle.address (some w)

/-- **The context of the thing is there and prepared.** A digest has a context of a digest, a signer
one that signs, a verifier one that checks. -/
def Prepared (vault : Vault) : Feeder → Prop
  | digest d => vault.kindAt d.handle = some .digest
  | signer s => vault.roleAt s.owner.handle.address = some .signs
  | verifier v => vault.roleAt v.owner.handle.address = some .checks

end Feeder

/-- A world without the notes of its calls. -/
def World.unnoted (world : World (Recorded σ)) : World σ :=
  ⟨world.native.state, world.registry, world.hand, world.turns⟩

/-- **A world to which nothing has happened** but that calls were made, and that pending diagnostics
were taken, if there were any. -/
def World.Undisturbed (world world' : World Session) : Prop :=
  ∃ session, world.native.Undisturbed session ∧ world' = { world with native := session }

namespace Feeder

variable {kind : BackendKind} {feeder : Feeder} {data : Bytes} {offset len : Nat}
  {world : World (Recorded Session)}

/-- A part whose numbers fit is fed with one call. -/
theorem request_call (feeder : Feeder) (hoffset : offset < wordLimit) (hlen : len < wordLimit) :
    (feeder.request data offset len).call = .ok (feeder.call (windowOf data offset len)) := by
  cases feeder with
  | digest d | signer s | verifier v =>
    simp only [request, Request.call, partArgument_of_lt hoffset hlen]
    rfl

/-- A failure in feeding is told without further words. -/
theorem context?_request (feeder : Feeder) : (feeder.request data offset len).context? = none := by
  cases feeder <;> rfl

/-- To feed all of the data is to feed the part that is all of it. -/
theorem feed_eq {services : Services σ} :
    feeder.feed services data = feeder.feedRange services data 0 data.length := by
  cases feeder <;> rfl

/-- Feeding a range is a request to the library in the world as the daemon leaves it. -/
theorem feedRange_eq : feeder.feedRange (Library.vault kind).services data offset len world
    = let paused := (World.pause (Library.vault kind).services world).2
      let asked := (Library.vault kind).backend.recorded.perform (feeder.request data offset len)
        paused.native
      (asked.1, { paused with native := asked.2 }) := by
  cases feeder <;> rfl

/-- Feeding a range, without the notes. -/
theorem unnoted_feedRange (feeder : Feeder) (kind : BackendKind) (data : Bytes) (offset len : Nat)
    (world : World (Recorded Session)) :
    let paused := (World.pause (Library.vault kind).services world).2
    let asked := (Library.vault kind).backend.perform (feeder.request data offset len)
      paused.session
    let fed := feeder.feedRange (Library.vault kind).services data offset len world
    fed.1 = asked.1 ∧ fed.2.unnoted = { paused.unnoted with native := asked.2 } := by
  intro paused asked fed
  have hunnoted : Unnoted
      ((Library.vault kind).backend.recorded.perform (feeder.request data offset len))
      ((Library.vault kind).backend.perform (feeder.request data offset len)) := .perform _
  obtain ⟨hresult, hstate⟩ := hunnoted paused.native
  have hfed : fed = _ := feedRange_eq
  rw [hfed]
  refine ⟨hresult, ?_⟩
  show World.mk _ _ _ _ = _
  rw [hstate]
  rfl

/-- The calls for a range and for what it addresses have the same windows. -/
theorem sameWindows_call (feeder : Feeder) {w w' : InputWindow}
    (h : Vault.SameBytes (some w) (some w')) :
    Vault.SameWindows (feeder.call w) (feeder.call w') := by
  cases feeder with
  | digest d => exact .digestFeed _ h
  | signer s | verifier v => exact .signatureFeed _ h

/-- The library refuses a range that leaves the data, for a thing that is prepared. -/
theorem verdict_of_out {vault : Vault} (hprepared : feeder.Prepared vault) (supply : Supply)
    (hrange : data.length < offset + len) (hoffset : offset < wordLimit) (hlen : len < wordLimit) :
    vault.verdict supply (feeder.call (windowOf data offset len))
      = .error (vault.refused .inputOutOfRange) := by
  have hinput : vault.input (some (windowOf data offset len)) = .error .inputOutOfRange :=
    input_windowOf hrange hoffset hlen
  cases feeder with
  | digest d =>
    obtain ⟨context, hcontext, hdomain⟩ := Option.map_eq_some_iff.mp hprepared
    cases context with
    | digest context =>
      exact (Vault.Step.on_look_of_ok (Vault.digestAt_eq_ok_iff.mpr hcontext)).trans
        (Vault.Step.on_look_of_error hinput)
    | key material => cases hdomain
    | signature context => cases hdomain
  | signer s | verifier v =>
    obtain ⟨context, hcontext, hrole⟩ := Vault.exists_of_roleAt hprepared
    have hmode : context.mode ≠ .idle := by
      intro hidle
      rw [hidle] at hrole
      cases hrole
    have hprepared : Vault.Check.demand (context.mode ≠ .idle) .notInitialized = .ok () :=
      Vault.Check.demand_eq_ok_iff.mpr (decide_eq_true hmode)
    exact (Vault.Step.on_look_of_ok (Vault.signatureAt_eq_ok_iff.mpr hcontext)).trans
      ((Vault.Step.on_look_of_ok hprepared).trans (Vault.Step.on_look_of_error hinput))

/-- **Feeding a range that lies in the data** is feeding what it addresses. -/
theorem feedRange_of_le (hrange : offset + len ≤ data.length) (hdata : data.length < wordLimit) :
    let part := feeder.feedRange (Library.vault kind).services data offset len world
    let whole := feeder.feed (Library.vault kind).services (data.window offset len) world
    part.1 = whole.1 ∧ part.2.unnoted = whole.2.unnoted := by
  intro part whole
  have hlength : (data.window offset len).length = len := length_window hrange
  have hwhole : whole = feeder.feedRange (Library.vault kind).services (data.window offset len) 0
      len world := by
    show feeder.feed _ _ world = _
    rw [feed_eq, hlength]
  have hperform : (Library.vault kind).backend.perform (feeder.request data offset len)
      = (Library.vault kind).backend.perform (feeder.request (data.window offset len) 0 len) :=
    perform_of_sameWindows (feeder.request_call (by omega) (by omega))
      (feeder.request_call (by decide) (by omega))
      (feeder.context?_request.trans feeder.context?_request.symm)
      (feeder.sameWindows_call (sameBytes_windowOf hrange hdata))
  obtain ⟨hresult, hafter⟩ := feeder.unnoted_feedRange kind data offset len world
  obtain ⟨hresult', hafter'⟩ :=
    feeder.unnoted_feedRange kind (data.window offset len) 0 len world
  rw [hwhole, hresult', hafter', ← hperform]
  exact ⟨hresult, hafter⟩

/-- **Feeding a range that leaves the data** fails, and changes nothing. -/
theorem feedRange_of_lt (hrange : data.length < offset + len) (hoffset : offset < wordLimit)
    (hlen : len < wordLimit) :
    let paused := (World.pause (Library.vault kind).services world).2
    let fed := feeder.feedRange (Library.vault kind).services data offset len world
    feeder.Prepared paused.session.vault →
    fed.1 = .error (.failed (.ofCode .inputOutOfRange))
      ∧ paused.unnoted.Undisturbed fed.2.unnoted := by
  intro paused fed hprepared
  obtain ⟨hresult, hafter⟩ := feeder.unnoted_feedRange kind data offset len world
  obtain ⟨hfailed, hundisturbed⟩ :
      ((Library.vault kind).backend.perform (feeder.request data offset len) paused.session).1 = _
        ∧ paused.session.Undisturbed _ :=
    perform_of_refused (feeder.request_call hoffset hlen) feeder.context?_request rfl
      (verdict_of_out hprepared _ hrange hoffset hlen)
  exact ⟨hresult.trans hfailed, _, hundisturbed, hafter⟩

/-- **What is on a shelf that can be relied on is prepared** whenever it is used. -/
theorem prepared_of_reliable {shelf : Shelf (Recorded Session)}
    (h : Shelf.Reliable kind [] shelf) (hitem : feeder.item ∈ shelf.things)
    (hfit : Fit (.vault kind) (World.pause (Library.vault kind).services shelf.world).2) :
    feeder.Prepared (World.pause (Library.vault kind).services shelf.world).2.session.vault := by
  have htrusts : Trusts kind (Shelf.chargeOf shelf.things)
      (World.pause (Library.vault kind).services shelf.world).2 :=
    (serves_pause shelf.world).2 hfit h.trusts
  have hbears := Shelf.bears_chargeOf hitem
  cases feeder with
  | digest d => exact htrusts.ready.there _ (hbears (.head _))
  | signer s | verifier v => exact htrusts.ready.roles _ hbears

end Feeder

/-- **A call sees nothing of a buffer but its window.**

* In the library, in whatever state, two calls that differ in their buffers alone have the same
  answer and leave the same library behind, if corresponding windows lie in their buffers, those to
  read from address the same bytes and those to write to have the same length, and if the same seed
  is drawn. What is written fits into either window, and nothing outside of it changes.
* In a program, a digest, a signer or a verifier that is fed a range of some data is fed what the
  range addresses, if the range lies in the data. If not, that is out of range, and nothing changes,
  as long as the context is there and prepared.
* That is so for every thing of a program that raises no fault, whatever the program has done before
  and whatever turns the daemon takes. -/
theorem only_windows_are_seen :
    (∀ (calls : List (Supply × Call)) (supply supply' : Supply) (call call' : Call),
      let vault := Vault.empty.after calls
      let reply := (vault.answer supply call).1
      Vault.SameWindows call call' → supply.seed = supply'.seed →
      vault.answer supply call = vault.answer supply' call'
      ∧ ∀ (w : OutputWindow) (buffer : Bytes),
        call.output? = some w ∨ call'.output? = some w → buffer.length = w.size →
        reply.written.length ≤ w.width
        ∧ Bytes.StoredAt w.start reply.written buffer (w.store buffer reply.written))
    ∧ (∀ (kind : BackendKind) (feeder : Feeder) (world : World (Recorded Session)) (data : Bytes)
        (offset len : Nat),
      let services := (Library.vault kind).services
      let paused := (World.pause services world).2
      let part := feeder.feedRange services data offset len world
      let whole := feeder.feed services (data.window offset len) world
      (offset + len ≤ data.length → data.length < wordLimit →
        part.1 = whole.1 ∧ part.2.unnoted = whole.2.unnoted)
      ∧ (data.length < offset + len → offset < wordLimit → len < wordLimit →
        feeder.Prepared paused.session.vault →
        part.1 = .error (.failed (.ofCode .inputOutOfRange))
        ∧ paused.unnoted.Undisturbed part.2.unnoted))
    ∧ ∀ (kind : BackendKind) (settings : Settings) (supply : Nat → Supply)
        (turns : List (List Turn)) (deeds : List Shelf.Deed) (world : World (Recorded Session))
        (feeder : Feeder),
      let services := (Library.vault kind).services
      let shelf := Shelf.after services ⟨world, []⟩ deeds
      let paused := (World.pause services shelf.world).2
      World.start settings ⟨.start supply, []⟩ turns = .ok world →
      (∀ deed ∈ deeds, deed.raises = false) → feeder.item ∈ shelf.things →
      Fit (.vault kind) paused → feeder.Prepared paused.session.vault := by
  refine ⟨?_, ?_, ?_⟩
  · intro calls supply supply' call call' vault reply hsame hseed
    have hanswer : vault.answer supply call = vault.answer supply' call' :=
      Vault.answer_of_sameWindows hsame hseed
    refine ⟨hanswer, fun w buffer hout hbuffer => ?_⟩
    have hmeasured : vault.Measured := Vault.measured_after calls
    have hrange := hsame.inRange hout
    -- The window may be that of the other call, whose reply is the same.
    obtain hout | hout := hout
    · exact ⟨Vault.length_written_le hmeasured hout,
        Vault.storedAt_answer hmeasured hout hrange hbuffer⟩
    · have hreply : reply = (vault.answer supply' call').1 := congrArg Prod.fst hanswer
      rw [hreply]
      exact ⟨Vault.length_written_le hmeasured hout,
        Vault.storedAt_answer hmeasured hout hrange hbuffer⟩
  · intro kind feeder world data offset len services paused part whole
    exact ⟨Feeder.feedRange_of_le, Feeder.feedRange_of_lt⟩
  · intro kind settings supply turns deeds world feeder services shelf paused hstart hraises hitem
      hfit
    -- A thing on a shelf that can be relied on is prepared, and a pause does not change that.
    have hserves : Serves kind (Trusts kind (Shelf.chargeOf shelf.things))
        (World.pause services) fun _ => Trusts kind (Shelf.chargeOf shelf.things) := serves_pause
    have hbefore : Fit (.vault kind) shelf.world := (hserves shelf.world).1.fit hfit
    exact Feeder.prepared_of_reliable
      (Shelf.reliable_after (Shelf.reliable_start hstart) hraises hbefore) hitem hfit

/-- A shelf with a digest on it. -/
def feedingShelf : Shelf (Recorded Session) :=
  Shelf.after (Library.vault .dispatch).services ⟨Shelf.apartWorld, []⟩
    [.run (.digestCreate "digest" "sha-256" 0)]

theorem exists_mem_feedingShelf : ∃ digest, Item.digest digest ∈ feedingShelf.things := by
  have hany : (feedingShelf.things.any (·.holding?.map Prod.snd = some .digest)) = true := by
    decide +kernel
  obtain ⟨item, hitem, hdigest⟩ := List.any_eq_true.mp hany
  cases item with
  | digest digest => exact ⟨digest, hitem⟩
  | _ => simp [Item.holding?] at hdigest

/-- Three bytes are fed out of five, in the library and in a program, and two that are not there. -/
theorem only_windows_are_seen_feedingShelf :
    let vault := Vault.empty.after
      [(Vault.supplyOf 1, .digestAllocate (some (Text.utf8 "sha-256")) 0 true)]
    vault.answer (Vault.supplyOf 1) (.digestFeed 1 (some ⟨[9, 1, 2, 3, 9], 1, 3⟩))
        = vault.answer (Vault.supplyOf 2) (.digestFeed 1 (some ⟨[1, 2, 3], 0, 3⟩))
    ∧ ∃ digest, Item.digest digest ∈ feedingShelf.things
      ∧ (digest.feedRange (Library.vault .dispatch).services [9, 1, 2, 3, 9] 1 3
          feedingShelf.world).2.unnoted
        = (digest.feed (Library.vault .dispatch).services [1, 2, 3] feedingShelf.world).2.unnoted
      ∧ (digest.feedRange (Library.vault .dispatch).services [9, 1, 2, 3, 9] 4 2
          feedingShelf.world).1
        = .error (.failed (.ofCode .inputOutOfRange)) := by
  obtain ⟨hnative, hfeeding, hprograms⟩ := only_windows_are_seen
  refine ⟨(hnative _ _ _ _ _ (.digestFeed 1 (.intro (by decide) (by decide) rfl)) rfl).1, ?_⟩
  obtain ⟨digest, hdigest⟩ := exists_mem_feedingShelf
  have hprepared := hprograms .dispatch .default Shelf.apartSupply Shelf.exampleTurns
    [.run (.digestCreate "digest" "sha-256" 0)] Shelf.apartWorld (.digest digest) rfl
    (by decide) hdigest ⟨by decide +kernel, by decide +kernel⟩
  obtain ⟨hin, -⟩ :=
    hfeeding .dispatch (.digest digest) feedingShelf.world [9, 1, 2, 3, 9] 1 3
  obtain ⟨-, hout⟩ :=
    hfeeding .dispatch (.digest digest) feedingShelf.world [9, 1, 2, 3, 9] 4 2
  exact ⟨digest, hdigest, (hin (by decide) (by decide)).2,
    (hout (by decide) (by decide) (by decide) hprepared).1⟩

end Held

end Custody

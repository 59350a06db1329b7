import Custody.Proofs.Commons.Accounts

/-!
# Operations of a registry in common use

The operations of a registry are done in one go, while a registry in common use makes them in
several moves. Each operation is done by moves that lead to the same registry and tell the caller
the same (`Commons.leads_make`). What holds of every run of moves holds therefore of every program
that uses a registry through its operations, one after the other (`Commons.operations_accounted`).

An operation has several errands where it sweeps, and then they wait in a queue. The moves carry out
the first one that waits, and the others stay as they are (`Commons.leads_carryOut`). `Leads` is
reflexive and transitive, so that an operation of several parts is put together from the moves of
its parts; that the ledger is quiet is used where an errand comes to its end, as nothing else could
burst then.
-/

namespace Custody

/-- An operation on a registry that nobody owns anything in. -/
inductive Operation (ε : Type)
  /-- Makes an action for a handle. -/
  | create (handle : Handle) (effect : ε) (panics : Option String)
  /-- Makes a token. -/
  | token
  /-- Lets a token die. -/
  | kill (token : TokenId)
  /-- Registers an action. -/
  | register (action : ActionId) (label : String) (token : TokenId)
  /-- Disposes of a key with an action. -/
  | disposeNow (key : SlotKey) (action : ActionId)
  /-- Runs an action. -/
  | run (action : ActionId)
  /-- Posts a notice. -/
  | notify (key : SlotKey)
  /-- Waits until the daemon has taken every notice. -/
  | flush
  /-- Asks the daemon for a sweep. -/
  | sweepNow

namespace Operation

variable {ε : Type}

/-- What an operation tells of a release, and the registry after it. -/
def make (registry : Registry ε) : Operation ε → List (Except Abort Bool) × Registry ε
  | create handle effect panics =>
    ([], { registry with ledger := (registry.ledger.addAction handle ⟨effect, panics, none⟩).2 })
  | token => ([], { registry with ledger := registry.ledger.addToken.2 })
  | kill dying => ([], { registry with ledger := registry.ledger.kill dying })
  | register action label alive => ([], Commons.enrol registry action label alive)
  | disposeNow key action =>
    let (released, registry) := registry.disposeNow key action
    ([released], registry)
  | run action =>
    let (attempt, ledger) := registry.ledger.run registry.table.live action
    ([attempt.told], { registry with ledger := ledger })
  | notify key => ([], (registry.notify key).2)
  | flush => ([], registry.flush)
  | sweepNow => ([], registry.sweepNow.2)

/-- What several operations tell of releases, one after the other, and the registry after them. -/
def makeAll (registry : Registry ε) : List (Operation ε) → List (Except Abort Bool) × Registry ε
  | [] => ([], registry)
  | operation :: rest =>
    let (told, registry) := operation.make registry
    let (later, registry) := makeAll registry rest
    (told ++ later, registry)

end Operation

namespace Registry

variable {ε : Type} (registry : Registry ε)

/-- In a quiet ledger the caller is told what came of its attempt. -/
theorem settle_fst (h : registry.ledger.Quiet) (taken : Option Entry) (action : ActionId) :
    (registry.settle taken action).1
      = (registry.ledger.run registry.table.live action).1.told := by
  cases taken with
  | none =>
    cases hrun : (registry.ledger.run registry.table.live action).1 <;>
      simp [settle, hrun, Attempt.told]
  | some entry =>
    have hburst := (h.run registry.table.live action).letGo_fst entry.action
    cases hrun : (registry.ledger.run registry.table.live action).1 <;>
      simp [settle, hrun, hburst, Attempt.told]

end Registry

namespace Commons

variable {ε : Type} {s t u : Commons ε} {registry : Registry ε} {results : List (Except Abort Bool)}

/-! ## Where moves lead -/

/-- Some moves lead from one state of affairs to another. -/
def Leads (s t : Commons ε) : Prop := ∃ moves, s.after moves = t

theorem Leads.refl (s : Commons ε) : s.Leads s := ⟨[], rfl⟩

theorem Leads.trans (h : s.Leads t) (h' : t.Leads u) : s.Leads u := by
  obtain ⟨first, rfl⟩ := h
  obtain ⟨second, rfl⟩ := h'
  exact ⟨first ++ second, after_append s first second⟩

theorem Leads.of_step (move : Move ε) (h : s.step move = t) : s.Leads t := ⟨[move], h⟩

/-- The account stays right on the way. -/
theorem Leads.sound (h : s.Leads t) (hs : s.Sound) : t.Sound := by
  obtain ⟨moves, rfl⟩ := h
  exact hs.after moves

/-! ## Errands in one go -/

/-- A registry in use where nothing is going on but errands that wait. -/
def pending (registry : Registry ε) (waiting : List Errand) (results : List (Except Abort Bool)) :
    Commons ε :=
  ⟨registry, waiting, [], results⟩

/-- The registry after an errand. -/
def carryOut (registry : Registry ε) (errand : Errand) : Registry ε :=
  let tried := registry.ledger.run registry.table.live errand.action
  { registry with
    counters := errand.count registry.counters tried.1
    ledger := match errand.entry? with
      | some entry => (tried.2.letGo entry.action).2
      | none => tried.2 }

/-- **The first errand that waits is carried out** by two moves. -/
theorem leads_carryOut (registry : Registry ε) (errand : Errand) (rest : List Errand)
    (results : List (Except Abort Bool)) : (pending registry (errand :: rest) results).Leads
      (pending (carryOut registry errand) rest (results ++ (errand.result?
        (registry.ledger.run registry.table.live errand.action).1).toList)) := by
  let tried := registry.ledger.run registry.table.live errand.action
  have hattempt : (pending registry (errand :: rest) results).step (.attempt errand)
      = ⟨{ registry with ledger := tried.2 }, rest, [(errand, tried.1)], results⟩ := by
    show (if errand ∈ errand :: rest then _ else _) = _
    rw [if_pos List.mem_cons_self]
    show Commons.mk _ ((errand :: rest).erase errand) _ _ = _
    rw [List.erase_cons_head]
    rfl
  refine (Leads.of_step _ hattempt).trans (Leads.of_step (.finish errand tried.1) ?_)
  show (if (errand, tried.1) ∈ [(errand, tried.1)] then _ else _) = _
  rw [if_pos (List.mem_singleton_self _)]
  show Commons.mk _ _ ([(errand, tried.1)].erase (errand, tried.1)) _ = _
  rw [List.erase_cons_head]
  rfl

theorem carryOut_dispose (registry : Registry ε) (taken : Option Entry) (action : ActionId) :
    carryOut registry (.dispose taken action) = (registry.settle taken action).2 := by
  rw [Registry.settle_snd]
  cases taken <;> cases h : (registry.ledger.run registry.table.live action).1 <;>
    simp [carryOut, h, Errand.count, Errand.entry?, Errand.action]

/-- An entry that is reclaimed is released, and nobody is told. -/
theorem leads_release (registry : Registry ε) (manner : Manner) (entry : Entry) (rest : List Errand)
    (results : List (Except Abort Bool)) :
    (pending registry (.reclaim manner entry :: rest) results).Leads
      (pending (registry.release manner entry).2 rest results) := by
  have h := leads_carryOut registry (.reclaim manner entry) rest results
  rwa [show Errand.result? (.reclaim manner entry) _ = none from rfl, Option.toList_none,
    List.append_nil] at h

/-! ## The daemon -/

/-- Handling a notice. -/
theorem leads_handleNext (h : registry.ledger.Quiet) (results : List (Except Abort Bool)) :
    (pending registry [] results).Leads (pending registry.handleNext [] results) := by
  have hnotice : (pending registry [] results).step .notice = pending registry.takeNotice.2
      (registry.takeNotice.1.toList.map (.reclaim .notice)) results :=
    congrArg (pending registry.takeNotice.2 · results) (List.append_nil _)
  refine (Leads.of_step _ hnotice).trans ?_
  have hquiet : registry.takeNotice.2.ledger.Quiet := by rwa [registry.takeNotice_ledger]
  unfold Registry.handleNext
  cases htaken : registry.takeNotice with
  | mk taken after =>
    rw [htaken] at hquiet
    cases taken with
    | none => exact Leads.refl _
    | some entry =>
      dsimp only
      rw [after.release_of_quiet hquiet]
      exact leads_release after .notice entry [] results

/-- Handling several notices. -/
theorem leads_handleUpTo (n : Nat) (h : (pending registry [] results).Sound) :
    (pending registry [] results).Leads (pending (registry.handleUpTo n) [] results) := by
  induction n generalizing registry with
  | zero => exact Leads.refl _
  | succ n ih =>
    have hnext := leads_handleNext h.quiet results
    exact hnext.trans (ih (hnext.sound h))

/-- Releasing entries that have been gathered. No release function panics when it is destroyed, so
that none of them is lost. -/
theorem leads_releaseAll (entries : List Entry)
    (h : (pending registry (entries.map (.reclaim .sweep)) results).Sound) :
    (pending registry (entries.map (.reclaim .sweep)) results).Leads
        (pending (registry.releaseAll entries).2 [] results)
      ∧ (registry.releaseAll entries).1 = none := by
  induction entries generalizing registry with
  | nil => exact ⟨Leads.refl _, rfl⟩
  | cons entry entries ih =>
    have hfirst := leads_release registry .sweep entry (entries.map (.reclaim .sweep)) results
    obtain ⟨hrest, hburst⟩ := ih (hfirst.sound h)
    rw [Registry.releaseAll, registry.release_of_quiet h.quiet]
    exact ⟨hfirst.trans hrest, hburst⟩

/-- A sweep. -/
theorem leads_sweep (h : (pending registry [] results).Sound) :
    ∃ count after, registry.sweep = (count, none, after)
      ∧ (pending registry [] results).Leads (pending after [] results) := by
  have hgather : (pending registry [] results).step .sweep
      = pending registry.gather.2 (registry.gather.1.map (.reclaim .sweep)) results :=
    congrArg (pending registry.gather.2 · results) (List.append_nil _)
  have hgathered := Leads.of_step _ hgather
  obtain ⟨hreleased, hburst⟩ := leads_releaseAll _ (hgathered.sound h)
  refine ⟨registry.gather.1.length, _, ?_, hgathered.trans hreleased⟩
  show (_, (registry.gather.2.releaseAll registry.gather.1).1, _) = _
  rw [hburst]
  rfl

theorem leads_sweepNow (h : (pending registry [] results).Sound) :
    (pending registry [] results).Leads (pending registry.sweepNow.2 [] results) := by
  have hflushed : (pending registry [] results).Leads (pending registry.flush [] results) :=
    leads_handleUpTo registry.notices.length h
  obtain ⟨count, after, hsweep, hswept⟩ := leads_sweep (hflushed.sound h)
  have hdaemon : registry.daemon = true := h.daemon
  have hdaemon' : registry.flush.daemon = true := (hflushed.sound h).daemon
  have hnow : registry.sweepNow = (.ok count, after) := by
    unfold Registry.sweepNow
    rw [if_pos hdaemon]
    dsimp only
    rw [if_pos hdaemon', hsweep]
  rw [hnow]
  exact hflushed.trans hswept

/-! ## Operations -/

/-- **An operation is done by moves** that lead to the same registry and tell the same. -/
theorem leads_make (h : (pending registry [] results).Sound) (operation : Operation ε) :
    (pending registry [] results).Leads (pending (operation.make registry).2 []
      (results ++ (operation.make registry).1)) := by
  cases operation with
  | create handle effect panics =>
    exact Leads.of_step (.create handle effect panics) (congrArg _ (List.append_nil _).symm)
  | token => exact Leads.of_step .token (congrArg _ (List.append_nil _).symm)
  | kill dying => exact Leads.of_step (.kill dying) (congrArg _ (List.append_nil _).symm)
  | register action label alive =>
    exact Leads.of_step (.register action label alive) (congrArg _ (List.append_nil _).symm)
  | notify key => exact Leads.of_step (.notify key) (congrArg _ (List.append_nil _).symm)
  | disposeNow key action =>
    -- The entry leaves the table in a move of its own; the errand that it leaves is carried out.
    have hbegun : (pending registry [] results).step (.dispose key action)
        = pending (registry.withdraw key).2 [.dispose (registry.withdraw key).1 action] results :=
      rfl
    have hquiet : (registry.withdraw key).2.ledger.Quiet := by
      rw [registry.withdraw_ledger key]
      exact h.quiet
    have hcarried := leads_carryOut (registry.withdraw key).2
      (.dispose (registry.withdraw key).1 action) [] results
    rw [carryOut_dispose] at hcarried
    have htold : (registry.disposeNow key action).1 = Attempt.told _ :=
      (registry.withdraw key).2.settle_fst hquiet (registry.withdraw key).1 action
    show (pending registry [] results).Leads (pending (registry.disposeNow key action).2 []
      (results ++ [(registry.disposeNow key action).1]))
    rw [htold]
    exact (Leads.of_step _ hbegun).trans hcarried
  | run action =>
    have hbegun : (pending registry [] results).step (.run action)
        = pending registry [.run action] results := rfl
    exact (Leads.of_step _ hbegun).trans (leads_carryOut registry (.run action) [] results)
  | flush =>
    show (pending registry [] results).Leads (pending registry.flush [] (results ++ []))
    rw [List.append_nil]
    exact leads_handleUpTo registry.notices.length h
  | sweepNow =>
    show (pending registry [] results).Leads (pending registry.sweepNow.2 [] (results ++ []))
    rw [List.append_nil]
    exact leads_sweepNow h

/-- Several operations, one after the other. -/
theorem leads_makeAll (operations : List (Operation ε)) (h : (pending registry [] results).Sound) :
    (pending registry [] results).Leads (pending (Operation.makeAll registry operations).2 []
      (results ++ (Operation.makeAll registry operations).1)) := by
  induction operations generalizing registry results with
  | nil =>
    show (pending registry [] results).Leads (pending registry [] (results ++ []))
    rw [List.append_nil]
    exact Leads.refl _
  | cons operation operations ih =>
    have hfirst := leads_make h operation
    have hrest := ih (hfirst.sound h)
    rw [List.append_assoc] at hrest
    exact hfirst.trans hrest

/-- **A program that uses a registry through its operations** accounts for every release: each
release function is entered once at most, and each entry was told to a caller, counted by the
daemon, or panicked out of the operation that made it. -/
theorem operations_accounted (operations : List (Operation ε)) :
    let made := Operation.makeAll (.empty : Registry ε) operations
    (∀ id, made.2.ledger.timesEntered id ≤ 1)
      ∧ made.2.ledger.entered.length = made.1.countP tellsTrue + made.2.counters.reclaimed
        + made.2.counters.swept + made.2.counters.failed + made.1.countP tellsPanic := by
  have hstart : (pending (.empty : Registry ε) [] []).Sound := sound_start
  have h := (leads_makeAll operations hstart).sound hstart
  refine ⟨fun id => ?_, ?_⟩
  · exact Nat.le_trans (Nat.le_of_eq (h.tallied id)) (Bool.toNat_le _)
  · have hbalanced := h.balanced
    simp only [shown, inProgress, Counters.byDaemon, pending, List.countP_nil,
      List.nil_append] at hbalanced
    omega

end Commons

end Custody

import Custody.Proofs.Commons.Basic

/-!
# Every release is accounted for

However a registry is used, each release function is entered once at most, and each entry into one
shows up in one place: a caller was told `true`, or the daemon counted it as reclaimed, swept or
failed, or it panicked out of the call that made it, or it has not come to its end yet
(`Commons.releases_accounted`).

An entry is counted in two moves, the attempt that makes it and the end of the errand. Between the
two it is in progress (`Commons.inProgress`), so that each move keeps the two sides of the account
equal.

The account is kept along one list, that of the entries into release functions in the order in which
they came to. An errand that is under way stands on the list already and in no counter yet, so that
the sum can only be right if what is in progress is a term of it (`Commons.Sound`). An attempt on an
action that somebody has entered before adds nothing to the list, and its errand ends by telling
`false`. The moves that concern neither the list nor the counters are dispatched together
(`Sound.of_idle`).
-/

namespace Custody

/-- Whether an attempt entered the release function. -/
def Attempt.enters : Attempt → Bool
  | .spent => false
  | .released | .panicked _ => true

/-- The entries into release functions that the daemon has counted. -/
def Counters.byDaemon (counters : Counters) : Nat :=
  counters.reclaimed + counters.swept + counters.failed

/-- A reclamation is counted where it enters the release function. -/
theorem Counters.byDaemon_note (counters : Counters) (manner : Manner) (attempt : Attempt) :
    (counters.note manner attempt).byDaemon = counters.byDaemon + attempt.enters.toNat := by
  cases attempt with
  | spent => rfl
  | panicked message => rfl
  | released =>
    cases manner with
    | notice =>
      show counters.reclaimed + 1 + counters.swept + counters.failed = counters.byDaemon + 1
      unfold byDaemon
      omega
    | sweep =>
      show counters.reclaimed + (counters.swept + 1) + counters.failed = counters.byDaemon + 1
      unfold byDaemon
      omega

/-- **An attempt shows among the entries** where it enters the release function. -/
theorem Ledger.length_entered_run {ε : Type} (ledger : Ledger ε) (live : List Address)
    (id : ActionId) : (ledger.run live id).2.entered.length
      = ledger.entered.length + (ledger.run live id).1.enters.toNat := by
  unfold run
  cases ledger.actions[id]? with
  | none => rfl
  | some action =>
    cases hdone : action.completed with
    | true => simp [hdone, Attempt.enters]
    | false => cases hpanics : action.release.panics <;> simp [hdone, hpanics, Attempt.enters]

namespace Commons

variable {ε : Type} {s t : Commons ε}

/-! ## The account -/

/-- Whether a caller was told that it released the handle. -/
def tellsTrue : Except Abort Bool → Bool
  | .ok truth => truth
  | .error _ => false

/-- Whether the release function panicked out of a call. -/
def tellsPanic : Except Abort Bool → Bool
  | .error (.panicked _) => true
  | _ => false

/-- The number of release functions that have been entered and are not at their end. -/
def inProgress (s : Commons ε) : Nat := s.underway.countP (·.2.enters)

/-- The entries into release functions that have shown up somewhere. -/
def shown (s : Commons ε) : Nat :=
  s.results.countP tellsTrue + s.results.countP tellsPanic + s.registry.counters.byDaemon

/-- **An account that is right.** -/
structure Sound (s : Commons ε) : Prop where
  /-- The daemon runs. -/
  daemon : s.registry.daemon = true
  /-- No release function panics when it is destroyed. -/
  quiet : s.registry.ledger.Quiet
  /-- Every release function was entered once if its action is done, and never otherwise. -/
  tallied : s.registry.ledger.Tallied
  /-- Each entry into a release function has shown up or is in progress. -/
  balanced : s.registry.ledger.entered.length = s.shown + s.inProgress

theorem sound_start : (start : Commons ε).Sound :=
  ⟨rfl, Ledger.quiet_empty, Ledger.tallied_empty, rfl⟩

/-! ## Errands -/

/-- A caller is told of the release function that its attempt entered. -/
theorem tells_told (results : List (Except Abort Bool)) (attempt : Attempt) :
    (results ++ [attempt.told]).countP tellsTrue + (results ++ [attempt.told]).countP tellsPanic
      = results.countP tellsTrue + results.countP tellsPanic + attempt.enters.toNat := by
  rw [List.countP_append, List.countP_append]
  cases attempt with
  | spent => rfl
  | released => exact Nat.add_right_comm ..
  | panicked message => exact (Nat.add_assoc ..).symm

/-- Only a reclamation is counted by the daemon. -/
theorem byDaemon_count (counters : Counters) (errand : Errand) (attempt : Attempt)
    (h : errand.result? attempt = some attempt.told) :
    (errand.count counters attempt).byDaemon = counters.byDaemon := by
  cases errand with
  | reclaim manner entry => cases h
  | run action => rfl
  | dispose taken action => cases attempt <;> rfl

/-- **An errand shows what it entered** when it comes to its end. -/
theorem shown_finish (s : Commons ε) (errand : Errand) (attempt : Attempt) :
    (s.finish errand attempt).shown = s.shown + attempt.enters.toNat := by
  show (s.results ++ (errand.result? attempt).toList).countP tellsTrue
    + (s.results ++ (errand.result? attempt).toList).countP tellsPanic
    + (errand.count s.registry.counters attempt).byDaemon = _
  have hcaller : errand.result? attempt = some attempt.told →
      (s.results ++ (errand.result? attempt).toList).countP tellsTrue
        + (s.results ++ (errand.result? attempt).toList).countP tellsPanic
        + (errand.count s.registry.counters attempt).byDaemon
      = s.shown + attempt.enters.toNat := fun h => by
    rw [byDaemon_count _ errand attempt h, h, Option.toList_some, tells_told]
    exact Nat.add_right_comm ..
  cases errand with
  | reclaim manner entry =>
    show (s.results ++ []).countP tellsTrue + (s.results ++ []).countP tellsPanic
      + (s.registry.counters.note manner attempt).byDaemon = _
    rw [List.append_nil, Counters.byDaemon_note, ← Nat.add_assoc]
    rfl
  | run action => exact hcaller rfl
  | dispose taken action => exact hcaller rfl

/-- What is in progress comes to its end. -/
theorem inProgress_finish {errand : Errand} {attempt : Attempt}
    (h : (errand, attempt) ∈ s.underway) :
    (s.finish errand attempt).inProgress + attempt.enters.toNat = s.inProgress := by
  show (s.underway.erase (errand, attempt)).countP _ + _ = s.underway.countP _
  rw [(List.perm_cons_erase h).countP_eq, List.countP_cons]
  cases attempt with
  | spent => rfl
  | released => rfl
  | panicked message => rfl

theorem Sound.attempt (h : s.Sound) (errand : Errand) : (s.attempt errand).Sound where
  daemon := h.daemon
  quiet := h.quiet.run s.registry.table.live errand.action
  tallied := h.tallied.run s.registry.table.live errand.action
  balanced := by
    show (s.registry.ledger.run s.registry.table.live errand.action).2.entered.length
      = s.shown + ((errand, _) :: s.underway).countP _
    rw [Ledger.length_entered_run, h.balanced, List.countP_cons, inProgress, ← Nat.add_assoc]
    cases (s.registry.ledger.run s.registry.table.live errand.action).1 with
    | spent => rfl
    | released => rfl
    | panicked message => rfl

theorem Sound.finish (h : s.Sound) {errand : Errand} {attempt : Attempt}
    (hmem : (errand, attempt) ∈ s.underway) : (s.finish errand attempt).Sound := by
  have hbalanced : s.registry.ledger.entered.length
      = (s.finish errand attempt).shown + (s.finish errand attempt).inProgress := by
    rw [shown_finish, h.balanced, ← inProgress_finish hmem]
    omega
  cases hentry : errand.entry? with
  | none =>
    have hledger : (s.finish errand attempt).registry.ledger = s.registry.ledger := by
      unfold Commons.finish
      rw [hentry]
    exact ⟨h.daemon, hledger ▸ h.quiet, hledger ▸ h.tallied, hledger ▸ hbalanced⟩
  | some entry =>
    have hledger : (s.finish errand attempt).registry.ledger
        = (s.registry.ledger.letGo entry.action).2 := by
      unfold Commons.finish
      rw [hentry]
    refine ⟨h.daemon, hledger ▸ h.quiet.letGo entry.action, ?_, ?_⟩
    · rw [hledger]
      exact h.tallied.of_views (Ledger.entered_letGo _ _) (Ledger.isCompleted_letGo _ _)
    · rw [hledger, Ledger.entered_letGo]
      exact hbalanced

/-! ## Moves that enter nothing -/

/-- A ledger in which nothing has been entered since, and which stays quiet. -/
structure Idle (ledger ledger' : Ledger ε) : Prop where
  /-- The same was entered. -/
  entered : ledger'.entered = ledger.entered
  /-- The same is done. -/
  done : ∀ id, ledger'.isCompleted id = ledger.isCompleted id
  /-- It is quiet if it was. -/
  quiet : ledger.Quiet → ledger'.Quiet

theorem Idle.refl (ledger : Ledger ε) : Idle ledger ledger := ⟨rfl, fun _ => rfl, id⟩

/-- A ledger that is left alone. -/
theorem Idle.of_eq {ledger ledger' : Ledger ε} (h : ledger' = ledger) : Idle ledger ledger' := by
  rw [h]
  exact Idle.refl ledger

/-- A move on the ledger or the table that enters nothing. -/
theorem Sound.of_idle (h : s.Sound) (hledger : Idle s.registry.ledger t.registry.ledger)
    (hdaemon : t.registry.daemon = s.registry.daemon)
    (hcounters : t.registry.counters.byDaemon = s.registry.counters.byDaemon)
    (hresults : t.results = s.results) (hunderway : t.underway = s.underway) : t.Sound where
  daemon := hdaemon.trans h.daemon
  quiet := hledger.quiet h.quiet
  tallied := h.tallied.of_views hledger.entered hledger.done
  balanced := by
    rw [hledger.entered, h.balanced, shown, shown, inProgress, inProgress, hcounters, hresults,
      hunderway]

theorem idle_addAction (ledger : Ledger ε) (handle : Handle) (effect : ε) (panics : Option String) :
    Idle ledger (ledger.addAction handle ⟨effect, panics, none⟩).2 where
  entered := rfl
  done := ledger.isCompleted_addAction handle _
  quiet hquiet id release hrelease := by
    rw [Ledger.releaseOf?_addAction] at hrelease
    split at hrelease
    · cases hrelease
      rfl
    · exact hquiet id release hrelease

/-- Registering an action enters nothing. -/
theorem idle_enrol (registry : Registry ε) (action : ActionId) (label : String) (token : TokenId) :
    Idle registry.ledger (enrol registry action label token).ledger
      ∧ (enrol registry action label token).daemon = registry.daemon
      ∧ (enrol registry action label token).counters.byDaemon = registry.counters.byDaemon := by
  unfold enrol
  cases registry.ledger.handleOf? action with
  | none => exact ⟨Idle.refl _, rfl, rfl⟩
  | some handle =>
    dsimp only
    unfold Registry.register
    cases registry.table.insert ⟨action, handle, label, token⟩ with
    | error failure => exact ⟨Idle.refl _, rfl, rfl⟩
    | ok made =>
      refine ⟨⟨rfl, registry.ledger.isCompleted_hold action, fun hquiet id release hrelease => ?_⟩,
        rfl, rfl⟩
      exact hquiet id release (by rwa [← registry.ledger.releaseOf?_hold action])

/-! ## Runs -/

/-- **Every move keeps the account right.** -/
theorem Sound.step (h : s.Sound) (move : Move ε) : (s.step move).Sound := by
  -- Only an attempt and its end have a part in the account; the other moves leave it alone.
  cases move with
  | create handle effect panics =>
    exact h.of_idle (idle_addAction _ handle effect panics) rfl rfl rfl rfl
  | token => exact h.of_idle ⟨rfl, fun _ => rfl, id⟩ rfl rfl rfl rfl
  | kill token => exact h.of_idle ⟨rfl, fun _ => rfl, id⟩ rfl rfl rfl rfl
  | register action label token =>
    obtain ⟨hledger, hdaemon, hcounters⟩ := idle_enrol s.registry action label token
    exact h.of_idle hledger hdaemon hcounters rfl rfl
  | dispose key action =>
    have hcounters := congrArg Counters.byDaemon (s.registry.withdraw_counters key)
    exact h.of_idle (.of_eq (s.registry.withdraw_ledger key)) (s.registry.withdraw_daemon key)
      hcounters rfl rfl
  | run action => exact h.of_idle (Idle.refl _) rfl rfl rfl rfl
  | notify key =>
    have hnotify := s.registry.notify_of_daemon h.daemon key
    exact h.of_idle (.of_eq (congrArg (·.2.ledger) hnotify)) (congrArg (·.2.daemon) hnotify)
      (congrArg (·.2.counters.byDaemon) hnotify) rfl rfl
  | notice =>
    have hcounters := congrArg Counters.byDaemon s.registry.takeNotice_counters
    exact h.of_idle (.of_eq s.registry.takeNotice_ledger) s.registry.takeNotice_daemon hcounters
      rfl rfl
  | sweep => exact h.of_idle (Idle.refl _) rfl rfl rfl rfl
  | attempt errand =>
    show Sound (if _ then _ else _)
    split
    · exact h.attempt errand
    · exact h
  | finish errand attempt =>
    show Sound (if _ then _ else _)
    split
    · rename_i hmem
      exact h.finish hmem
    · exact h

theorem Sound.after (h : s.Sound) (moves : List (Move ε)) : (s.after moves).Sound := by
  induction moves generalizing s with
  | nil => exact h
  | cons move moves ih => exact ih (h.step move)

/-- **Every release is accounted for**, whatever the callers and the daemon do and in whatever order
their moves come. -/
theorem releases_accounted (moves : List (Move ε)) : let s := run moves
    (∀ id, s.registry.ledger.timesEntered id ≤ 1)
      ∧ s.registry.ledger.entered.length = s.results.countP tellsTrue
        + s.registry.counters.reclaimed + s.registry.counters.swept + s.registry.counters.failed
        + s.results.countP tellsPanic + s.inProgress := by
  have h : (run moves).Sound := sound_start.after moves
  refine ⟨fun id => ?_, ?_⟩
  · rw [h.tallied id]
    exact Bool.toNat_le _
  · rw [h.balanced, shown, Counters.byDaemon]
    omega

end Commons

end Custody

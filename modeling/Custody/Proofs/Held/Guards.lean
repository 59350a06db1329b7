import Custody.Proofs.Held.Blameless
import Custody.Proofs.Held.Unswitched

/-!
# Guards of one fault

A guard raises its fault when it comes and clears it when it goes. The library keeps one bit for
each fault and does not count who has raised it. So with several guards of one fault at a time,
the first of them to go clears the fault for all of them
(`Shelf.fault_cleared_under_a_guard`).

In a program that sets faults by guards only, the calls that set a fault are a ballot: no guard
goes that has not come (`Shelf.Tallied`). Every step of a program keeps that up, with as many
guards at hand as have come and not gone. It follows what the bit is worth
(`Shelf.guards_share_a_fault`): a raised fault always has a guard, and every guard has its fault
raised if and only if no guard ever goes while there is another one of the same fault.

That the tally is kept is proved along the operations, as the stake of a shelf is, but a world need
not grow for it. Operations that have nothing to do with guards are dealt with at once, by the view
of the shelf that shows its things and the calls that set faults (`Shelf.showing`).
-/

namespace Custody.Held

variable {α β : Type}

/-! ## Ballots -/

/-- **A ballot**: at no point of it have more guards gone than come. -/
def Ballot (switches : List Bool) : Prop :=
  ∀ before, before <+: switches → before.count false ≤ before.count true

namespace Ballot

variable {switches : List Bool}

theorem snoc (h : Ballot switches) {on : Bool}
    (hcount : (switches ++ [on]).count false ≤ (switches ++ [on]).count true) :
    Ballot (switches ++ [on]) := fun before hbefore => by
  rcases List.prefix_concat_iff.mp hbefore with rfl | hbefore
  · exact hcount
  · exact h before hbefore

end Ballot

/-- **A tally**: a ballot after which so many guards are left. -/
structure Tally (switches : List Bool) (left : Nat) : Prop where
  /-- No guard has gone that had not come. -/
  ballot : Ballot switches
  /-- The guards that have come have gone or are left. -/
  count : switches.count true = switches.count false + left

namespace Tally

variable {switches : List Bool} {left : Nat}

theorem nil : Tally [] 0 where
  ballot before h := by
    obtain rfl := List.prefix_nil.mp h
    exact Nat.le_refl 0
  count := rfl

theorem raise (h : Tally switches left) : Tally (switches ++ [true]) (left + 1) := by
  have hcame : (switches ++ [true]).count true = switches.count true + 1 := by simp
  have hgone : (switches ++ [true]).count false = switches.count false := by simp
  have hcount := h.count
  exact ⟨h.ballot.snoc (by omega), by omega⟩

theorem clear (h : Tally switches (left + 1)) : Tally (switches ++ [false]) left := by
  have hcame : (switches ++ [false]).count true = switches.count true := by simp
  have hgone : (switches ++ [false]).count false = switches.count false + 1 := by simp
  have hcount := h.count
  exact ⟨h.ballot.snoc (by omega), by omega⟩

end Tally

/-! ## Raising and clearing -/

section Vault

variable (kind : BackendKind)

/-- **Setting a fault** succeeds, and makes two calls. -/
theorem setFault_eq (flag : FaultFlag) (on : Bool) (recorded : Recorded Session) :
    (Library.vault kind).backend.recorded.setFault flag on recorded
      = (.ok (), (Library.vault kind).afterAll recorded
          [.faultsAvailable, .faultSet flag.number (if on then 1 else 0)]) := by
  have havailable : Act.ofState (Library.vault kind).backend.recorded.faultsAvailable recorded
      = (.ok true, (Library.vault kind).after recorded .faultsAvailable) := rfl
  have hset (asked : Recorded Session) : Act.ofState ((Library.vault kind).backend.recorded.submit
        (.faultSet flag.number (if on then 1 else 0))) asked
      = (.ok (.bare 0), (Library.vault kind).after asked
          (.faultSet flag.number (if on then 1 else 0))) := by
    show (Except.ok (asked.state.vault.answer _ _).1, _) = _
    rw [Vault.answer_of_ok (Vault.verdict_faultSet _ _ _ _)]
    rfl
  rw [Backend.setFault, Act.bind_of_ok havailable, if_pos rfl, Act.bind_of_ok (hset _)]
  rfl

/-- It sets that fault only. -/
theorem switches_setFault (flag : FaultFlag) (on : Bool) (recorded : Recorded Session)
    (other : FaultFlag) :
    ((Library.vault kind).backend.recorded.setFault flag on recorded).2.switches other
      = recorded.switches other ++ if flag = other then [on] else [] := by
  have hsets : ((Call.faultSet flag.number (if on then 1 else 0)).sets? other).toList
      = if flag = other then [on] else [] := by
    rw [Call.sets?_faultSet, FaultFlag.ofNumber?_number]
    by_cases heq : flag = other
    · rw [if_pos (congrArg some heq), if_pos heq]
      cases on <;> rfl
    · rw [if_neg fun h => heq (Option.some.inj h), if_neg heq]
      rfl
  have havailable : ((Library.vault kind).after recorded .faultsAvailable).switches other
      = recorded.switches other := (switches_snoc ..).trans (List.append_nil _)
  rw [setFault_eq, ← hsets, ← havailable]
  exact switches_snoc ..

/-- Setting a fault in a world, where the daemon may act before. -/
theorem ask_setFault (flag : FaultFlag) (on : Bool) (world : World (Recorded Session)) :
    let asked := ask (Library.vault kind).services
      ((Library.vault kind).backend.recorded.setFault flag on) world
    asked.1 = .ok () ∧ ∀ other, asked.2.switches other
      = world.switches other ++ if flag = other then [on] else [] := by
  have hpause : World.switches (World.pause (Library.vault kind).services world).2
      = world.switches := preserves_pause world
  rw [ask, native_eq, ← hpause]
  exact ⟨congrArg Prod.fst (setFault_eq kind flag on _), switches_setFault kind flag on _⟩

namespace Guard

/-- **A guard raises its fault when it comes.** -/
theorem raise_vault (flag : FaultFlag) (world : World (Recorded Session)) :
    let raised := raise (Library.vault kind).services flag world
    raised.1 = .ok ⟨flag⟩ ∧ ∀ other, raised.2.switches other
      = world.switches other ++ if flag = other then [true] else [] := by
  let required := (requireFaults (Library.vault kind).services world).2
  have hrequired : requireFaults (Library.vault kind).services world = (.ok (), required) := rfl
  have hswitches : required.switches = world.switches := preserves_requireFaults world
  obtain ⟨hok, hset⟩ := ask_setFault kind flag true required
  have hraise : raise (Library.vault kind).services flag world = (.ok ⟨flag⟩,
      (ask (Library.vault kind).services
        ((Library.vault kind).backend.recorded.setFault flag true) required).2) := by
    have hask : ask (Library.vault kind).services
      ((Library.vault kind).backend.recorded.setFault flag true) required = (.ok (), _) :=
        Prod.ext hok rfl
    have hsetFault : setFault (Library.vault kind).services flag true world = (.ok (), _) :=
      (Act.bind_of_ok hrequired).trans hask
    exact Act.bind_of_ok hsetFault
  rw [← hswitches, hraise]
  exact ⟨rfl, hset⟩

/-- **A guard clears its fault when it goes.** -/
theorem clear_vault (guard : Guard) (world : World (Recorded Session)) :
    let cleared := guard.clear (Library.vault kind).services world
    cleared.1 = .ok () ∧ ∀ other, cleared.2.switches other
      = world.switches other ++ if guard.flag = other then [false] else [] := by
  obtain ⟨hok, hset⟩ := ask_setFault kind guard.flag false world
  have hclear : guard.clear (Library.vault kind).services world = (.ok (),
      (ask (Library.vault kind).services
        ((Library.vault kind).backend.recorded.setFault guard.flag false) world).2) := by
    have hask : ask (Library.vault kind).services
      ((Library.vault kind).services.faults.setFault guard.flag false) world = (.ok (), _) :=
        Prod.ext hok rfl
    rw [clear, hask]
    rfl
  rw [hclear]
  exact ⟨rfl, hset⟩

end Guard

end Vault

/-! ## The tally of a shelf -/

/-- Whether an operation may set a fault without a guard. -/
def Operation.bare : Operation → Bool
  | faultSet _ _ | faultsReset => true
  | _ => false

/-- Whether a thing is a guard of a fault. -/
def Item.guards (flag : FaultFlag) : Item → Bool
  | guard g => g.flag = flag
  | _ => false

/-- The guards of a fault among some things. -/
def guardCount (flag : FaultFlag) (things : List Item) : Nat := things.countP (·.guards flag)

namespace Shelf

/-- **A shelf whose guards are the ones that have come and not gone**, with some more things that
are not on it. -/
structure Tallied (extra : List Item) (shelf : Shelf (Recorded Session)) : Prop where
  /-- A name is given to one thing at a time. -/
  nodup : (shelf.items.map Prod.fst).Nodup
  /-- The guards of a fault that are left are these. -/
  tally : ∀ flag, Tally (shelf.world.switches flag) (guardCount flag (extra ++ shelf.things))

/-- What a tally depends on: the things on the shelf and the calls that set faults. -/
abbrev showing {σ : Type} (shelf : Shelf (Recorded σ)) :
    List (String × Item) × (FaultFlag → List Bool) := (shelf.items, shelf.world.switches)

section Tallied

variable {shelf shelf' : Shelf (Recorded Session)} {extra : List Item}
  {world : World (Recorded Session)}

theorem Tallied.of_showing (h : Tallied extra shelf) (hshows : showing shelf' = showing shelf) :
    Tallied extra shelf' := by
  obtain ⟨hitems, hswitches⟩ := Prod.mk.inj hshows
  refine ⟨hitems ▸ h.nodup, fun flag => ?_⟩
  rw [hswitches, things, hitems]
  exact h.tally flag

theorem guardCount_cons (flag : FaultFlag) (item : Item) (things : List Item) :
    guardCount flag (item :: things)
      = guardCount flag things + if item.guards flag then 1 else 0 := List.countP_cons

/-- A thing that is no guard has no part in a tally. -/
theorem tallied_cons_iff {item : Item} (h : ∀ flag, item.guards flag = false) :
    Tallied (item :: extra) shelf ↔ Tallied extra shelf := by
  have hcount (flag : FaultFlag) : guardCount flag (item :: extra ++ shelf.things)
      = guardCount flag (extra ++ shelf.things) := by
    rw [List.cons_append, guardCount_cons, h flag, if_neg Bool.false_ne_true, Nat.add_zero]
  exact ⟨fun ht => ⟨ht.nodup, fun flag => hcount flag ▸ ht.tally flag⟩,
    fun ht => ⟨ht.nodup, fun flag => (hcount flag).symm ▸ ht.tally flag⟩⟩

/-- A guard comes. -/
theorem Tallied.raised (h : Tallied extra shelf) {flag : FaultFlag}
    (hworld : ∀ other, world.switches other
      = shelf.world.switches other ++ if flag = other then [true] else []) :
    Tallied (.guard ⟨flag⟩ :: extra) { shelf with world := world } := by
  refine ⟨h.nodup, fun other => ?_⟩
  show Tally (world.switches other) (guardCount other (.guard ⟨flag⟩ :: (extra ++ shelf.things)))
  rw [guardCount_cons, hworld, Item.guards]
  by_cases heq : flag = other
  · rw [if_pos heq, if_pos (decide_eq_true heq)]
    exact (h.tally other).raise
  · rw [if_neg heq, List.append_nil, if_neg (by simpa using heq)]
    exact h.tally other

/-- A guard goes. -/
theorem Tallied.cleared {guard : Guard} (h : Tallied (.guard guard :: extra) shelf)
    (hworld : ∀ other, world.switches other
      = shelf.world.switches other ++ if guard.flag = other then [false] else []) :
    Tallied extra { shelf with world := world } := by
  refine ⟨h.nodup, fun other => ?_⟩
  show Tally (world.switches other) (guardCount other (extra ++ shelf.things))
  have htally := h.tally other
  rw [List.cons_append, guardCount_cons, Item.guards] at htally
  rw [hworld]
  by_cases heq : guard.flag = other
  · rw [if_pos (decide_eq_true heq)] at htally
    rw [if_pos heq]
    exact htally.clear
  · rw [if_neg (by simpa using heq)] at htally
    rw [if_neg heq, List.append_nil]
    exact htally

end Tallied

/-! ## Steps on a shelf -/

section Shown

open Preserves

variable {σ : Type} {library : Library σ}

theorem preserves_work {act : Work (Recorded σ) α} (h : Preserves World.switches act) :
    Preserves showing (work act) := fun shelf => congrArg (Prod.mk shelf.items) (h shelf.world)

theorem preserves_missing : Preserves showing (missing : Step (Recorded σ) α) := fun _ => rfl

theorem preserves_get :
    Preserves showing (MonadState.get : Step (Recorded σ) (Shelf (Recorded σ))) := fun _ => rfl

theorem preserves_item (name : String) :
    Preserves showing (item name : Step (Recorded σ) Item) := by
  intro shelf
  unfold item
  split <;> rfl

theorem preserves_digest (name : String) :
    Preserves showing (digest name : Step (Recorded σ) Digest) := by
  refine andThen (preserves_item name) fun found => ?_
  split
  · exact pure _
  · exact preserves_missing

theorem preserves_key (name : String) :
    Preserves showing (key name : Step (Recorded σ) KeySpec) := by
  refine andThen (preserves_item name) fun found => ?_
  split
  · exact pure _
  · exact preserves_missing

theorem preserves_signer (name : String) :
    Preserves showing (signer name : Step (Recorded σ) Signer) := by
  refine andThen (preserves_item name) fun found => ?_
  split
  · exact pure _
  · exact preserves_missing

theorem preserves_verifier (name : String) :
    Preserves showing (verifier name : Step (Recorded σ) Verifier) := by
  refine andThen (preserves_item name) fun found => ?_
  split
  · exact pure _
  · exact preserves_missing

/-- An operation that answers with what work has found. -/
theorem preserves_answers {act : Work (Recorded σ) α} (h : Preserves World.switches act)
    (answer : α → Answer) :
    Preserves showing (work act >>= fun a => Pure.pure (answer a) : Step (Recorded σ) Answer) :=
  andThen (preserves_work h) fun _ => pure _

theorem preserves_debugItem (found : Item) :
    Preserves showing (debugItem found : Step (Recorded σ) Answer) := by
  refine andThen preserves_get fun shelf => ?_
  cases found with
  | guard g => exact preserves_missing
  | _ => exact pure _

end Shown

variable {kind : BackendKind} {pre : Shelf (Recorded Session) → Prop}

/-- **A step from shelves with one property to shelves with another.** After a setback the guards
are at least accounted for. -/
def Tallies (pre : Shelf (Recorded Session) → Prop) (step : Step (Recorded Session) α)
    (post : α → Shelf (Recorded Session) → Prop) : Prop :=
  ∀ shelf, pre shelf →
    match (step shelf).1 with
    | .ok a => post a (step shelf).2
    | .error _ => Tallied [] (step shelf).2

namespace Tallies

theorem bind {step : Step (Recorded Session) α} {rest : α → Step (Recorded Session) β}
    {mid : α → Shelf (Recorded Session) → Prop} {post : β → Shelf (Recorded Session) → Prop}
    (h : Tallies pre step mid) (hrest : ∀ a, Tallies (mid a) (rest a) post) :
    Tallies pre (step >>= rest) post := by
  intro shelf hpre
  have hstep := h shelf hpre
  cases heq : step shelf with
  | mk result after =>
    rw [heq] at hstep
    cases result with
    | ok a =>
      rw [Act.bind_of_ok heq]
      exact hrest a after hstep
    | error setback =>
      rw [Act.bind_of_error heq]
      exact hstep

/-- A step that shows the same afterwards. -/
theorem of_preserves {step : Step (Recorded Session) α} (h : Preserves showing step) :
    Tallies (Tallied []) step fun _ => Tallied [] := by
  intro shelf hshelf
  have hafter := hshelf.of_showing (h shelf)
  split
  · exact hafter
  · exact hafter

/-- An operation that answers with what a step has found. -/
theorem answers {step : Step (Recorded Session) α} {answer : α → Answer}
    (h : Tallies pre step fun _ => Tallied []) :
    Tallies pre (step >>= fun a => Pure.pure (answer a)) fun _ => Tallied [] :=
  h.bind fun _ => of_preserves (.pure _)

/-! ## Guards that come and go -/

/-- **A guard that comes.** -/
theorem work_raise (flag : FaultFlag) :
    Tallies (Tallied []) (Shelf.work (Guard.raise (Library.vault kind).services flag))
      fun guard => Tallied [.guard guard] := by
  intro shelf hshelf
  obtain ⟨hok, hswitches⟩ := Guard.raise_vault kind flag shelf.world
  unfold Shelf.work
  cases hraise : Guard.raise (Library.vault kind).services flag shelf.world with
  | mk result world =>
    rw [hraise] at hok hswitches
    subst hok
    exact hshelf.raised hswitches

/-- **A guard that goes.** -/
theorem work_clear (guard : Guard) :
    Tallies (Tallied [.guard guard])
      (Shelf.work (guard.clear (Library.vault kind).services)) fun _ => Tallied [] := by
  intro shelf hshelf
  obtain ⟨hok, hswitches⟩ := guard.clear_vault kind shelf.world
  unfold Shelf.work
  cases hclear : guard.clear (Library.vault kind).services shelf.world with
  | mk result world =>
    rw [hclear] at hok hswitches
    subst hok
    exact hshelf.cleared hswitches

/-- Another thing that goes. -/
theorem work_gone {act : Work (Recorded Session) α} {item : Item}
    (h : ∀ flag, item.guards flag = false) (hact : Preserves World.switches act) :
    Tallies (Tallied [item]) (Shelf.work act) fun _ => Tallied [] := fun shelf hshelf =>
  of_preserves (preserves_work hact) shelf ((tallied_cons_iff h).mp hshelf)

/-- A thing that is not on the shelf goes without being disposed of. -/
theorem work_drop (item : Item) :
    Tallies (Tallied [item]) (Shelf.work (item.drop (Library.vault kind).services))
      fun _ => Tallied [] := by
  cases item with
  | guard guard => exact work_clear guard
  | _ => exact work_gone (fun _ => rfl) (preserves_abandon _)

/-- A thing that is not on the shelf goes at once. -/
theorem work_dispose (item : Item) :
    Tallies (Tallied [item]) (Shelf.work (item.dispose (Library.vault kind).services))
      fun _ => Tallied [] := by
  cases item with
  | guard guard => exact work_clear guard
  | _ => exact work_gone (fun _ => rfl) (preserves_dispose _)

/-- A thing that is not on the shelf is gone after it was lent to a body. -/
theorem work_lend {item : Item} {owner : Owner} {body : Work (Recorded Session) α}
    (h : ∀ flag, item.guards flag = false) (hbody : Preserves World.switches body) :
    Tallies (Tallied [item]) (Shelf.work (lend (Library.vault kind).services owner body))
      fun _ => Tallied [] := work_gone h (preserves_lend owner hbody)

/-- **What a body asks of a thing that is lent to it.** -/
theorem lendItem (data : Bytes) (item : Item) :
    Tallies (Tallied [item]) (Shelf.lendItem (Library.vault kind).services data item)
      fun _ => Tallied [] := by
  unfold Shelf.lendItem
  cases item with
  | guard guard => exact (work_clear guard).bind fun _ => of_preserves preserves_missing
  | digest d => exact work_lend (fun _ => rfl) (.pure _)
  | key k => exact work_lend (fun _ => rfl) (.andThen k.preserves_type fun _ => .pure _)
  | signer s => exact work_lend (fun _ => rfl) (.andThen s.preserves_sign fun _ => .pure _)
  | verifier v =>
    exact work_lend (fun _ => rfl) (.andThen (v.preserves_verify data) fun _ => .pure _)

/-! ## Taking a thing and placing one -/

theorem take (name : String) :
    Tallies (Tallied []) (Shelf.take name) fun item => Tallied [item] := by
  intro shelf hshelf
  cases hlookup : shelf.items.lookup name with
  | none =>
    rw [take_of_none hlookup]
    exact hshelf
  | some found =>
    rw [take_of_some hlookup]
    refine ⟨nodup_filter hshelf.nodup, fun flag => ?_⟩
    have hperm : shelf.things.Perm _ := (perm_of_lookup hshelf.nodup hlookup).map Prod.snd
    have htally := hshelf.tally flag
    rw [List.nil_append, guardCount, hperm.countP_eq] at htally
    exact htally

theorem place (name : String) (new : Item) :
    Tallies (Tallied [new]) (Shelf.place (Library.vault kind).services name new)
      fun _ => Tallied [] := by
  intro shelf hshelf
  have hnodup : (((name, new) :: shelf.items.filter (·.1 ≠ name)).map Prod.fst).Nodup :=
    List.nodup_cons.mpr ⟨not_mem_filter, nodup_filter hshelf.nodup⟩
  rw [place_eq]
  cases hlookup : shelf.items.lookup name with
  | none =>
    rw [filter_of_lookup_eq_none hlookup] at hnodup ⊢
    exact ⟨hnodup, hshelf.tally⟩
  | some old =>
    -- The old thing goes when the new one has its place, so that it is the one beside the shelf.
    refine work_drop old _ ⟨hnodup, fun flag => ?_⟩
    have hperm : (new :: shelf.things).Perm _ :=
      ((perm_of_lookup hshelf.nodup hlookup).map Prod.snd).cons new
    have htally := hshelf.tally flag
    rw [List.singleton_append, guardCount, (hperm.trans (.swap ..)).countP_eq] at htally
    exact htally

/-- A thing that is no guard is made and gets a name. -/
theorem create {act : Work (Recorded Session) α} {item : α → Item} {name : String}
    (h : ∀ a flag, (item a).guards flag = false) (hact : Preserves World.switches act) :
    Tallies (Tallied []) (do
      Shelf.place (Library.vault kind).services name (item (← Shelf.work act))
      return Answer.done) fun _ => Tallied [] :=
  (of_preserves (preserves_work hact)).bind fun a =>
    answers fun shelf hshelf => place name (item a) shelf ((tallied_cons_iff (h a)).mpr hshelf)

/-! ## Operations -/

open Preserves in
/-- **Every operation that sets faults by guards only** keeps up the tally. -/
theorem run {operation : Operation} (hbare : operation.bare = false) :
    Tallies (Tallied []) (Shelf.run (Library.vault kind).services operation)
      fun _ => Tallied [] := by
  cases operation with
  | digestCreate name algorithm outputLength =>
    exact create (fun _ _ => rfl) (Digest.preserves_create algorithm outputLength)
  | keyGenerate name type =>
    exact create (fun _ _ => rfl) (KeySpec.preserves_create fun _ => preserves_askPerform _)
  | keyDecode name part type encoded =>
    exact create (fun _ _ => rfl) (KeySpec.preserves_create fun _ => preserves_askPerform _)
  | signerCreate name keyName =>
    exact (of_preserves (preserves_key keyName)).bind fun key =>
      create (fun _ _ => rfl) (Signer.preserves_create key)
  | verifierCreate name keyName =>
    exact (of_preserves (preserves_key keyName)).bind fun key =>
      create (fun _ _ => rfl) (Verifier.preserves_create key)
  | faultRaise name flag =>
    exact (work_raise flag).bind fun guard => (place name (.guard guard)).answers
  | dispose name => exact (take name).bind fun item => (work_dispose item).answers
  | drop name => exact (take name).bind fun item => (work_drop item).answers
  | lend name data => exact (take name).bind fun item => lendItem data item
  | faultSet flag on => cases hbare
  | faultsReset => cases hbare
  | digestFeed name | digestFeedByte name | digestReset name =>
    exact of_preserves (andThen (preserves_digest name) fun _ =>
      preserves_answers (preserves_askPerform _) fun _ => .done)
  | digestLength name =>
    exact of_preserves (andThen (preserves_digest name) fun _ =>
      preserves_answers (preserves_askNumber _) .number)
  | digestFinish name =>
    exact of_preserves (andThen (preserves_digest name) fun digest =>
      preserves_answers digest.preserves_finish .bytes)
  | digestFinishInto name before =>
    exact of_preserves (andThen (preserves_digest name) fun digest =>
      preserves_answers (ofState (digest.preserves_finishInto before)) fun filled =>
        .filled filled.1 filled.2)
  | digestAlgorithm name =>
    exact of_preserves (andThen (preserves_digest name) fun _ => pure _)
  | digestOnce algorithm data =>
    exact of_preserves (preserves_answers (Digest.preserves_once algorithm data) .bytes)
  | digestWithin algorithm data panics =>
    refine of_preserves (preserves_answers ?_ .bytes)
    refine Digest.preserves_within algorithm fun digest =>
      andThen (preserves_askPerform _) fun _ => ?_
    cases panics with
    | none => exact digest.preserves_finish
    | some message => exact ofExcept _
  | keyEncode name part =>
    exact of_preserves (andThen (preserves_key name) fun key =>
      preserves_answers (key.preserves_encode part) .bytes)
  | keyType name =>
    exact of_preserves (andThen (preserves_key name) fun key =>
      preserves_answers key.preserves_type .keyType)
  | encapsulate name =>
    exact of_preserves (andThen (preserves_key name) fun key =>
      preserves_answers key.preserves_encapsulate .sealed)
  | decapsulate name ciphertext =>
    exact of_preserves (andThen (preserves_key name) fun key =>
      preserves_answers (key.preserves_decapsulate ciphertext) .bytes)
  | signerFeed name =>
    exact of_preserves (andThen (preserves_signer name) fun _ =>
      preserves_answers (preserves_askPerform _) fun _ => .done)
  | sign name =>
    exact of_preserves (andThen (preserves_signer name) fun signer =>
      preserves_answers signer.preserves_sign .bytes)
  | verifierFeed name =>
    exact of_preserves (andThen (preserves_verifier name) fun _ =>
      preserves_answers (preserves_askPerform _) fun _ => .done)
  | verify name signature =>
    exact of_preserves (andThen (preserves_verifier name) fun verifier =>
      preserves_answers (verifier.preserves_verify signature) .truth)
  | pbkdf2 digest password salt iterations length =>
    exact of_preserves (preserves_answers
      (preserves_fetch (.pbkdf2 digest password salt iterations) length) .bytes)
  | hkdf digest material salt info length =>
    exact of_preserves (preserves_answers
      (preserves_fetch (.hkdf digest material salt info) length) .bytes)
  | scrypt password salt n r p length =>
    exact of_preserves (preserves_answers
      (preserves_fetch (.scrypt password salt n r p) length) .bytes)
  | faultsRequired =>
    exact of_preserves (preserves_answers preserves_requireFaults fun _ => .done)
  | debug name =>
    exact of_preserves (andThen (preserves_item name) fun found => preserves_debugItem found)
  | sweep => exact of_preserves (preserves_answers preserves_sweep .number)
  | debugWorld => exact of_preserves (andThen preserves_get fun _ => pure _)

end Tallies

/-! ## Programs -/

/-- Whether a deed may set a fault without a guard. -/
def Deed.bare : Deed → Bool
  | .run operation => operation.bare
  | .settle => false

section Deeds

variable {shelf : Shelf (Recorded Session)}

/-- **A deed that sets faults by guards only** keeps up the tally. -/
theorem tallied_act {deed : Deed} (h : Tallied [] shelf) (hbare : deed.bare = false) :
    Tallied [] (act (Library.vault kind).services shelf deed) := by
  cases deed with
  | run operation =>
    have htallies : Tallies (Tallied []) (run (Library.vault kind).services operation)
        fun _ => Tallied [] := Tallies.run hbare
    have hrun := htallies shelf h
    rw [act]
    split at hrun
    · exact hrun
    · exact hrun
  | settle =>
    have hflush : World.switches (World.flush (Library.vault kind).services shelf.world).2
        = shelf.world.switches := preserves_flush shelf.world
    exact h.of_showing (congrArg (Prod.mk shelf.items) hflush)

theorem tallied_after {deeds : List Deed} (h : Tallied [] shelf)
    (hbare : ∀ deed ∈ deeds, deed.bare = false) :
    Tallied [] (after (Library.vault kind).services shelf deeds) := by
  induction deeds generalizing shelf with
  | nil => exact h
  | cons deed deeds ih =>
    obtain ⟨hdeed, hdeeds⟩ := List.forall_mem_cons.mp hbare
    exact ih (tallied_act h hdeed) hdeeds

end Deeds

end Shelf

/-! ## What the bit is worth -/

section Logs

variable {σ : Type}

/-- How many guards of a fault have come, by the calls of a log. -/
def came (log : List (Note σ)) (flag : FaultFlag) : Nat := (switches log flag).count true

/-- How many have gone. -/
def gone (log : List (Note σ)) (flag : FaultFlag) : Nat := (switches log flag).count false

variable {log before : List (Note σ)} {flag : FaultFlag}

theorem came_snoc (note : Note σ) : came (log ++ [note]) flag
    = came log flag + if note.call.sets? flag = some true then 1 else 0 := by
  rw [came, switches_snoc, List.count_append]
  cases note.call.sets? flag with
  | none => rfl
  | some on => cases on <;> rfl

theorem gone_snoc (note : Note σ) : gone (log ++ [note]) flag
    = gone log flag + if note.call.sets? flag = some false then 1 else 0 := by
  rw [gone, switches_snoc, List.count_append]
  cases note.call.sets? flag with
  | none => rfl
  | some on => cases on <;> rfl

section Ballot

variable (hballot : Ballot (switches log flag))

include hballot

theorem gone_le_came (hbefore : before <+: log) : gone before flag ≤ came before flag :=
  hballot _ (hbefore.filterMap _)

/-- A fault that was raised last has a guard. The induction goes back to the call that raised it. -/
theorem gone_lt_came (hbefore : before <+: log) (hlast : lastOn before flag = true) :
    gone before flag < came before flag := by
  induction before using List.reverseRecOn with
  | nil => cases hlast
  | append_singleton earlier note ih =>
    have hearlier : earlier <+: log := (List.prefix_append _ _).trans hbefore
    rw [lastOn_snoc] at hlast
    rw [gone_snoc, came_snoc]
    cases hsets : note.call.sets? flag with
    | none =>
      rw [hsets] at hlast
      exact ih hearlier hlast
    | some on =>
      rw [hsets] at hlast
      obtain rfl : on = true := hlast
      exact Nat.lt_succ_of_le (gone_le_came hballot hearlier)

/-- **What the last switch is worth.** It tells whether there is a guard exactly if each guard that
goes is the only one of its fault. -/
theorem lastOn_iff : (∀ before, before <+: log →
      (lastOn before flag = true ↔ gone before flag < came before flag)) ↔
    ∀ before note, before ++ [note] <+: log → note.call.sets? flag = some false →
      came before flag = gone before flag + 1 := by
  constructor
  · intro htells before note hbefore hsets
    -- After a guard has gone the fault is cleared, so that no other guard is there.
    have hlast : lastOn (before ++ [note]) flag = false := by
      rw [lastOn_snoc, hsets]
      rfl
    have hnone : ¬ gone (before ++ [note]) flag < came (before ++ [note]) flag :=
      (htells _ hbefore).not.mp (by rw [hlast]; exact Bool.false_ne_true)
    have hle : gone (before ++ [note]) flag ≤ came (before ++ [note]) flag :=
      gone_le_came hballot hbefore
    have hcame : came (before ++ [note]) flag = came before flag := by
      rw [came_snoc, hsets]
      rfl
    have hgone : gone (before ++ [note]) flag = gone before flag + 1 := by
      rw [gone_snoc, hsets]
      rfl
    omega
  · intro halone before hbefore
    refine ⟨gone_lt_came hballot hbefore, fun hlt => ?_⟩
    induction before using List.reverseRecOn with
    | nil => cases hlt
    | append_singleton earlier note ih =>
      rw [lastOn_snoc]
      rw [gone_snoc, came_snoc] at hlt
      cases hsets : note.call.sets? flag with
      | none =>
        rw [hsets] at hlt
        exact ih ((List.prefix_append _ _).trans hbefore) hlt
      | some on =>
        rw [hsets] at hlt
        cases on with
        | true => rfl
        | false =>
          have hone : came earlier flag = gone earlier flag + 1 := halone earlier note hbefore hsets
          rw [hone] at hlt
          exact (Nat.lt_irrefl _ hlt).elim

end Ballot

end Logs

namespace Shelf

/-- **A moment of a run**, with the calls before it and the library as it was: a call was about to
be made, or the run is over. -/
inductive Moment {σ : Type} (recorded : Recorded σ) : List (Note σ) → σ → Prop
  /-- Before a call. -/
  | call {before later : List (Note σ)} {note : Note σ}
      (h : recorded.log = before ++ note :: later) : Moment recorded before note.before
  /-- After all of them. -/
  | last : Moment recorded recorded.log recorded.state

theorem Moment.before {σ : Type} {recorded : Recorded σ} {before : List (Note σ)} {state : σ}
    (h : Moment recorded before state) : before <+: recorded.log := by
  cases h with
  | call h => exact h ▸ List.prefix_append _ _
  | last => exact List.prefix_rfl

theorem exists_moment {σ : Type} {recorded : Recorded σ} {before : List (Note σ)}
    (h : before <+: recorded.log) : ∃ state, Moment recorded before state := by
  obtain ⟨later, hlater⟩ := h
  cases later with
  | nil =>
    rw [List.append_nil] at hlater
    exact ⟨recorded.state, hlater ▸ .last⟩
  | cons note later => exact ⟨note.before, .call hlater.symm⟩

/-- **What becomes of a fault** that a program sets by guards only. -/
structure Shares (flag : FaultFlag) (shelf : Shelf (Recorded Session)) : Prop where
  /-- The guards that have come have gone or are on the shelf. -/
  counted : came shelf.world.native.log flag
    = gone shelf.world.native.log flag + guardCount flag shelf.things
  /-- At every moment the fault is raised if the last guard to come or go was one that came. -/
  last : ∀ before session, Moment shelf.world.native before session →
    session.vault.raised flag = lastOn before flag
  /-- A raised fault has a guard. -/
  guarded : ∀ before session, Moment shelf.world.native before session →
    session.vault.raised flag = true → gone before flag < came before flag
  /-- The fault is raised whenever there is a guard if and only if each guard that goes is the only
  one there. -/
  alone : (∀ before session, Moment shelf.world.native before session →
      (session.vault.raised flag = true ↔ gone before flag < came before flag)) ↔
    ∀ before note, before ++ [note] <+: shelf.world.native.log →
      note.call.sets? flag = some false → came before flag = gone before flag + 1

section Runs

variable {kind : BackendKind} {settings : Settings} {supply : Nat → Supply}
  {turns : List (List Turn)} {world : World (Recorded Session)}

/-- A shelf with nothing on it, in a world that has just been started over a new library. -/
theorem tallied_start (hstart : World.start settings ⟨.start supply, []⟩ turns = .ok world) :
    Tallied [] ⟨world, []⟩ := by
  rw [← World.eq_of_start hstart]
  exact ⟨List.nodup_nil, fun _ => .nil⟩

/-- What a run finds of a fault is what the calls before have set it to. -/
theorem raised_of_moment (hstart : World.start settings ⟨.start supply, []⟩ turns = .ok world)
    (deeds : List Deed) (flag : FaultFlag) {before : List (Note Session)} {session : Session}
    (h : Moment (after (Library.vault kind).services ⟨world, []⟩ deeds).world.native
      before session) :
    session.vault.raised flag = lastOn before flag := by
  have hgrows : Grows (.vault kind) world
    (after (Library.vault kind).services ⟨world, []⟩ deeds).world := grows_after deeds ⟨world, []⟩
  obtain ⟨calls, hcalls⟩ := hgrows.calls
  have hnative : world.native = ⟨.start supply, []⟩ := by rw [← World.eq_of_start hstart]
  rw [hnative] at hcalls
  obtain ⟨hlast, hcall⟩ := Library.raised_afterAll kind (.start supply) (fun _ => rfl) calls flag
  rw [hcalls] at h
  cases h with
  | call hsplit => exact hcall _ _ _ hsplit
  | last => exact hlast

/-- **Guards of one fault share its bit.** In a program that sets faults by guards only, whatever
else it does and whatever turns the daemon takes, each fault is at every moment what the last guard
to come or go has left. A raised fault has a guard; and the fault is raised whenever it has a guard
if and only if no guard ever goes while there is another one of the same fault. -/
theorem guards_share_a_fault (kind : BackendKind) (settings : Settings) (supply : Nat → Supply)
    (turns : List (List Turn)) (deeds : List Deed) (flag : FaultFlag)
    {world : World (Recorded Session)}
    (hstart : World.start settings ⟨.start supply, []⟩ turns = .ok world)
    (hbare : ∀ deed ∈ deeds, deed.bare = false) :
    Shares flag (after (Library.vault kind).services ⟨world, []⟩ deeds) := by
  have htallied : Tallied [] (after (Library.vault kind).services ⟨world, []⟩ deeds) :=
    tallied_after (tallied_start hstart) hbare
  have htally := htallied.tally flag
  have hlast : ∀ before session,
      Moment (after (Library.vault kind).services ⟨world, []⟩ deeds).world.native before session →
        session.vault.raised flag = lastOn before flag := fun _ _ =>
    raised_of_moment hstart deeds flag
  refine ⟨htally.count, hlast, fun before session hmoment hraised => ?_, ?_⟩
  · rw [hlast _ _ hmoment] at hraised
    exact gone_lt_came htally.ballot hmoment.before hraised
  · rw [← lastOn_iff htally.ballot]
    constructor
    · intro h before hbefore
      obtain ⟨session, hmoment⟩ := exists_moment hbefore
      rw [← hlast _ _ hmoment]
      exact h before session hmoment
    · intro h before session hmoment
      rw [hlast _ _ hmoment]
      exact h before hmoment.before

end Runs

/-- A run in which the guards of two faults overlap. -/
def overlappingDeeds : List Deed :=
  [.run (.faultRaise "create" .failedCreate1), .run (.faultRaise "set" .failedSet1),
    .run (.digestCreate "digest" "SHA-256" 0), .run (.drop "create"),
    .run (.digestCreate "digest" "SHA-256" 0), .run (.faultRaise "create" .failedCreate1)]

/-- The second guard of the first fault comes when its first one has gone, with the guard of the
other fault there all the time. -/
theorem guards_share_a_fault_overlappingDeeds :
    World.start .default ⟨.start apartSupply, []⟩ exampleTurns = .ok apartWorld
    ∧ (∀ deed ∈ overlappingDeeds, deed.bare = false)
    ∧ Shares .failedCreate1
      (after (Library.vault .dispatch).services ⟨apartWorld, []⟩ overlappingDeeds) := by
  have hstart : World.start .default ⟨.start apartSupply, []⟩ exampleTurns = .ok apartWorld := rfl
  have hbare : ∀ deed ∈ overlappingDeeds, deed.bare = false := by decide
  exact ⟨hstart, hbare, guards_share_a_fault .dispatch .default apartSupply exampleTurns
    overlappingDeeds .failedCreate1 hstart hbare⟩

/-- A run in which one of two guards of the same fault goes. -/
def twoGuards : List Deed :=
  [.run (.faultRaise "first" .failedCreate1), .run (.faultRaise "second" .failedCreate1),
    .run (.drop "first")]

/-- The shelf of that run in the end. -/
def twoGuardsShelf : Shelf (Recorded Session) :=
  after (Library.vault .dispatch).services ⟨apartWorld, []⟩ twoGuards

/-- **The first guard to go clears the fault under the other one.** The guard that is left does not
keep a digest from being made. -/
theorem fault_cleared_under_a_guard :
    World.start .default ⟨.start apartSupply, []⟩ exampleTurns = .ok apartWorld
    ∧ (∀ deed ∈ twoGuards, deed.bare = false)
    ∧ guardCount .failedCreate1 twoGuardsShelf.things = 1
    ∧ twoGuardsShelf.world.native.state.vault.raised .failedCreate1 = false
    ∧ (run (Library.vault .dispatch).services (.digestCreate "digest" "SHA-256" 0)
        twoGuardsShelf).1.isOk = true := by
  refine ⟨rfl, by decide, ?_, ?_, ?_⟩
  · decide +kernel
  · decide +kernel
  · decide +kernel

end Shelf

end Custody.Held

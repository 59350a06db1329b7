import Custody.Proofs.Held.Deeds
import Custody.Proofs.Held.Excused

/-!
# Programs that are never to blame

A program that keeps its things on a shelf and raises no fault never comes to an error that says
that the contract was broken, and nothing in it panics but what it has brought along itself
(`Shelf.contract_unbroken`). Its things carry what is known of their contexts: a digest has a
context of a digest, a signer one that signs, a verifier one that checks (`Shelf.chargeOf`). Every
operation leads from a shelf that can be relied on to one that can be relied on, and what it reports
is excused (`Shelf.LeadsExcused.run`).

The rules by which steps on a shelf are put together are those of `Shelf.Leads`, with an excuse for
what is known after a setback. What is added to the stake is what each thing bears (`Charge.Bears`):
while a thing is on the shelf its context keeps the role for which it was prepared, since no
operation prepares it a second time. Raising a fault is left out, because with a fault the library
can be made to break the contract; clearing one is not.
-/

namespace Custody.Held

open Vault

variable {α β : Type} {kind : BackendKind} {own : Option String}

/-- The signature context of a thing with the role that it has. -/
def Item.playing? : Item → Option (Address × Role)
  | signer s => some (s.owner.handle.address, .signs)
  | verifier v => some (v.owner.handle.address, .checks)
  | digest _ | key _ | guard _ => none

/-- The early end that an answer tells of. -/
def Answer.abort? : Answer → Option Abort
  | .filled (.error abort) _ => some abort
  | _ => none

namespace Operation

/-- Whether an operation may raise a fault. -/
def raises : Operation → Bool
  | faultSet _ on => on
  | faultRaise _ _ => true
  | _ => false

/-- The panic that the caller of an operation has brought along. -/
def own? : Operation → Option String
  | digestWithin _ _ panics => panics
  | _ => none

end Operation

/-- What a charge has to have for a thing to be used. -/
def Charge.Bears (charge : Charge) : Item → Prop
  | .digest d => charge.Has d.owner .digest
  | .key k => charge.Has k.owner .keySpec
  | .signer s => charge.Plays s.owner .signs
  | .verifier v => charge.Plays v.owner .checks
  | .guard _ => True

namespace Shelf

/-! ## The charge of things -/

/-- **What somebody can rely on who holds these things** and nothing else. -/
def chargeOf (items : List Item) : Charge where
  stake := stakeOf (items.filterMap Item.holding?)
  roles := items.filterMap Item.playing?
  cast pair hpair := by
    obtain ⟨item, hitem, hplaying⟩ := List.mem_filterMap.mp hpair
    have hholding : ∃ owner, item.holding? = some (owner, .signature)
        ∧ owner.handle.address = pair.1 := by
      cases item with
      | signer s =>
        cases hplaying
        exact ⟨s.owner, rfl, rfl⟩
      | verifier v =>
        cases hplaying
        exact ⟨v.owner, rfl, rfl⟩
      | _ => cases hplaying
    obtain ⟨owner, hholding, haddress⟩ := hholding
    exact List.mem_map.mpr
      ⟨_, List.mem_filterMap.mpr ⟨item, hitem, hholding⟩, congrArg (·, Domain.signature) haddress⟩

/-- A thing that is held can be used. -/
theorem bears_chargeOf {items : List Item} {item : Item} (h : item ∈ items) :
    (chargeOf items).Bears item := by
  have hhas : ∀ owner domain, item.holding? = some (owner, domain) →
      (chargeOf items).Has owner domain := fun owner domain hholding =>
    List.cons_subset.mpr ⟨List.mem_map.mpr ⟨_, List.mem_filterMap.mpr ⟨item, h, hholding⟩, rfl⟩,
      List.nil_subset _⟩
  cases item with
  | digest d => exact hhas d.owner .digest rfl
  | key k => exact hhas k.owner .keySpec rfl
  | signer s => exact List.mem_filterMap.mpr ⟨_, h, rfl⟩
  | verifier v => exact List.mem_filterMap.mpr ⟨_, h, rfl⟩
  | guard g => trivial

/-- The order of the things does not matter. -/
theorem trusts_perm {items items' : List Item} {world : World (Recorded Session)}
    (hperm : items.Perm items') (h : Trusts kind (chargeOf items) world) :
    Trusts kind (chargeOf items') world where
  stands := stands_perm (hperm.filterMap _) h.stands
  faultless := h.faultless
  returns := h.returns
  roles pair hpair := h.roles pair ((hperm.filterMap _).mem_iff.mpr hpair)

/-! ## Shelves that can be relied on -/

/-- The things on a shelf. -/
def things (shelf : Shelf (Recorded Session)) : List Item := shelf.items.map Prod.snd

/-- **A shelf that can be relied on**, with some more things that are not on it. -/
structure Reliable (kind : BackendKind) (extra : List Item) (shelf : Shelf (Recorded Session)) :
    Prop where
  /-- A name is given to one thing at a time. -/
  nodup : (shelf.items.map Prod.fst).Nodup
  /-- The things and the others can be relied on. -/
  trusts : Trusts kind (chargeOf (extra ++ shelf.things)) shelf.world

/-- A shelf that can be relied on, with a thing on it. -/
structure Offers (kind : BackendKind) (item : Item) (shelf : Shelf (Recorded Session)) : Prop where
  /-- The shelf can be relied on. -/
  reliable : Reliable kind [] shelf
  /-- The thing is on it. -/
  mem : item ∈ shelf.things

/-- An early end behind a setback is excused, and the shelf can be relied on. -/
def Excuses (kind : BackendKind) (own : Option String) (setback : Setback)
    (shelf : Shelf (Recorded Session)) : Prop :=
  (∀ abort, setback = .aborted abort → abort.Excused own) ∧ Reliable kind [] shelf

/-- That something is not there is no early end. -/
theorem excuses_absent {what : Absent} {shelf : Shelf (Recorded Session)}
    (h : Reliable kind [] shelf) : Excuses kind own (.absent what) shelf :=
  ⟨fun _ habort => Setback.noConfusion habort, h⟩

/-- A step whose setbacks are excused. -/
abbrev LeadsExcused (kind : BackendKind) (own : Option String)
    (pre : Shelf (Recorded Session) → Prop) (step : Step (Recorded Session) α)
    (post : α → Shelf (Recorded Session) → Prop) : Prop :=
  Leads (.vault kind) (Excuses kind own) pre step post

/-- An answer that tells of no early end but one that is excused, and a shelf that can be relied
on. -/
def Answers (kind : BackendKind) (own : Option String) (answer : Answer)
    (shelf : Shelf (Recorded Session)) : Prop :=
  (∀ abort ∈ answer.abort?, abort.Excused own) ∧ Reliable kind [] shelf

/-- An answer that tells of no early end tells of none that is not excused. -/
theorem excused_of_abort?_eq_none {answer : Answer} (h : answer.abort? = none) :
    ∀ abort ∈ answer.abort?, abort.Excused own := by
  rw [h]
  exact fun abort habort => absurd habort (Option.not_mem_none abort)

/-- So on a shelf that can be relied on it is as it should be. -/
theorem answers_of_abort?_eq_none {answer : Answer} {shelf : Shelf (Recorded Session)}
    (hanswer : answer.abort? = none) (h : Reliable kind [] shelf) :
    Answers kind own answer shelf := ⟨excused_of_abort?_eq_none hanswer, h⟩

variable {pre : Shelf (Recorded Session) → Prop}

namespace LeadsExcused

/-- A step that finds nothing goes no further. -/
theorem absent (what : Absent) {post : α → Shelf (Recorded Session) → Prop}
    (h : ∀ shelf, pre shelf → Reliable kind [] shelf) :
    LeadsExcused kind own pre (throw (.absent what)) post :=
  .setback _ fun shelf hpre => excuses_absent (h shelf hpre)

/-! ## Looking things up -/

theorem item (name : String) :
    LeadsExcused kind own (Reliable kind []) (item name) (Offers kind) :=
  Leads.item (fun _ h => excuses_absent h) fun _ _ h hmem =>
    ⟨h, List.mem_map.mpr ⟨_, hmem, rfl⟩⟩

theorem digest (name : String) : LeadsExcused kind own (Reliable kind []) (digest name)
    fun digest => Offers kind (.digest digest) :=
  Leads.digest (item name) fun _ _ h => excuses_absent h.reliable

theorem key (name : String) : LeadsExcused kind own (Reliable kind []) (key name)
    fun key => Offers kind (.key key) :=
  Leads.key (item name) fun _ _ h => excuses_absent h.reliable

theorem signer (name : String) : LeadsExcused kind own (Reliable kind []) (signer name)
    fun signer => Offers kind (.signer signer) :=
  Leads.signer (item name) fun _ _ h => excuses_absent h.reliable

theorem verifier (name : String) : LeadsExcused kind own (Reliable kind []) (verifier name)
    fun verifier => Offers kind (.verifier verifier) :=
  Leads.verifier (item name) fun _ _ h => excuses_absent h.reliable

/-! ## Work on the world -/

/-- The shelf after work that ends in some way. -/
theorem reliable_work {act : Work (Recorded Session) α} {fact : α → Prop} {next : α → List Item}
    {shelf : Shelf (Recorded Session)} (hnodup : (shelf.items.map Prod.fst).Nodup)
    (h : Ends own (Trusts kind (chargeOf shelf.things))
      (fun a world => fact a ∧ Trusts kind (chargeOf (next a ++ shelf.things)) world)
      (act shelf.world).1 (act shelf.world).2) :
    match (Shelf.work act shelf).1 with
    | .ok a => fact a ∧ Reliable kind (next a) (Shelf.work act shelf).2
    | .error setback => Excuses kind own setback (Shelf.work act shelf).2 := by
  unfold Shelf.work
  cases hact : act shelf.world with
  | mk result world =>
    rw [hact] at h
    cases result with
    | ok a => exact ⟨h.1, hnodup, h.2⟩
    | error abort =>
      refine ⟨?_, hnodup, h.2⟩
      rintro _ ⟨⟩
      exact h.1

/-- Work that changes what there is beside the shelf, with something known of its result. -/
theorem work_knowing {act : Work (Recorded Session) α} {fact : α → Prop} {extra : List Item}
    {next : α → List Item} (h : ∀ items, Serves kind (Trusts kind (chargeOf (extra ++ items))) act
      (Ends own (Trusts kind (chargeOf items))
        fun a world => fact a ∧ Trusts kind (chargeOf (next a ++ items)) world)) :
    LeadsExcused kind own (Reliable kind extra) (work act)
      fun a shelf => fact a ∧ Reliable kind (next a) shelf := by
  intro shelf
  obtain ⟨hgrows, hends⟩ := h shelf.things shelf.world
  exact ⟨hgrows, fun hfit hreliable =>
    reliable_work hreliable.nodup (hends hfit hreliable.trusts)⟩

/-- Work that needs a thing on the shelf, with something known of its result. -/
theorem use_knowing {act : Work (Recorded Session) α} {item : Item} {fact : α → Prop}
    {next : α → List Item} (h : ∀ items, (chargeOf items).Bears item →
      Serves kind (Trusts kind (chargeOf items)) act (Ends own (Trusts kind (chargeOf items))
        fun a world => fact a ∧ Trusts kind (chargeOf (next a ++ items)) world)) :
    LeadsExcused kind own (Offers kind item) (Shelf.work act)
      fun a shelf => fact a ∧ Reliable kind (next a) shelf := by
  intro shelf
  -- The world grows in any case, also where nothing is on the shelf.
  have hgrows := (h [item] (bears_chargeOf (.head _)) shelf.world).1
  refine ⟨hgrows, fun hfit hoffers => ?_⟩
  obtain ⟨-, hends⟩ := h shelf.things (bears_chargeOf hoffers.mem) shelf.world
  exact reliable_work hoffers.reliable.nodup (hends hfit hoffers.reliable.trusts)

/-- Work that changes what there is beside the shelf. -/
theorem work {act : Work (Recorded Session) α} {extra : List Item} {next : α → List Item}
    (h : ∀ items, Serves kind (Trusts kind (chargeOf (extra ++ items))) act
      (Ends own (Trusts kind (chargeOf items)) fun a => Trusts kind (chargeOf (next a ++ items)))) :
    LeadsExcused kind own (Reliable kind extra) (Shelf.work act)
      fun a => Reliable kind (next a) := by
  have hwork : LeadsExcused kind own (Reliable kind extra) (Shelf.work act)
      fun a shelf => True ∧ Reliable kind (next a) shelf :=
    work_knowing fun items => (h items).mapEnds (fun _ h => h) fun _ _ h => ⟨trivial, h⟩
  exact hwork.weaken fun _ _ h => h.2

/-- Work that needs a thing on the shelf. -/
theorem use {act : Work (Recorded Session) α} {item : Item} {next : α → List Item}
    (h : ∀ items, (chargeOf items).Bears item →
      ChangesCharge kind own (chargeOf items) act fun a => chargeOf (next a ++ items)) :
    LeadsExcused kind own (Offers kind item) (Shelf.work act) fun a => Reliable kind (next a) := by
  have hwork : LeadsExcused kind own (Offers kind item) (Shelf.work act)
      fun a shelf => True ∧ Reliable kind (next a) shelf :=
    use_knowing fun items hbears =>
      (h items hbears).mapEnds (fun _ h => h) fun _ _ h => ⟨trivial, h⟩
  exact hwork.weaken fun _ _ h => h.2

/-- Work that leaves every charge as it is. -/
theorem work_keepsCharge {act : Work (Recorded Session) α}
    (h : ∀ charge, KeepsCharge kind own charge act) :
    LeadsExcused kind own (Reliable kind []) (Shelf.work act) fun _ => Reliable kind [] :=
  work fun items => h (chargeOf items)

/-- Work that leaves every charge as it is that bears a thing on the shelf. -/
theorem use_keepsCharge {act : Work (Recorded Session) α} {item : Item}
    (h : ∀ charge : Charge, charge.Bears item → KeepsCharge kind own charge act) :
    LeadsExcused kind own (Offers kind item) (Shelf.work act) fun _ => Reliable kind [] :=
  use fun items hbears => h (chargeOf items) hbears

/-- A thing that is not on the shelf goes without being disposed of. -/
theorem work_drop (item : Item) :
    LeadsExcused kind own (Reliable kind [item])
      (Shelf.work (item.drop (Library.vault kind).services))
      fun _ => Reliable kind [] := by
  refine work fun items => ?_
  cases item with
  | digest d => exact keepsCharge_abandon fun _ h => h
  | key k => exact keepsCharge_abandon fun _ h => h
  | signer s => exact keepsCharge_abandon fun _ h => h.of_assign
  | verifier v => exact keepsCharge_abandon fun _ h => h.of_assign
  | guard g => exact g.keepsCharge_clear

/-- A thing that is not on the shelf goes at once. -/
theorem work_dispose (item : Item) :
    LeadsExcused kind own (Reliable kind [item])
      (Shelf.work (item.dispose (Library.vault kind).services))
      fun _ => Reliable kind [] := by
  refine work fun items => ?_
  cases item with
  | digest d => exact keepsCharge_dispose fun _ h => h
  | key k => exact keepsCharge_dispose fun _ h => h
  | signer s => exact keepsCharge_dispose fun _ h => h.of_assign
  | verifier v => exact keepsCharge_dispose fun _ h => h.of_assign
  | guard g => exact g.keepsCharge_clear

/-! ## Taking a thing and placing one -/

theorem take (name : String) : LeadsExcused kind own (Reliable kind []) (Shelf.take name)
    fun item => Reliable kind [item] :=
  Leads.take (fun _ h => excuses_absent h) fun _ _ h hlookup =>
    ⟨nodup_filter h.nodup, trusts_perm ((perm_of_lookup h.nodup hlookup).map Prod.snd) h.trusts⟩

theorem place (name : String) (new : Item) :
    LeadsExcused kind own (Reliable kind [new])
      (Shelf.place (Library.vault kind).services name new) fun _ => Reliable kind [] := by
  refine Leads.place work_drop ?_ ?_
  · intro shelf h hlookup
    refine ⟨List.nodup_cons.mpr ⟨not_mem_filter, nodup_filter h.nodup⟩, ?_⟩
    have htrusts := h.trusts
    rw [things, ← filter_of_lookup_eq_none hlookup] at htrusts
    exact htrusts
  · intro shelf old h hlookup
    refine ⟨List.nodup_cons.mpr ⟨not_mem_filter, nodup_filter h.nodup⟩, trusts_perm ?_ h.trusts⟩
    exact (((perm_of_lookup h.nodup hlookup).map Prod.snd).cons new).trans (List.Perm.swap ..)

/-! ## Answers -/

/-- An operation that answers with what a step has found. -/
theorem answers {step : Step (Recorded Session) α} {answer : α → Answer}
    (h : LeadsExcused kind own pre step fun _ => Reliable kind [])
    (hanswer : ∀ a, (answer a).abort? = none) :
    LeadsExcused kind own pre (step >>= fun a => Pure.pure (answer a)) (Answers kind own) :=
  h.bind fun a => .pure _ fun _ hafter => answers_of_abort?_eq_none (hanswer a) hafter

/-- A thing that was made gets a name. -/
theorem create {act : Work (Recorded Session) α} {item : α → Item} {name : String}
    (h : ∀ items, ChangesCharge kind own (chargeOf items) act fun a => chargeOf (item a :: items)) :
    LeadsExcused kind own (Reliable kind []) (do
      Shelf.place (Library.vault kind).services name (item (← Shelf.work act))
      return Answer.done) (Answers kind own) := by
  have hmade : LeadsExcused kind own (Reliable kind []) (Shelf.work act)
      fun a => Reliable kind [item a] := work h
  exact hmade.bind fun a => (place name (item a)).answers fun _ => rfl

/-- A signer or a verifier for a key that is found on the shelf. -/
theorem createFor {act : KeySpec → Work (Recorded Session) α} {item : α → Item}
    {name keyName : String} (h : ∀ key items, (chargeOf items).Has key.owner .keySpec →
      ChangesCharge kind own (chargeOf items) (act key) fun a => chargeOf (item a :: items)) :
    LeadsExcused kind own (Reliable kind []) (do
      let key ← Shelf.key keyName
      Shelf.place (Library.vault kind).services name (item (← Shelf.work (act key)))
      return Answer.done) (Answers kind own) := by
  refine (key keyName).bind fun key => ?_
  have hmade : LeadsExcused kind own (Offers kind (.key key)) (Shelf.work (act key))
      fun a => Reliable kind [item a] := use (h key)
  exact hmade.bind fun a => (place name (item a)).answers fun _ => rfl

section Finds

variable {answer : α → Answer} {name : String} (hanswer : ∀ a, (answer a).abort? = none)

include hanswer

/-- An operation that needs nothing from the shelf. -/
theorem onNothing {act : Work (Recorded Session) α}
    (h : ∀ charge, KeepsCharge kind own charge act) :
    LeadsExcused kind own (Reliable kind []) (do return answer (← Shelf.work act))
      (Answers kind own) :=
  (work_keepsCharge h).answers hanswer

/-- An operation on a digest that is found on the shelf. -/
theorem onDigest {act : Digest → Work (Recorded Session) α} (h : ∀ digest (charge : Charge),
      charge.Bears (.digest digest) → KeepsCharge kind own charge (act digest)) :
    LeadsExcused kind own (Reliable kind []) (do
      let digest ← Shelf.digest name
      return answer (← Shelf.work (act digest))) (Answers kind own) :=
  (digest name).bind fun d => (use_keepsCharge (h d)).answers hanswer

/-- An operation on a key that is found on the shelf. -/
theorem onKey {act : KeySpec → Work (Recorded Session) α} (h : ∀ key (charge : Charge),
      charge.Bears (.key key) → KeepsCharge kind own charge (act key)) :
    LeadsExcused kind own (Reliable kind []) (do
      let key ← Shelf.key name
      return answer (← Shelf.work (act key))) (Answers kind own) :=
  (key name).bind fun k => (use_keepsCharge (h k)).answers hanswer

/-- An operation on a signer that is found on the shelf. -/
theorem onSigner {act : Signer → Work (Recorded Session) α} (h : ∀ signer (charge : Charge),
      charge.Bears (.signer signer) → KeepsCharge kind own charge (act signer)) :
    LeadsExcused kind own (Reliable kind []) (do
      let signer ← Shelf.signer name
      return answer (← Shelf.work (act signer))) (Answers kind own) :=
  (signer name).bind fun s => (use_keepsCharge (h s)).answers hanswer

/-- An operation on a verifier that is found on the shelf. -/
theorem onVerifier {act : Verifier → Work (Recorded Session) α} (h : ∀ verifier (charge : Charge),
      charge.Bears (.verifier verifier) → KeepsCharge kind own charge (act verifier)) :
    LeadsExcused kind own (Reliable kind []) (do
      let verifier ← Shelf.verifier name
      return answer (← Shelf.work (act verifier))) (Answers kind own) :=
  (verifier name).bind fun v => (use_keepsCharge (h v)).answers hanswer

end Finds

/-- **A digest into a buffer of the caller.** What comes of it is told of in the answer. -/
theorem finishInto (name : String) (before : Bytes) : LeadsExcused kind own (Reliable kind []) (do
      let digest ← Shelf.digest name
      let (result, buffer) ← Shelf.work
        (Act.ofState (digest.finishInto (Library.vault kind).services before))
      return Answer.filled result buffer) (Answers kind own) := by
  refine (digest name).bind fun digest => ?_
  have hfinish : LeadsExcused kind own (Offers kind (.digest digest))
      (Shelf.work (Act.ofState (digest.finishInto (Library.vault kind).services before)))
      fun result shelf => (∀ abort, result.1 = .error abort → abort.Excused own)
        ∧ Reliable kind [] shelf := by
    refine use_knowing fun items hbears => .ofState ?_
    exact (Digest.serves_finishInto hbears before).weaken fun _ _ h => ⟨h.excused, h.always⟩
  refine hfinish.bind fun result => .pure _ fun shelf h => ⟨fun abort habort => ?_, h.2⟩
  obtain ⟨result, buffer⟩ := result
  cases result with
  | ok n => cases habort
  | error other =>
    cases habort
    exact h.1 abort rfl

/-! ## Lending and reading -/

/-- A thing that is not on the shelf is gone after it was lent to a body that answers with what it
has found. -/
theorem work_lend {item : Item} {owner : Owner} {domain : Domain} {act : Work (Recorded Session) α}
    {answer : α → Answer} (hanswer : ∀ a, (answer a).abort? = none)
    (hitem : ∀ items world, Trusts kind (chargeOf (item :: items)) world →
      Trusts kind ((chargeOf items).hold owner domain) world)
    (h : ∀ charge : Charge, charge.Bears item → KeepsCharge kind own charge act) :
    LeadsExcused kind own (Reliable kind [item])
      (Shelf.work (lend (Library.vault kind).services owner
        (act >>= fun a => Pure.pure (answer a))))
      (Answers kind own) := by
  have hbody : ∀ items, Serves kind (Trusts kind (chargeOf (item :: items)))
      (act >>= fun a => Pure.pure (answer a) : Work (Recorded Session) Answer)
      (Ends own (Trusts kind ((chargeOf items).hold owner domain)) fun a world =>
        (∀ abort ∈ a.abort?, abort.Excused own)
          ∧ Trusts kind ((chargeOf items).hold owner domain) world) := by
    intro items
    have hact := (h (chargeOf (item :: items)) (bears_chargeOf (.head _))).mapEnds
      (hitem items) fun _ => hitem items
    exact hact.andThen fun a => .done _ fun world hworld =>
      ⟨excused_of_abort?_eq_none (hanswer a), hworld⟩
  exact work_knowing fun items => serves_lend (hbody items)

/-- **What a body asks of a thing that is lent to it.** -/
theorem lendItem (data : Bytes) (item : Item) :
    LeadsExcused kind own (Reliable kind [item])
      (Shelf.lendItem (Library.vault kind).services data item) (Answers kind own) := by
  cases item with
  | digest d =>
    have hlend : LeadsExcused kind own (Reliable kind [.digest d])
        (Shelf.work (lend (Library.vault kind).services d.owner (return .text d.algorithm)))
        (Answers kind own) :=
      work_knowing fun items =>
        serves_lend (.done _ fun _ h => ⟨excused_of_abort?_eq_none rfl, h⟩)
    exact hlend
  | key k =>
    have hlend : LeadsExcused kind own (Reliable kind [.key k])
        (Shelf.work (lend (Library.vault kind).services k.owner
          (return .keyType (← k.type (Library.vault kind).services)))) (Answers kind own) :=
      work_lend (fun _ => rfl) (fun _ _ h => h) fun _ => KeySpec.keepsCharge_type
    exact hlend
  | signer s =>
    have hlend : LeadsExcused kind own (Reliable kind [.signer s])
        (Shelf.work (lend (Library.vault kind).services s.owner
          (return .bytes (← s.sign (Library.vault kind).services)))) (Answers kind own) :=
      work_lend (fun _ => rfl) (fun _ _ h => h.of_assign) fun _ => Signer.keepsCharge_sign
    exact hlend
  | verifier v =>
    have hlend : LeadsExcused kind own (Reliable kind [.verifier v])
        (Shelf.work (lend (Library.vault kind).services v.owner
          (return .truth (← v.verify (Library.vault kind).services data)))) (Answers kind own) :=
      work_lend (fun _ => rfl) (fun _ _ h => h.of_assign) fun _ h =>
        Verifier.keepsCharge_verify h data
    exact hlend
  | guard g => exact .bind (work_drop (.guard g)) fun _ => absent _ fun _ h => h

theorem debugItem (found : Item) :
    LeadsExcused kind own (Offers kind found) (Shelf.debugItem found) (Answers kind own) := by
  refine Leads.get.bind fun shelf => ?_
  cases found with
  | guard g => exact absent _ fun _ h => h.reliable
  | _ => exact .pure _ fun _ h => answers_of_abort?_eq_none rfl h.reliable

/-! ## Operations -/

/-- **Every operation that raises no fault** leads to a shelf that can be relied on, and what it
reports is excused. -/
theorem run {operation : Operation} (hraises : operation.raises = false) :
    LeadsExcused kind operation.own? (Reliable kind [])
      (Shelf.run (Library.vault kind).services operation)
      (Answers kind operation.own?) := by
  cases operation with
  | digestCreate name algorithm outputLength =>
    exact create fun items => Digest.changesCharge_create algorithm outputLength
  | digestFeed name data offset len =>
    exact onDigest (fun _ => rfl) fun _ _ h => Digest.keepsCharge_feedRange h data offset len
  | digestFeedByte name byte =>
    exact onDigest (fun _ => rfl) fun _ _ h => Digest.keepsCharge_feedByte h byte
  | digestLength name => exact onDigest (fun _ => rfl) fun _ _ h => Digest.keepsCharge_length h
  | digestFinish name => exact onDigest (fun _ => rfl) fun _ _ h => Digest.keepsCharge_finish h
  | digestFinishInto name before => exact finishInto name before
  | digestReset name => exact onDigest (fun _ => rfl) fun _ _ h => Digest.keepsCharge_reset h
  | digestAlgorithm name =>
    exact (digest name).bind fun _ => .pure _ fun _ h => answers_of_abort?_eq_none rfl h.reliable
  | digestOnce algorithm data =>
    exact onNothing (fun _ => rfl) fun _ => Digest.keepsCharge_once algorithm data
  | digestWithin algorithm data panics =>
    refine onNothing (fun _ => rfl) fun _ =>
      Digest.keepsCharge_within algorithm fun digest => ?_
    refine .andThen (Digest.keepsCharge_feedRange Stake.has_hold data 0 data.length) fun _ => ?_
    cases panics with
    | none => exact Digest.keepsCharge_finish Stake.has_hold
    | some message => exact .fail rfl fun _ h => h
  | keyGenerate name type => exact create fun items => KeySpec.changesCharge_generate type
  | keyDecode name part type encoded =>
    exact create fun items => KeySpec.changesCharge_decode part type encoded
  | keyEncode name part => exact onKey (fun _ => rfl) fun _ _ h => KeySpec.keepsCharge_encode h part
  | keyType name => exact onKey (fun _ => rfl) fun _ _ h => KeySpec.keepsCharge_type h
  | encapsulate name => exact onKey (fun _ => rfl) fun _ _ h => KeySpec.keepsCharge_encapsulate h
  | decapsulate name ciphertext =>
    exact onKey (fun _ => rfl) fun _ _ h => KeySpec.keepsCharge_decapsulate h ciphertext
  | signerCreate name keyName => exact createFor fun _ _ h => Signer.changesCharge_create h
  | signerFeed name data offset len =>
    exact onSigner (fun _ => rfl) fun _ _ h => keepsCharge_feedMessage h data offset len
  | sign name => exact onSigner (fun _ => rfl) fun _ _ h => Signer.keepsCharge_sign h
  | verifierCreate name keyName => exact createFor fun _ _ h => Verifier.changesCharge_create h
  | verifierFeed name data offset len =>
    exact onVerifier (fun _ => rfl) fun _ _ h => keepsCharge_feedMessage h data offset len
  | verify name signature =>
    exact onVerifier (fun _ => rfl) fun _ _ h => Verifier.keepsCharge_verify h signature
  | pbkdf2 digest password salt iterations length =>
    exact onNothing (fun _ => rfl) fun _ =>
      keepsCharge_pbkdf2 digest password salt iterations length
  | hkdf digest material salt info length =>
    exact onNothing (fun _ => rfl) fun _ => keepsCharge_hkdf digest material salt info length
  | scrypt password salt n r p length =>
    exact onNothing (fun _ => rfl) fun _ => keepsCharge_scrypt password salt n r p length
  | faultsRequired => exact onNothing (fun _ => rfl) fun _ => keepsCharge_requireFaults
  | faultSet flag on =>
    obtain rfl : on = false := hraises
    exact onNothing (fun _ => rfl) fun _ => keepsCharge_clearFault flag
  | faultsReset => exact onNothing (fun _ => rfl) fun _ => keepsCharge_resetFaults
  | faultRaise name flag => cases hraises
  | dispose name => exact (take name).bind fun item => (work_dispose item).answers fun _ => rfl
  | drop name => exact (take name).bind fun item => (work_drop item).answers fun _ => rfl
  | lend name data => exact (take name).bind fun item => lendItem data item
  | debug name => exact (item name).bind fun found => debugItem found
  | sweep => exact onNothing (fun _ => rfl) fun _ => keepsCharge_sweep
  | debugWorld =>
    exact Leads.get.bind fun shelf => .pure _ fun _ h => answers_of_abort?_eq_none rfl h

end LeadsExcused

/-! ## Programs -/

/-- Whether a deed may raise a fault. -/
def Deed.raises : Deed → Bool
  | .run operation => operation.raises
  | .settle => false

section Deeds

variable {shelf : Shelf (Recorded Session)}

/-- **A deed that raises no fault** leaves a shelf that can be relied on. -/
theorem reliable_act {deed : Deed} (h : Reliable kind [] shelf) (hraises : deed.raises = false)
    (hfit : Fit (.vault kind) (act (Library.vault kind).services shelf deed).world) :
    Reliable kind [] (act (Library.vault kind).services shelf deed) := by
  cases deed with
  | run operation =>
    have hrun := (LeadsExcused.run hraises shelf).2 hfit h
    rw [act]
    split at hrun
    · exact hrun.2
    · exact hrun.2
  | settle => exact ⟨h.nodup, (serves_flush shelf.world).2 hfit h.trusts⟩

theorem reliable_after {deeds : List Deed} (h : Reliable kind [] shelf)
    (hraises : ∀ deed ∈ deeds, deed.raises = false)
    (hfit : Fit (.vault kind) (after (Library.vault kind).services shelf deeds).world) :
    Reliable kind [] (after (Library.vault kind).services shelf deeds) := by
  induction deeds generalizing shelf with
  | nil => exact h
  | cons deed deeds ih =>
    obtain ⟨hdeed, hdeeds⟩ := List.forall_mem_cons.mp hraises
    exact ih (reliable_act h hdeed ((grows_after deeds _).fit hfit)) hdeeds hfit

/-- A shelf with nothing on it, in a world that has just been started over a new library. -/
theorem reliable_start {settings : Settings} {supply : Nat → Supply} {turns : List (List Turn)}
    {world : World (Recorded Session)}
    (hstart : World.start settings ⟨.start supply, []⟩ turns = .ok world) :
    Reliable kind [] ⟨world, []⟩ := by
  have hstocked : Stocked (.vault kind) [] ⟨world, []⟩ := stocked_start hstart fun _ => rfl
  have hworld := World.eq_of_start hstart
  refine ⟨hstocked.nodup, hstocked.stands, ?_, ?_, nofun⟩
  · rw [← hworld]
    exact fun _ => rfl
  · rw [← hworld]
    exact Ledger.returns_empty

end Deeds

/-- Every context comes at an address of its own. -/
def apartSupply (n : Nat) : Supply := { exampleSupply n with address := UInt64.ofNat (n + 1) }

/-- The world of a run in the beginning, where the daemon takes a few turns later on. -/
def apartWorld : World (Recorded Session) :=
  ⟨⟨.start apartSupply, []⟩, .empty, [], exampleTurns⟩

end Shelf

end Custody.Held

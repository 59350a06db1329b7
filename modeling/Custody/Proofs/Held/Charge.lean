import Custody.Proofs.Held.Sealed
import Custody.Proofs.Registry.Releases
import Custody.Proofs.Service.Contract

/-!
# What a program relies on

That contexts are there is not enough for a program to be served well: a signer needs a context that
signs, and a verifier one that checks. A `Charge` is a stake together with the roles of some of its
signature contexts. It is trusted in a world (`Trusts`) where the stake stands, the contexts have
these roles, no fault is raised, and every release function returns.

What an action does to a charge is said by a triple on worlds that grow (`Serves`). An action that
may end early says in addition that such an end is excused (`Ends`), so that the rules of this
module put excused actions together to excused ones.

The rules are the ones that every such logic has, for a value, for one action after another, for a
weaker postcondition and a stronger precondition, and a frame rule for facts that do not depend on
the world. The rule for an action that comes after another needs that the first world of the two is
fit if the last one is. That is why a triple says for every world, whatever it is, that the action
lets it grow.
-/

namespace Custody.Held

open Vault

variable {α β : Type} {kind : BackendKind} {own : Option String} {owner : Owner} {domain : Domain}

/-! ## Charges -/

/-- **What a program has at stake, and what its signature contexts are for.** -/
structure Charge where
  /-- What it has at stake. -/
  stake : Stake
  /-- The roles of signature contexts. -/
  roles : List (Address × Role)
  /-- These are contexts of owners that are held. -/
  cast : ∀ pair ∈ roles, (pair.1, Domain.signature) ∈ stake.contexts

namespace Charge

variable (charge : Charge)

/-- The charge with another owner. -/
def hold (owner : Owner) (domain : Domain) : Charge :=
  ⟨charge.stake.hold owner domain, charge.roles, fun pair hpair => .tail _ (charge.cast pair hpair)⟩

/-- The charge with another owner whose context is prepared. -/
def assign (owner : Owner) (role : Role) : Charge where
  stake := charge.stake.hold owner .signature
  roles := (owner.handle.address, role) :: charge.roles
  cast := List.forall_mem_cons.mpr ⟨.head _, (charge.hold owner .signature).cast⟩

/-- The charge with an owner that has taken out its entry. -/
def withdraw (owner : Owner) (taken : Option Entry) : Charge :=
  ⟨charge.stake.withdraw owner taken, charge.roles, charge.cast⟩

/-- The charge with an owner that is still to go. -/
def leave (owner : Owner) : Charge := ⟨charge.stake.leave owner, charge.roles, charge.cast⟩

/-- The charge with a context that has no owner yet. -/
def await (address : Address) (domain : Domain) : Charge :=
  ⟨charge.stake.await address domain, charge.roles, charge.cast⟩

/-- An owner with a context of a kind is on the charge. -/
abbrev Has (owner : Owner) (domain : Domain) : Prop := charge.stake.Has owner domain

/-- The context of an owner has a role. -/
def Plays (owner : Owner) (role : Role) : Prop := (owner.handle.address, role) ∈ charge.roles

end Charge

/-- **A world that a program can rely on.** -/
structure Trusts (kind : BackendKind) (charge : Charge) (world : World (Recorded Session)) :
    Prop where
  /-- The stake stands. -/
  stands : Stands (.vault kind) charge.stake world
  /-- No fault is raised. -/
  faultless : world.session.vault.Faultless
  /-- Every release function returns. -/
  returns : world.registry.ledger.Returns
  /-- The signature contexts have these roles. -/
  roles : ∀ pair ∈ charge.roles, world.session.vault.roleAt pair.1 = some pair.2

/-- A charge with a role is one without it. -/
theorem Trusts.of_assign {charge : Charge} {role : Role} {world : World (Recorded Session)}
    (h : Trusts kind (charge.assign owner role) world) :
    Trusts kind (charge.hold owner .signature) world :=
  ⟨h.stands, h.faultless, h.returns, (List.forall_mem_cons.mp h.roles).2⟩

/-- A signature context that has been prepared. -/
theorem Trusts.assign {charge : Charge} {role : Role} {world : World (Recorded Session)}
    (h : Trusts kind (charge.hold owner .signature) world)
    (hrole : world.session.vault.roleAt owner.handle.address = some role) :
    Trusts kind (charge.assign owner role) world :=
  ⟨h.stands, h.faultless, h.returns, List.forall_mem_cons.mpr ⟨hrole, h.roles⟩⟩

/-! ## Triples -/

/-- **What an action makes of worlds with a property**, while it lets every world grow. -/
def Serves (kind : BackendKind) (pre : World (Recorded Session) → Prop)
    (act : StateM (World (Recorded Session)) α) (post : α → World (Recorded Session) → Prop) :
    Prop :=
  ∀ world, Grows (.vault kind) world (act world).2 ∧ (Fit (.vault kind) (act world).2 →
    pre world → post (act world).1 (act world).2)

/-- **How an action may end**: well, or early with an excuse. -/
def Ends (own : Option String) (failed : World (Recorded Session) → Prop)
    (next : α → World (Recorded Session) → Prop) : Except Abort α → World (Recorded Session) → Prop
  | .ok a, world => next a world
  | .error abort, world => abort.Excused own ∧ failed world

namespace Ends

variable {failed : World (Recorded Session) → Prop} {next : α → World (Recorded Session) → Prop}
  {result : Except Abort α} {world : World (Recorded Session)}

theorem excused (h : Ends own failed next result world) (abort : Abort)
    (hresult : result = .error abort) : abort.Excused own := by
  subst hresult
  exact h.1

/-- However the action ends. -/
theorem always (h : Ends own failed (fun _ => failed) result world) : failed world := by
  cases result with
  | ok a => exact h
  | error abort => exact h.2

end Ends

/-- **An action that brings a charge to another one.** If it ends early, that is excused, and the
charge is as it was. -/
abbrev ChangesCharge (kind : BackendKind) (own : Option String) (charge : Charge)
    (act : Work (Recorded Session) α) (next : α → Charge) : Prop :=
  Serves kind (Trusts kind charge) act
    (Ends own (Trusts kind charge) fun a => Trusts kind (next a))

/-- **An action that serves a charge well**: it leaves the charge as it is however it ends. -/
abbrev KeepsCharge (kind : BackendKind) (own : Option String) (charge : Charge)
    (act : Work (Recorded Session) α) : Prop := ChangesCharge kind own charge act fun _ => charge

namespace Serves

variable {pre : World (Recorded Session) → Prop} {failed : World (Recorded Session) → Prop}

theorem pure (a : α) {post : α → World (Recorded Session) → Prop}
    (h : ∀ world, pre world → post a world) : Serves kind pre (Pure.pure a) post :=
  fun world => ⟨.refl world, fun _ hpre => h world hpre⟩

theorem bind {act : StateM (World (Recorded Session)) α}
    {rest : α → StateM (World (Recorded Session)) β} {mid : α → World (Recorded Session) → Prop}
    {post : β → World (Recorded Session) → Prop} (h : Serves kind pre act mid)
    (hrest : ∀ a, Serves kind (mid a) (rest a) post) : Serves kind pre (act >>= rest) post := by
  intro world
  obtain ⟨hgrows, hact⟩ := h world
  obtain ⟨hgrows', hnext⟩ := hrest (act world).1 (act world).2
  exact ⟨hgrows.trans hgrows', fun hfit hpre => hnext hfit (hact (hgrows'.fit hfit) hpre)⟩

/-- Less may be asked for afterwards. -/
theorem weaken {act : StateM (World (Recorded Session)) α}
    {post post' : α → World (Recorded Session) → Prop} (h : Serves kind pre act post)
    (hpost : ∀ a world, post a world → post' a world) : Serves kind pre act post' := fun world =>
  ⟨(h world).1, fun hfit hpre => hpost _ _ ((h world).2 hfit hpre)⟩

/-- What is known of the world before. -/
theorem strengthen {act : StateM (World (Recorded Session)) α}
    {pre' : World (Recorded Session) → Prop} {post : α → World (Recorded Session) → Prop}
    (h : Serves kind pre act post) (hpre : ∀ world, pre' world → pre world) :
    Serves kind pre' act post := fun world =>
  ⟨(h world).1, fun hfit h' => (h world).2 hfit (hpre world h')⟩

/-- A fact that does not depend on the world holds afterwards as it did before. -/
theorem frame {act : StateM (World (Recorded Session)) α} (fact : Prop)
    {post : α → World (Recorded Session) → Prop} (h : Serves kind pre act post) :
    Serves kind (fun world => fact ∧ pre world) act fun a world => fact ∧ post a world :=
  fun world => ⟨(h world).1, fun hfit hpre => ⟨hpre.1, (h world).2 hfit hpre.2⟩⟩

/-! ### Actions that may end early -/

variable {next : α → World (Recorded Session) → Prop}

/-- An action that may end early, and another that comes after it. -/
theorem andThen {act : Work (Recorded Session) α} {rest : α → Work (Recorded Session) β}
    {next' : β → World (Recorded Session) → Prop} (h : Serves kind pre act (Ends own failed next))
    (hrest : ∀ a, Serves kind (next a) (rest a) (Ends own failed next')) :
    Serves kind pre (act >>= rest : Work (Recorded Session) β) (Ends own failed next') := by
  have hcont : ∀ result : Except Abort α, Serves kind (Ends own failed next result)
      (ExceptT.bindCont rest result) (Ends own failed next') := by
    intro result
    cases result with
    | ok a => exact hrest a
    | error abort => exact pure _ fun _ h => h
  exact bind h hcont

theorem ofState {act : StateM (World (Recorded Session)) α} (h : Serves kind pre act next) :
    Serves kind pre (Act.ofState act) (Ends own failed next) := h

theorem ofExcept (result : Except Abort α) :
    Serves kind (Ends own failed next result) (Act.ofExcept result) (Ends own failed next) :=
  pure result fun _ h => h

/-- An action that ends well without doing anything. -/
theorem done (a : α) (h : ∀ world, pre world → next a world) :
    Serves kind pre (Pure.pure a : Work (Recorded Session) α) (Ends own failed next) :=
  pure (Except.ok a) h

/-- Less may be asked for afterwards. -/
theorem mapEnds {act : Work (Recorded Session) α} {failed' : World (Recorded Session) → Prop}
    {next' : α → World (Recorded Session) → Prop} (h : Serves kind pre act (Ends own failed next))
    (hfailed : ∀ world, failed world → failed' world)
    (hnext : ∀ a world, next a world → next' a world) :
    Serves kind pre act (Ends own failed' next') := by
  refine h.weaken ?_
  rintro (abort | a) world hends
  · exact ⟨hends.1, hfailed world hends.2⟩
  · exact hnext a world hends

/-- What was known before is still known when the action has not ended early. -/
theorem remember {act : Work (Recorded Session) α} (fact : Prop)
    (h : Serves kind pre act (Ends own failed next)) :
    Serves kind (fun world => fact ∧ pre world) act
      (Ends own failed fun a world => fact ∧ next a world) := by
  have hframe : Serves kind (fun world => fact ∧ pre world) act
    fun result world => fact ∧ Ends own failed next result world := h.frame fact
  refine hframe.weaken ?_
  rintro (abort | a) world ⟨hfact, hends⟩
  · exact hends
  · exact ⟨hfact, hends⟩

/-- An end that is known to be excused. -/
theorem fail {abort : Abort} (h : abort.Excused own) (hfailed : ∀ world, pre world → failed world) :
    Serves kind pre (Act.ofExcept (.error abort)) (Ends own failed next) :=
  pure _ fun world hpre => ⟨h, hfailed world hpre⟩

end Serves

end Custody.Held

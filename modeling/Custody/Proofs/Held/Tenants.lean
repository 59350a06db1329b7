import Custody.Proofs.Estate.Discharge
import Custody.Proofs.Held.Requests

/-!
# Tenants

The contexts of a library, put down as a list of addresses with their kinds (`Library.Lets`),
and the contexts that a registry answers for: one for every entry that is in its table or on its
way to be released (`Estate.tenants`). When the registry acts, what leaves the second list is
what was released, and freeing it takes it off the first list as well, by calls that are made
with contexts that are there (`Library.Lets.free`).

Neither list is ordered in any way that matters, so that all statements are up to permutation. What
makes the account exact is that no address occurs twice: a context that is freed leaves all the
others on the list, and one that is made at a new address can join it.
-/

namespace Custody

open Held

variable {σ : Type} {library : Library σ} {recorded recorded' : Recorded σ}
  {contexts contexts' : List (Address × Domain)} {made : Address × Domain} {call : Call}

/-- **The contexts of a library are those on a list**, which names no address twice. -/
structure Library.Lets (library : Library σ) (recorded : Recorded σ)
    (contexts : List (Address × Domain)) : Prop where
  /-- No address is named twice. -/
  nodup : (contexts.map Prod.fst).Nodup
  /-- There is a context of a kind where the list says so, and nowhere else. -/
  there : ∀ address domain,
    library.recordedAt recorded address = some domain ↔ (address, domain) ∈ contexts

namespace Library.Lets

theorem perm (h : library.Lets recorded contexts) (hperm : contexts.Perm contexts') :
    library.Lets recorded contexts' where
  nodup := (hperm.map Prod.fst).nodup_iff.mp h.nodup
  there address domain := (h.there address domain).trans hperm.mem_iff

theorem eq_none_iff (h : library.Lets recorded contexts) (address : Address) :
    library.recordedAt recorded address = none ↔ address ∉ contexts.map Prod.fst := by
  rw [Option.eq_none_iff_forall_ne_some, List.mem_map]
  constructor
  · rintro hnone ⟨⟨_, domain⟩, hmem, rfl⟩
    exact hnone domain ((h.there _ _).mpr hmem)
  · intro hout domain heq
    exact hout ⟨(address, domain), (h.there _ _).mp heq, rfl⟩

/-- Calls that leave the contexts as they are. -/
theorem tends (h : library.Lets recorded contexts) {targets : List (Address × Domain)}
    (htends : library.Tends targets recorded recorded') : library.Lets recorded' contexts where
  nodup := h.nodup
  there address domain := by rw [htends.recordedAt, h.there]

/-- A context that is made at a new address. -/
theorem grant (h : library.Lets recorded contexts)
    (hgranted : (library.note recorded.state call).granted? = some made)
    (hnew : library.recordedAt recorded made.1 = none) :
    library.Lets (library.after recorded call) (made :: contexts) where
  nodup := List.nodup_cons.mpr ⟨(h.eq_none_iff _).mp hnew, h.nodup⟩
  there address domain := by
    rw [recordedAt_after, Call.kindAfter,
      show call.granted? (library.note recorded.state call).reply = some made from hgranted,
        List.mem_cons]
    by_cases haddress : address = made.1
    · subst haddress
      have hout : (made.1, domain) ∉ contexts := fun hmem =>
        (h.eq_none_iff _).mp hnew (List.mem_map.mpr ⟨_, hmem, rfl⟩)
      simp [Prod.ext_iff, hout, eq_comm]
    · simp [Prod.ext_iff, haddress, h.there]

/-- A context that is freed. -/
theorem freed (h : library.Lets recorded (made :: contexts)) (hfrees : call.frees? = some made) :
    library.Lets (library.after recorded call) contexts where
  nodup := (List.nodup_cons.mp h.nodup).2
  there address domain := by
    have hout := (List.nodup_cons.mp h.nodup).1
    have hmade : library.recordedAt recorded made.1 = some made.2 :=
      (h.there _ _).mpr List.mem_cons_self
    rw [recordedAt_after]
    by_cases haddress : address = made.1
    · subst haddress
      rw [hmade, Call.kindAfter_of_frees? hfrees]
      have hout' : (made.1, domain) ∉ contexts := fun hmem => hout (List.mem_map.mpr ⟨_, hmem, rfl⟩)
      simp [hout']
    · rw [Call.kindAfter_of_ne, h.there]
      · simp [Prod.ext_iff, haddress]
      · intro other hgranted
        rw [Call.granted?_of_makes? (Call.makes?_of_frees? hfrees)] at hgranted
        cases hgranted
      · intro other hother
        rw [hfrees] at hother
        exact haddress (congrArg Prod.fst (Option.some.inj hother)).symm

end Library.Lets

/-! ## Contexts that are freed -/

/-- The context that entering a release function frees. -/
def Entered.context (entered : Entered Domain) : Address × Domain :=
  (entered.handle.address, entered.effect)

/-- The call that frees it. -/
def Entered.disposal (entered : Entered Domain) : Call :=
  entered.effect.disposal entered.handle.address

theorem snd_free (released : List (Entered Domain)) (recorded : Recorded σ) :
    (World.free library.services released recorded).2
      = library.afterAll recorded (released.map Entered.disposal) := by
  induction released generalizing recorded with
  | nil => rfl
  | cons entered released ih =>
    have hbackend : entered.effect.backend library.services = library.backend.recorded := by
      cases entered.effect <;> rfl
    rw [World.free, hbackend]
    exact ih _

/-- **Freeing the contexts of a registry** takes them off the list, by calls made with contexts
that are there. -/
theorem Library.Lets.free (released : List (Entered Domain))
    (h : library.Lets recorded (released.map Entered.context ++ contexts))
    (hproper : library.Proper recorded.log) :
    library.Lets (World.free library.services released recorded).2 contexts
      ∧ library.Proper (World.free library.services released recorded).2.log := by
  rw [snd_free]
  induction released generalizing recorded with
  | nil => exact ⟨h, hproper⟩
  | cons entered released ih =>
    have hthere : library.recordedAt recorded entered.context.1 = some entered.context.2 :=
      (h.there _ _).mpr List.mem_cons_self
    have hlets : library.Lets (library.after recorded entered.disposal)
        (released.map Entered.context ++ contexts) := h.freed (Domain.frees?_disposal _ _)
    refine ih hlets ?_
    rw [log_after, proper_append, proper_singleton]
    refine ⟨hproper, fun target hmem => ?_⟩
    rw [show (library.note recorded.state entered.disposal).call.targets = [entered.context] from
      Domain.targets_disposal _ _, List.mem_singleton] at hmem
    exact hmem ▸ hthere

/-! ## Contexts that a registry answers for -/

namespace Estate

variable {s s' : Estate Domain} {released : List Entry} {entered : List (Entered Domain)}

/-- The context behind an entry. -/
def contextOf? (ledger : Ledger Domain) (entry : Entry) : Option (Address × Domain) :=
  (ledger.effectOf? entry.action).map (entry.address, ·)

/-- **The contexts that a registry answers for.** -/
def tenants (s : Estate Domain) : List (Address × Domain) :=
  (s.registry.table.entries ++ s.moving).filterMap (contextOf? s.registry.ledger)

theorem filterMap_contextOf? {ledger : Ledger Domain}
    (h : List.Forall₂ (Enters ledger) released entered) :
    released.filterMap (contextOf? ledger) = entered.map Entered.context := by
  induction h with
  | nil => rfl
  | @cons entry entered released rest henters _ ih =>
    have hcontext : contextOf? ledger entry = some entered.context := by
      rw [contextOf?, henters.effect, Entry.address, ← henters.handle]
      rfl
    rw [List.filterMap_cons_some hcontext, ih, List.map_cons]

/-- What a registry does not answer for any more has been released. -/
theorem Discharge.tenants_perm (h : Discharge s s' released entered) :
    s.tenants.Perm (entered.map Entered.context ++ s'.tenants) := by
  have hledger : contextOf? s'.registry.ledger = contextOf? s.registry.ledger := by
    funext entry
    rw [contextOf?, h.effects, contextOf?]
  have hperm := h.conserved.filterMap (contextOf? s.registry.ledger)
  rw [List.filterMap_append (l := released), filterMap_contextOf? h.behalf, ← hledger] at hperm
  rw [tenants, ← hledger]
  exact hperm

end Estate

end Custody

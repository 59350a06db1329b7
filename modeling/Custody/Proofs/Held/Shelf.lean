import Custody.Held.Shelf
import Custody.Proofs.Held.Adapters
import Custody.Proofs.Service.Outcomes

/-!
# Things on a shelf

What a program has at stake that keeps its things on a shelf: the owners of the things that have
one. Every operation leads from a shelf whose stake stands to a shelf whose stake stands
(`Shelf.LeadsStocked.run`), also where it has a setback on its way.

Between its steps an operation may have taken one thing off the shelf, or made one that is not
yet on it (`Shelf.Spare`). It may also have looked one up, which then is on the shelf and whose
context can be used (`Shelf.Shows`).

The rules for steps (`Shelf.Leads`) leave open what is known after a setback, so that they serve for
more than the stake: for a lookup, for taking a thing off the shelf and for putting one on it there
is one rule each, in terms of what is to hold when the name is there and when it is not. Here a
setback leaves the shelf in order (`Shelf.LeadsStocked`), with nothing beside it.
-/

namespace Custody.Held

variable {σ α β : Type}

/-- The owner of a thing with the kind of its context. -/
def Item.holding? : Item → Option (Owner × Domain)
  | digest d => some (d.owner, .digest)
  | key k => some (k.owner, .keySpec)
  | signer s => some (s.owner, .signature)
  | verifier v => some (v.owner, .signature)
  | guard _ => none

namespace Shelf

/-- The owners of things, each with the kind of its context. -/
def holdings (items : List (String × Item)) : List (Owner × Domain) :=
  items.filterMap fun item => item.2.holding?

/-- The stake of somebody who holds these owners and nothing else. -/
def stakeOf (held : List (Owner × Domain)) : Stake := ⟨held, [], [], []⟩

theorem holdings_cons (name : String) (new : Item) (items : List (String × Item)) :
    holdings ((name, new) :: items) = new.holding?.toList ++ holdings items := by
  unfold holdings
  rw [List.filterMap_cons]
  cases new.holding? with
  | none => rfl
  | some holding => rfl

/-! ## Finding a thing -/

section Items

variable {items : List (String × Item)} {name : String} {item : Item}

theorem mem_of_lookup (h : items.lookup name = some item) : (name, item) ∈ items := by
  obtain ⟨before, later, heq, -⟩ := List.lookup_eq_some_iff.mp h
  exact heq ▸ List.mem_append_right _ List.mem_cons_self

theorem filter_of_lookup_eq_none (h : items.lookup name = none) :
    items.filter (·.1 ≠ name) = items := by
  rw [List.filter_eq_self]
  intro pair hpair
  have hne := bne_iff_ne.mp (List.lookup_eq_none_iff.mp h pair hpair)
  exact decide_eq_true hne.symm

/-- A thing that is found is the only one of its name. -/
theorem perm_of_lookup (hnodup : (items.map Prod.fst).Nodup) (h : items.lookup name = some item) :
    items.Perm ((name, item) :: items.filter (·.1 ≠ name)) := by
  induction items with
  | nil => cases h
  | cons first rest ih =>
    obtain ⟨other, found⟩ := first
    rw [List.map_cons, List.nodup_cons] at hnodup
    by_cases heq : name = other
    · subst heq
      rw [List.lookup_cons_self] at h
      obtain rfl := Option.some.inj h
      have hrest : rest.filter (·.1 ≠ name) = rest := by
        rw [List.filter_eq_self]
        intro pair hpair
        refine decide_eq_true fun hname => hnodup.1 ?_
        exact hname ▸ List.mem_map.mpr ⟨pair, hpair, rfl⟩
      rw [List.filter_cons_of_neg (by simp), hrest]
    · have hne : (name == other) = false := beq_eq_false_iff_ne.mpr heq
      rw [List.lookup_cons, hne] at h
      rw [List.filter_cons_of_pos (by simpa using fun hc => heq hc.symm)]
      exact ((ih hnodup.2 h).cons _).trans (List.Perm.swap ..)

theorem holdings_perm (hnodup : (items.map Prod.fst).Nodup) (h : items.lookup name = some item) :
    (holdings items).Perm (item.holding?.toList ++ holdings (items.filter (·.1 ≠ name))) := by
  rw [← holdings_cons name]
  exact (perm_of_lookup hnodup h).filterMap _

theorem nodup_filter (hnodup : (items.map Prod.fst).Nodup) :
    ((items.filter (·.1 ≠ name)).map Prod.fst).Nodup :=
  hnodup.sublist (List.filter_sublist.map _)

theorem not_mem_filter : name ∉ (items.filter (·.1 ≠ name)).map Prod.fst := by
  simp

end Items

/-! ## Steps on a shelf -/

section Equations

variable (services : Services σ) {name : String} {found : Item} {shelf : Shelf σ}

theorem take_of_none (h : shelf.items.lookup name = none) :
    take name shelf = (.error (.absent .object), shelf) := by
  have hitem : item name shelf = (.error (.absent .object), shelf) := by
    rw [item, h]
  exact Act.bind_of_error hitem

theorem take_of_some (h : shelf.items.lookup name = some found) :
    take name shelf = (.ok found, { shelf with items := shelf.items.filter (·.1 ≠ name) }) := by
  have hitem : item name shelf = (.ok found, shelf) := by
    rw [item, h]
  exact Act.bind_of_ok hitem

/-- What had the name before is dropped when the new thing is in its place. -/
theorem place_eq (name : String) (new : Item) (shelf : Shelf σ) : place services name new shelf
    = (match shelf.items.lookup name with
        | none => (pure () : Step σ Unit)
        | some old => work (old.drop services))
      { shelf with items := (name, new) :: shelf.items.filter (·.1 ≠ name) } := rfl

end Equations

/-- **A step from shelves with one property to shelves with another**, which lets the world grow.
After a setback something is known of it and of the shelf. -/
def Leads (library : Library σ) (failed : Setback → Shelf (Recorded σ) → Prop)
    (pre : Shelf (Recorded σ) → Prop) (step : Step (Recorded σ) α)
    (post : α → Shelf (Recorded σ) → Prop) : Prop :=
  ∀ shelf, Grows library shelf.world (step shelf).2.world ∧
    (Fit library (step shelf).2.world → pre shelf →
      match (step shelf).1 with
      | .ok a => post a (step shelf).2
      | .error setback => failed setback (step shelf).2)

variable {library : Library σ} {pre : Shelf (Recorded σ) → Prop}

namespace Leads

variable {failed : Setback → Shelf (Recorded σ) → Prop}

theorem pure {post : α → Shelf (Recorded σ) → Prop} (a : α)
    (h : ∀ shelf, pre shelf → post a shelf) : Leads library failed pre (Pure.pure a) post :=
  fun shelf => ⟨.refl shelf.world, fun _ hpre => h shelf hpre⟩

/-- **One step after another.** -/
theorem bind {step : Step (Recorded σ) α} {rest : α → Step (Recorded σ) β}
    {mid : α → Shelf (Recorded σ) → Prop} {post : β → Shelf (Recorded σ) → Prop}
    (h : Leads library failed pre step mid)
    (hrest : ∀ a, Leads library failed (mid a) (rest a) post) :
    Leads library failed pre (step >>= rest) post := by
  intro shelf
  obtain ⟨hgrows, hstep⟩ := h shelf
  cases heq : step shelf with
  | mk result after =>
    rw [heq] at hgrows hstep
    cases result with
    | ok a =>
      rw [Act.bind_of_ok heq]
      obtain ⟨hgrows', hnext⟩ := hrest a after
      exact ⟨hgrows.trans hgrows', fun hfit hpre => hnext hfit (hstep (hgrows'.fit hfit) hpre)⟩
    | error setback =>
      rw [Act.bind_of_error heq]
      exact ⟨hgrows, hstep⟩

/-- Less may be asked for afterwards. -/
theorem weaken {step : Step (Recorded σ) α} {post post' : α → Shelf (Recorded σ) → Prop}
    (h : Leads library failed pre step post) (hpost : ∀ a shelf, post a shelf → post' a shelf) :
    Leads library failed pre step post' := by
  intro shelf
  obtain ⟨hgrows, hstep⟩ := h shelf
  refine ⟨hgrows, fun hfit hpre => ?_⟩
  have hdone := hstep hfit hpre
  cases hresult : (step shelf).1 with
  | ok a =>
    rw [hresult] at hdone
    exact hpost a _ hdone
  | error setback =>
    rw [hresult] at hdone
    exact hdone

theorem setback (setback : Setback) {post : α → Shelf (Recorded σ) → Prop}
    (h : ∀ shelf, pre shelf → failed setback shelf) :
    Leads library failed pre (throw setback) post :=
  fun shelf => ⟨.refl shelf.world, fun _ hpre => h shelf hpre⟩

/-- A step that only reads leads nowhere else. -/
theorem get : Leads library failed pre
    (MonadState.get : Step (Recorded σ) (Shelf (Recorded σ))) fun _ => pre :=
  fun shelf => ⟨.refl shelf.world, fun _ hpre => hpre⟩

/-! ## Looking things up -/

section Finds

variable {name : String} {found : Item → Shelf (Recorded σ) → Prop}

/-- **A thing is looked up.** -/
theorem item (hnone : ∀ shelf, pre shelf → failed (.absent .object) shelf)
    (hsome : ∀ shelf thing, pre shelf → (name, thing) ∈ shelf.items → found thing shelf) :
    Leads library failed pre (item name) found := by
  intro shelf
  unfold Shelf.item
  cases hlookup : shelf.items.lookup name with
  | none => exact ⟨.refl shelf.world, fun _ hpre => hnone shelf hpre⟩
  | some thing =>
    exact ⟨.refl shelf.world, fun _ hpre => hsome shelf thing hpre (mem_of_lookup hlookup)⟩

section Kinds

variable (h : Leads library failed pre (Shelf.item name) found)
  (hother : ∀ thing shelf, found thing shelf → failed (.absent .object) shelf)

include h hother

theorem digest :
    Leads library failed pre (digest name) fun digest => found (.digest digest) := by
  refine h.bind fun thing => ?_
  split
  · exact pure _ fun _ hfound => hfound
  · exact setback _ (hother thing)

theorem key : Leads library failed pre (key name) fun key => found (.key key) := by
  refine h.bind fun thing => ?_
  split
  · exact pure _ fun _ hfound => hfound
  · exact setback _ (hother thing)

theorem signer :
    Leads library failed pre (signer name) fun signer => found (.signer signer) := by
  refine h.bind fun thing => ?_
  split
  · exact pure _ fun _ hfound => hfound
  · exact setback _ (hother thing)

theorem verifier :
    Leads library failed pre (verifier name) fun verifier => found (.verifier verifier) := by
  refine h.bind fun thing => ?_
  split
  · exact pure _ fun _ hfound => hfound
  · exact setback _ (hother thing)

end Kinds

end Finds

/-! ## Taking a thing and placing one -/

/-- **A thing is taken off the shelf.** -/
theorem take {name : String} {post : Item → Shelf (Recorded σ) → Prop}
    (hnone : ∀ shelf, pre shelf → failed (.absent .object) shelf)
    (hsome : ∀ shelf thing, pre shelf → shelf.items.lookup name = some thing →
      post thing { shelf with items := shelf.items.filter (·.1 ≠ name) }) :
    Leads library failed pre (take name) post := by
  intro shelf
  cases hlookup : shelf.items.lookup name with
  | none =>
    rw [take_of_none hlookup]
    exact ⟨.refl shelf.world, fun _ hpre => hnone shelf hpre⟩
  | some thing =>
    rw [take_of_some hlookup]
    exact ⟨.refl shelf.world, fun _ hpre => hsome shelf thing hpre hlookup⟩

/-- **A thing is put on the shelf.** What had its name goes when it has its place, so that this is
the thing beside the shelf then. -/
theorem place {name : String} {new : Item} {gone : Item → Shelf (Recorded σ) → Prop}
    {post : Shelf (Recorded σ) → Prop}
    (hdrop : ∀ old, Leads library failed (gone old) (work (old.drop library.services))
      fun _ => post)
    (hnone : ∀ shelf, pre shelf → shelf.items.lookup name = none →
      post { shelf with items := (name, new) :: shelf.items.filter (·.1 ≠ name) })
    (hsome : ∀ shelf old, pre shelf → shelf.items.lookup name = some old →
      gone old { shelf with items := (name, new) :: shelf.items.filter (·.1 ≠ name) }) :
    Leads library failed pre (place library.services name new) fun _ => post := by
  intro shelf
  rw [place_eq]
  cases hlookup : shelf.items.lookup name with
  | none => exact ⟨.refl shelf.world, fun _ hpre => hnone shelf hpre hlookup⟩
  | some old =>
    obtain ⟨hgrows, hend⟩ :=
      hdrop old { shelf with items := (name, new) :: shelf.items.filter (·.1 ≠ name) }
    exact ⟨hgrows, fun hfit hpre => hend hfit (hsome shelf old hpre hlookup)⟩

end Leads

/-! ## Shelves in order -/

section Stocked

variable (library : Library σ)

/-- **A shelf whose stake stands**, with some more owners that are not on it. -/
structure Stocked (extra : List (Owner × Domain)) (shelf : Shelf (Recorded σ)) : Prop where
  /-- A name is given to one thing at a time. -/
  nodup : (shelf.items.map Prod.fst).Nodup
  /-- The owners of the things and the others are at stake. -/
  stands : Stands library (stakeOf (extra ++ holdings shelf.items)) shelf.world

/-- A shelf with one more thing that is not on it. -/
abbrev Spare (item : Item) (shelf : Shelf (Recorded σ)) : Prop :=
  Stocked library item.holding?.toList shelf

/-- A shelf with a thing on it. -/
structure Shows (item : Item) (shelf : Shelf (Recorded σ)) : Prop where
  /-- The shelf is in order. -/
  stocked : Stocked library [] shelf
  /-- The thing is on it. -/
  mem : ∃ name, (name, item) ∈ shelf.items

/-- A step after which the shelf is in order, also after a setback. -/
abbrev LeadsStocked (pre : Shelf (Recorded σ) → Prop) (step : Step (Recorded σ) α)
    (post : α → Shelf (Recorded σ) → Prop) : Prop :=
  Leads library (fun _ => Stocked library []) pre step post

end Stocked

namespace LeadsStocked

theorem item (name : String) :
    LeadsStocked library (Stocked library []) (item name) (Shows library) :=
  Leads.item (fun _ h => h) fun _ _ h hmem => ⟨h, name, hmem⟩

theorem digest (name : String) : LeadsStocked library (Stocked library []) (digest name)
    fun digest => Shows library (.digest digest) := Leads.digest (item name) fun _ _ h => h.stocked

theorem key (name : String) : LeadsStocked library (Stocked library []) (key name)
    fun key => Shows library (.key key) := Leads.key (item name) fun _ _ h => h.stocked

theorem signer (name : String) : LeadsStocked library (Stocked library []) (signer name)
    fun signer => Shows library (.signer signer) := Leads.signer (item name) fun _ _ h => h.stocked

theorem verifier (name : String) : LeadsStocked library (Stocked library []) (verifier name)
    fun verifier => Shows library (.verifier verifier) :=
  Leads.verifier (item name) fun _ _ h => h.stocked

/-! ## Work on the world -/

/-- The shelf after work that changes what is at stake beside it. -/
theorem stocked_work {act : Work (Recorded σ) α} {next : α → List (Owner × Domain)}
    {shelf : Shelf (Recorded σ)} (hnodup : (shelf.items.map Prod.fst).Nodup)
    (h : Stands library
      ((stakeOf (holdings shelf.items)).upon
        (fun a => stakeOf (next a ++ holdings shelf.items)) (act shelf.world).1)
      (act shelf.world).2) :
    match (Shelf.work act shelf).1 with
    | .ok a => Stocked library (next a) (Shelf.work act shelf).2
    | .error _ => Stocked library [] (Shelf.work act shelf).2 := by
  unfold Shelf.work
  cases hact : act shelf.world with
  | mk result world =>
    rw [hact] at h
    cases result with
    | ok a => exact ⟨hnodup, h⟩
    | error abort => exact ⟨hnodup, h⟩

/-- Work that changes what is at stake beside the shelf. -/
theorem work {act : Work (Recorded σ) α} {extra : List (Owner × Domain)}
    {next : α → List (Owner × Domain)} (h : ∀ held, Runs library (stakeOf (extra ++ held)) act
      ((stakeOf held).upon fun a => stakeOf (next a ++ held))) :
    LeadsStocked library (Stocked library extra) (work act) fun a => Stocked library (next a) := by
  intro shelf
  obtain ⟨hgrows, hstands⟩ := h (holdings shelf.items) shelf.world
  exact ⟨hgrows, fun hfit hstocked => stocked_work hstocked.nodup (hstands hfit hstocked.stands)⟩

/-- Work that needs the context of a thing on the shelf. -/
theorem work_of_shows {act : Work (Recorded σ) α} {item : Item} {owner : Owner} {domain : Domain}
    {next : α → List (Owner × Domain)} (hholding : item.holding? = some (owner, domain))
    (h : ∀ held, (stakeOf held).Has owner domain → Runs library (stakeOf held) act
      ((stakeOf held).upon fun a => stakeOf (next a ++ held))) :
    LeadsStocked library (Shows library item) (Shelf.work act)
      fun a => Stocked library (next a) := by
  intro shelf
  -- The world grows in any case, also where nothing is on the shelf.
  have hgrows := (h [(owner, domain)] (List.Subset.refl _) shelf.world).1
  refine ⟨hgrows, fun hfit hshows => ?_⟩
  obtain ⟨name, hmem⟩ := hshows.mem
  have hheld : (owner, domain) ∈ holdings shelf.items := List.mem_filterMap.mpr ⟨_, hmem, hholding⟩
  have hhas : (stakeOf (holdings shelf.items)).Has owner domain :=
    List.cons_subset.mpr ⟨List.mem_map.mpr ⟨_, hheld, rfl⟩, List.nil_subset _⟩
  exact stocked_work hshows.stocked.nodup ((h _ hhas shelf.world).2 hfit hshows.stocked.stands)

/-- Work that leaves the stake as it is. -/
theorem work_keeps {act : Work (Recorded σ) α} (h : ∀ stake, Keeps library stake act) :
    LeadsStocked library (Stocked library []) (Shelf.work act) fun _ => Stocked library [] :=
  work fun held => .always (h (stakeOf held))

/-- Work that leaves the stake as it is and needs the context of a thing on the shelf. -/
theorem work_uses {act : Work (Recorded σ) α} {item : Item} {owner : Owner} {domain : Domain}
    (hholding : item.holding? = some (owner, domain))
    (h : ∀ stake : Stake, stake.Has owner domain → Keeps library stake act) :
    LeadsStocked library (Shows library item) (Shelf.work act) fun _ => Stocked library [] :=
  work_of_shows hholding fun held hhas => .always (h (stakeOf held) hhas)

/-- A thing that is not on the shelf goes without being disposed of. -/
theorem work_drop (item : Item) :
    LeadsStocked library (Spare library item) (Shelf.work (item.drop library.services))
      fun _ => Stocked library [] := by
  refine work fun held => .always ?_
  cases item with
  | digest d => exact runs_abandon (stakeOf held) d.owner .digest
  | key k => exact runs_abandon (stakeOf held) k.owner .keySpec
  | signer s => exact runs_abandon (stakeOf held) s.owner .signature
  | verifier v => exact runs_abandon (stakeOf held) v.owner .signature
  | guard g => exact g.keeps_clear

/-- A thing that is not on the shelf goes at once. -/
theorem work_dispose (item : Item) :
    LeadsStocked library (Spare library item) (Shelf.work (item.dispose library.services))
      fun _ => Stocked library [] := by
  refine work fun held => .always ?_
  cases item with
  | digest d => exact runs_dispose (stakeOf held) d.owner .digest
  | key k => exact runs_dispose (stakeOf held) k.owner .keySpec
  | signer s => exact runs_dispose (stakeOf held) s.owner .signature
  | verifier v => exact runs_dispose (stakeOf held) v.owner .signature
  | guard g => exact g.keeps_clear

end LeadsStocked

/-! ## Taking a thing and placing one -/

/-- The order of the owners on a stake does not matter. -/
theorem stands_perm {held held' : List (Owner × Domain)} {world : World (Recorded σ)}
    (hperm : held.Perm held') (h : Stands library (stakeOf held) world) :
    Stands library (stakeOf held') world := by
  obtain ⟨s, hs⟩ := h
  exact ⟨s, { hs with
    program := ⟨hs.program.held.trans (hperm.map _), hs.program.disposing, hs.program.leaving⟩
    kinds := fun pair hpair => hs.kinds pair (hperm.mem_iff.mpr hpair) }⟩

namespace LeadsStocked

theorem take (name : String) :
    LeadsStocked library (Stocked library []) (Shelf.take name) (Spare library) :=
  Leads.take (fun _ h => h) fun _ _ h hlookup =>
    ⟨nodup_filter h.nodup, stands_perm (holdings_perm h.nodup hlookup) h.stands⟩

theorem place (name : String) (new : Item) :
    LeadsStocked library (Spare library new) (Shelf.place library.services name new)
      fun _ => Stocked library [] := by
  refine Leads.place work_drop ?_ ?_
  · intro shelf h hlookup
    refine ⟨List.nodup_cons.mpr ⟨not_mem_filter, nodup_filter h.nodup⟩, ?_⟩
    have hstands := h.stands
    rw [← filter_of_lookup_eq_none hlookup, ← holdings_cons name] at hstands
    exact hstands
  · intro shelf old h hlookup
    refine ⟨List.nodup_cons.mpr ⟨not_mem_filter, nodup_filter h.nodup⟩, stands_perm ?_ h.stands⟩
    rw [holdings_cons]
    refine ((holdings_perm h.nodup hlookup).append_left _).trans ?_
    rw [← List.append_assoc, ← List.append_assoc]
    exact List.perm_append_comm.append_right _

/-- A thing that was made gets a name. -/
theorem create {act : Work (Recorded σ) α} {item : α → Item} {name : String}
    (h : ∀ stake : Stake, Runs library stake act
      (stake.upon fun a => { stake with held := (item a).holding?.toList ++ stake.held })) :
    LeadsStocked library (Stocked library []) (do
      Shelf.place library.services name (item (← Shelf.work act))
      return Answer.done) fun _ => Stocked library [] := by
  refine .bind (work fun held => h (stakeOf held)) fun a => ?_
  exact .bind (place name (item a)) fun _ => .pure _ fun _ h => h

/-- An operation that answers with what a step has found. -/
theorem answers {step : Step (Recorded σ) α} {answer : α → Answer}
    {after : Shelf (Recorded σ) → Prop} (h : LeadsStocked library pre step fun _ => after) :
    LeadsStocked library pre (step >>= fun a => Pure.pure (answer a)) fun _ => after :=
  h.bind fun _ => .pure _ fun _ hafter => hafter

section Finds

variable {answer : α → Answer} {name : String}

/-- An operation on a digest that is found on the shelf. -/
theorem onDigest {act : Digest → Work (Recorded σ) α}
    (h : ∀ digest (stake : Stake),
      stake.Has digest.owner .digest → Keeps library stake (act digest)) :
    LeadsStocked library (Stocked library []) (do
      let digest ← Shelf.digest name
      return answer (← Shelf.work (act digest))) fun _ => Stocked library [] :=
  (digest name).bind fun d => (work_uses rfl (h d)).answers

/-- An operation on a key that is found on the shelf. -/
theorem onKey {act : KeySpec → Work (Recorded σ) α}
    (h : ∀ key (stake : Stake), stake.Has key.owner .keySpec → Keeps library stake (act key)) :
    LeadsStocked library (Stocked library []) (do
      let key ← Shelf.key name
      return answer (← Shelf.work (act key))) fun _ => Stocked library [] :=
  (key name).bind fun k => (work_uses rfl (h k)).answers

/-- An operation on a signer that is found on the shelf. -/
theorem onSigner {act : Signer → Work (Recorded σ) α}
    (h : ∀ signer (stake : Stake),
      stake.Has signer.owner .signature → Keeps library stake (act signer)) :
    LeadsStocked library (Stocked library []) (do
      let signer ← Shelf.signer name
      return answer (← Shelf.work (act signer))) fun _ => Stocked library [] :=
  (signer name).bind fun s => (work_uses rfl (h s)).answers

/-- An operation on a verifier that is found on the shelf. -/
theorem onVerifier {act : Verifier → Work (Recorded σ) α}
    (h : ∀ verifier (stake : Stake), stake.Has verifier.owner .signature →
      Keeps library stake (act verifier)) :
    LeadsStocked library (Stocked library []) (do
      let verifier ← Shelf.verifier name
      return answer (← Shelf.work (act verifier))) fun _ => Stocked library [] :=
  (verifier name).bind fun v => (work_uses rfl (h v)).answers

end Finds

/-- A signer or a verifier for a key that is found on the shelf. -/
theorem createFor {act : KeySpec → Work (Recorded σ) α} {item : α → Item} {owner : α → Owner}
    {name keyName : String} (hholding : ∀ a, (item a).holding? = some (owner a, .signature))
    (h : ∀ key (stake : Stake), stake.Has key.owner .keySpec → Runs library stake (act key)
      (stake.upon fun a => stake.hold (owner a) .signature)) :
    LeadsStocked library (Stocked library []) (do
      let key ← Shelf.key keyName
      Shelf.place library.services name (item (← Shelf.work (act key)))
      return Answer.done) fun _ => Stocked library [] := by
  refine (key keyName).bind fun key => ?_
  have hmade : LeadsStocked library (Shows library (.key key)) (Shelf.work (act key))
      fun a => Spare library (item a) := by
    refine work_of_shows rfl fun held hhas => ?_
    simp only [hholding]
    exact h key (stakeOf held) hhas
  exact hmade.bind fun a => (place name (item a)).answers

/-! ## Lending and reading -/

/-- A thing that is not on the shelf is gone after it was lent to a body. -/
theorem work_lend {item : Item} {owner : Owner} {domain : Domain} {body : Work (Recorded σ) α}
    (hholding : item.holding? = some (owner, domain))
    (h : ∀ stake : Stake, Keeps library (stake.hold owner domain) body) :
    LeadsStocked library (Spare library item) (Shelf.work (lend library.services owner body))
      fun _ => Stocked library [] := by
  unfold Spare
  rw [hholding]
  exact work fun held => .always (runs_lend (h (stakeOf held)))

/-- **What a body asks of a thing that is lent to it.** -/
theorem lendItem (data : Bytes) (item : Item) :
    LeadsStocked library (Spare library item) (Shelf.lendItem library.services data item)
      fun _ => Stocked library [] := by
  cases item with
  | digest d => exact work_lend rfl fun stake => .pure _ rfl
  | key k =>
    exact work_lend rfl fun stake => .andThen (KeySpec.keeps_type Stake.has_hold)
      fun _ => keeps_ofExcept _
  | signer s =>
    exact work_lend rfl fun stake => .andThen (Signer.keeps_sign Stake.has_hold)
      fun _ => keeps_ofExcept _
  | verifier v =>
    refine work_lend rfl fun stake => ?_
    exact .andThen (Verifier.keeps_verify Stake.has_hold data) fun _ => keeps_ofExcept _
  | guard g => exact .bind (work_drop (.guard g)) fun _ => .setback _ fun _ h => h

theorem debugItem (found : Item) :
    LeadsStocked library (Shows library found) (Shelf.debugItem found)
      fun _ => Stocked library [] := by
  refine Leads.get.bind fun shelf => ?_
  cases found with
  | guard g => exact .setback _ fun _ h => h.stocked
  | _ => exact .pure _ fun _ h => h.stocked

/-! ## Operations -/

/-- **Every operation keeps the stake of a shelf standing.** -/
theorem run (operation : Operation) :
    LeadsStocked library (Stocked library []) (Shelf.run library.services operation)
      fun _ => Stocked library [] := by
  cases operation with
  | digestCreate name algorithm outputLength =>
    exact create fun stake => Digest.runs_create algorithm outputLength
  | digestFeed name data offset len =>
      exact onDigest fun _ _ h => Digest.keeps_feedRange h data offset len
  | digestFeedByte name byte => exact onDigest fun _ _ h => Digest.keeps_feedByte h byte
  | digestLength name => exact onDigest fun _ _ h => Digest.keeps_length h
  | digestFinish name => exact onDigest fun _ _ h => Digest.keeps_finish h
  | digestFinishInto name before =>
      exact onDigest fun _ _ h => .ofState (Digest.keeps_finishInto h before)
  | digestReset name => exact onDigest fun _ _ h => Digest.keeps_reset h
  | digestAlgorithm name => exact (digest name).bind fun _ => .pure _ fun _ h => h.stocked
  | digestOnce algorithm data =>
      exact (work_keeps fun stake => Digest.keeps_once algorithm data).answers
  | digestWithin algorithm data panics =>
    refine (work_keeps fun stake => Digest.keeps_within algorithm fun digest => ?_).answers
    refine .andThen (Digest.keeps_feedRange Stake.has_hold data 0 data.length) fun _ => ?_
    cases panics with
    | none => exact Digest.keeps_finish Stake.has_hold
    | some message => exact keeps_ofExcept _
  | keyGenerate name type => exact create fun stake => KeySpec.runs_generate type
  | keyDecode name part type encoded =>
      exact create fun stake => KeySpec.runs_decode part type encoded
  | keyEncode name part => exact onKey fun _ _ h => KeySpec.keeps_encode h part
  | keyType name => exact onKey fun _ _ h => KeySpec.keeps_type h
  | encapsulate name => exact onKey fun _ _ h => KeySpec.keeps_encapsulate h
  | decapsulate name ciphertext => exact onKey fun _ _ h => KeySpec.keeps_decapsulate h ciphertext
  | signerCreate name keyName => exact createFor (fun _ => rfl) fun _ _ h => Signer.runs_create h
  | signerFeed name data offset len =>
      exact onSigner fun _ _ h => keeps_feedMessage h data offset len
  | sign name => exact onSigner fun _ _ h => Signer.keeps_sign h
  | verifierCreate name keyName =>
      exact createFor (fun _ => rfl) fun _ _ h => Verifier.runs_create h
  | verifierFeed name data offset len =>
      exact onVerifier fun _ _ h => keeps_feedMessage h data offset len
  | verify name signature => exact onVerifier fun _ _ h => Verifier.keeps_verify h signature
  | pbkdf2 digest password salt iterations length =>
    exact (work_keeps fun stake => keeps_pbkdf2 digest password salt iterations length).answers
  | hkdf digest material salt info length =>
    exact (work_keeps fun stake => keeps_hkdf digest material salt info length).answers
  | scrypt password salt n r p length =>
    exact (work_keeps fun stake => keeps_scrypt password salt n r p length).answers
  | faultsRequired => exact (work_keeps fun stake => keeps_requireFaults).answers
  | faultSet flag on => exact (work_keeps fun stake => keeps_setFault flag on).answers
  | faultsReset => exact (work_keeps fun stake => keeps_resetFaults).answers
  | faultRaise name flag => exact create fun stake => (Guard.keeps_raise flag).always
  | dispose name => exact (take name).bind fun item => (work_dispose item).answers
  | drop name => exact (take name).bind fun item => (work_drop item).answers
  | lend name data => exact (take name).bind fun item => lendItem data item
  | debug name => exact (item name).bind fun found => debugItem found
  | sweep => exact (work_keeps fun stake => keeps_sweep).answers
  | debugWorld => exact Leads.get.bind fun shelf => .pure _ fun _ h => h

end LeadsStocked

end Shelf

end Custody.Held

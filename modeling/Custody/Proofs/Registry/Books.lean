import Custody.Proofs.Registry.Ledger
import Custody.Proofs.SlotTable.Sound
import Custody.Registry.Owner

/-!
# Books on owners

The table of a registry and its ledger say the same about every owner that was ever accepted,
each in its own way: its entry is in the table, or it has left the table and its handle is about
to be released, or its action is done. `Books` says that exactly one of these is the case for
each of them (`Located`), and that there is nothing in the table that belongs to nobody.

The list of the entries that have left the table and are still to be released is what makes the
property one that every step keeps: an entry is taken out of the table in one step and released
in a later one (`Books.take`, `Books.run`), and in between anything may happen.

An owner is told apart by its action, a number that was never used before and is never used again.
That is why the books may mention owners of long ago without harm, and why it does no harm either
that their keys find nothing any more: their actions are done. An action that was prepared for a
handle and then refused belongs to nobody, and is never done.
-/

namespace Custody

/-- The entry of an owner. -/
def Owner.entry (owner : Owner) : Entry := ⟨owner.action, owner.handle, owner.label, owner.token⟩

variable {ε : Type} {table table' rest : SlotTable} {ledger : Ledger ε} {owners : List Owner}
  {refused : List ActionId} {moving : List Entry} {owner other : Owner} {entry : Entry}
  {key : SlotKey}

/-- **Where the entry of an owner is**: in the table, on its way to be released, or released. -/
inductive Located (table : SlotTable) (ledger : Ledger ε) (moving : List Entry) (owner : Owner) :
    Prop
  | present (found : table.find? owner.key = some owner.entry) (still : owner.entry ∉ moving)
      (waiting : ledger.isCompleted owner.action = false)
  | moving (gone : table.find? owner.key ≠ some owner.entry) (moves : owner.entry ∈ moving)
      (waiting : ledger.isCompleted owner.action = false)
  | released (gone : table.find? owner.key ≠ some owner.entry) (still : owner.entry ∉ moving)
      (done : ledger.isCompleted owner.action = true)

/-- **The books of a registry on its owners are in order.** -/
structure Books (table : SlotTable) (ledger : Ledger ε) (owners : List Owner)
    (refused : List ActionId) (moving : List Entry) : Prop where
  /-- The table agrees with itself. -/
  sound : table.Sound
  /-- No release function panics when it is destroyed. -/
  quiet : ledger.Quiet
  /-- Actions and tokens are made in pairs. -/
  paired : ledger.tokens.length = ledger.actions.length
  /-- The action and the token of an owner were made together. -/
  numbered : ∀ owner ∈ owners, owner.action < ledger.actions.length ∧ owner.token = owner.action
  /-- The action of an owner is bound to its handle. -/
  handled : ∀ owner ∈ owners, ledger.handleOf? owner.action = some owner.handle
  /-- No two owners have the same action. -/
  actions_nodup : (owners.map Owner.action).Nodup
  /-- No two owners have the same key. -/
  keys_nodup : (owners.map Owner.key).Nodup
  /-- A key that does not find the entry of its owner any more is from an earlier generation. -/
  current : ∀ owner ∈ owners, table.find? owner.key = some owner.entry
    ∨ owner.key.generation.toNat < table.vacancies owner.key.index
  /-- What is in the table is the entry of an owner, under the key of that owner. -/
  owned : ∀ key entry, table.find? key = some entry →
    ∃ owner ∈ owners, owner.key = key ∧ owner.entry = entry
  /-- What is on its way to be released is the entry of an owner. -/
  owned_moving : ∀ entry ∈ moving, ∃ owner ∈ owners, owner.entry = entry
  /-- Nothing is on its way twice. -/
  moving_nodup : moving.Nodup
  /-- The entry of every owner is in one place. -/
  located : ∀ owner ∈ owners, Located table ledger moving owner
  /-- An action that was refused is nobody's, and is not done. -/
  refused_idle : ∀ id ∈ refused, id < ledger.actions.length ∧ ledger.isCompleted id = false
    ∧ ∀ owner ∈ owners, owner.action ≠ id

theorem books_empty : Books .empty (.empty : Ledger ε) [] [] [] where
  sound := SlotTable.sound_empty
  quiet := Ledger.quiet_empty
  paired := rfl
  numbered := by simp
  handled := by simp
  actions_nodup := List.nodup_nil
  keys_nodup := List.nodup_nil
  current := by simp
  owned key entry h := by simp [SlotTable.find?, SlotTable.empty] at h
  owned_moving := by simp
  moving_nodup := List.nodup_nil
  located := by simp
  refused_idle := by simp

namespace Located

/-- Where an entry is depends on nothing but the three records of it. -/
theorem of_iff {ledger' : Ledger ε} {moving' : List Entry} (h : Located table ledger moving owner)
    (hfound : table'.find? owner.key = some owner.entry ↔ table.find? owner.key = some owner.entry)
    (hmoving : owner.entry ∈ moving' ↔ owner.entry ∈ moving)
    (hdone : ledger'.isCompleted owner.action = ledger.isCompleted owner.action) :
    Located table' ledger' moving' owner := by
  cases h with
  | present found still waiting =>
    exact .present (hfound.mpr found) (fun hc => still (hmoving.mp hc)) (hdone.trans waiting)
  | moving gone moves waiting =>
    exact .moving (fun hc => gone (hfound.mp hc)) (hmoving.mpr moves) (hdone.trans waiting)
  | released gone still done =>
    exact .released (fun hc => gone (hfound.mp hc)) (fun hc => still (hmoving.mp hc))
      (hdone.trans done)

theorem not_done_of_found (h : Located table ledger moving owner)
    (hfound : table.find? owner.key = some owner.entry) :
    ledger.isCompleted owner.action = false := by
  cases h with
  | present found still waiting => exact waiting
  | moving gone => exact absurd hfound gone
  | released gone => exact absurd hfound gone

theorem not_moving_of_found (h : Located table ledger moving owner)
    (hfound : table.find? owner.key = some owner.entry) : owner.entry ∉ moving := by
  cases h with
  | present found still => exact still
  | moving gone => exact absurd hfound gone
  | released gone => exact absurd hfound gone

theorem not_found_of_moving (h : Located table ledger moving owner)
    (hmoving : owner.entry ∈ moving) :
    table.find? owner.key ≠ some owner.entry := fun hfound => h.not_moving_of_found hfound hmoving

theorem not_done_of_moving (h : Located table ledger moving owner)
    (hmoving : owner.entry ∈ moving) :
    ledger.isCompleted owner.action = false := by
  cases h with
  | present found still => exact absurd hmoving still
  | moving gone moves waiting => exact waiting
  | released gone still => exact absurd hmoving still

/-- What is neither in the table nor on its way is released. -/
theorem done_of_gone (h : Located table ledger moving owner)
    (hgone : table.find? owner.key ≠ some owner.entry) (hstill : owner.entry ∉ moving) :
    ledger.isCompleted owner.action = true := by
  cases h with
  | present found => exact absurd found hgone
  | moving gone moves => exact absurd moves hstill
  | released gone still done => exact done

end Located

namespace Books

/-! ## Telling owners apart -/

section Apart

variable (h : Books table ledger owners refused moving)

include h

theorem eq_of_action_eq (ho : owner ∈ owners) (hp : other ∈ owners)
    (heq : owner.action = other.action) : owner = other :=
  List.inj_on_of_nodup_map h.actions_nodup ho hp heq

theorem eq_of_entry_eq (ho : owner ∈ owners) (hp : other ∈ owners)
    (heq : owner.entry = other.entry) : owner = other :=
  h.eq_of_action_eq ho hp (congrArg Entry.action heq)

theorem eq_of_key_eq (ho : owner ∈ owners) (hp : other ∈ owners) (heq : owner.key = other.key) :
    owner = other :=
  List.inj_on_of_nodup_map h.keys_nodup ho hp heq

/-- Two owners whose entries are in one slot are the same owner. -/
theorem eq_of_index_eq (ho : owner ∈ owners) (hp : other ∈ owners)
    (hfound : table.find? owner.key = some owner.entry)
    (hfound' : table.find? other.key = some other.entry) (heq : owner.key.index = other.key.index) :
    owner = other :=
  h.eq_of_key_eq ho hp (SlotTable.key_eq_of_index_eq hfound hfound' heq)

/-- What the key of an owner finds is the entry of that owner. -/
theorem entry_of_find? (ho : owner ∈ owners) (hfound : table.find? owner.key = some entry) :
    entry = owner.entry := by
  obtain ⟨p, hp, hkey, hentry⟩ := h.owned _ _ hfound
  rw [← hentry, h.eq_of_key_eq hp ho hkey]

theorem entries_iff :
    entry ∈ table.entries ↔ ∃ owner ∈ owners, owner.entry = entry
      ∧ table.find? owner.key = some owner.entry := by
  rw [SlotTable.mem_entries]
  constructor
  · rintro ⟨key, hfound⟩
    obtain ⟨owner, ho, rfl, rfl⟩ := h.owned key entry hfound
    exact ⟨owner, ho, rfl, hfound⟩
  · rintro ⟨owner, -, rfl, hfound⟩
    exact ⟨owner.key, hfound⟩

end Apart

/-! ## Ledgers that change in nothing that matters -/

theorem of_ledger (h : Books table ledger owners refused moving) {ledger' : Ledger ε}
    (hquiet : ledger'.Quiet) (htokens : ledger'.tokens.length = ledger.tokens.length)
    (hactions : ledger'.actions.length = ledger.actions.length)
    (hhandles : ∀ id, ledger'.handleOf? id = ledger.handleOf? id)
    (hdone : ∀ id, ledger'.isCompleted id = ledger.isCompleted id) :
    Books table ledger' owners refused moving where
  __ := h
  quiet := hquiet
  handled owner ho := (hhandles _).trans (h.handled owner ho)
  paired := by rw [htokens, hactions, h.paired]
  numbered owner ho := by rw [hactions]; exact h.numbered owner ho
  located owner ho := (h.located owner ho).of_iff Iff.rfl Iff.rfl (hdone _)
  refused_idle id hid := by rw [hactions, hdone]; exact h.refused_idle id hid

theorem kill (h : Books table ledger owners refused moving) (token : TokenId) :
    Books table (ledger.kill token) owners refused moving :=
  h.of_ledger h.quiet (by simp) rfl (fun _ => rfl) (fun _ => rfl)

theorem letGo (h : Books table ledger owners refused moving) (id : ActionId) :
    Books table (ledger.letGo id).2 owners refused moving :=
  h.of_ledger (h.quiet.letGo id) (by simp) (by simp) (by simp) (by simp)

/-- It does not matter in which order entries are on their way. -/
theorem perm (h : Books table ledger owners refused moving) {moving' : List Entry}
    (hperm : moving.Perm moving') : Books table ledger owners refused moving' where
  __ := h
  owned_moving entry he := h.owned_moving entry (hperm.mem_iff.mpr he)
  moving_nodup := hperm.nodup_iff.mp h.moving_nodup
  located owner ho := (h.located owner ho).of_iff Iff.rfl hperm.mem_iff.symm rfl

/-! ## Owners that come -/

/-- An action and a token are made that belong to nobody yet. -/
theorem prepare (h : Books table ledger owners refused moving) {release : Release ε}
    (hrelease : release.bursts = none) (handle : Handle) :
    Books table (ledger.prepare handle release) owners refused moving where
  __ := h
  quiet := h.quiet.prepare handle hrelease
  paired := by simp [h.paired]
  numbered owner ho := by
    obtain ⟨hlt, htoken⟩ := h.numbered owner ho
    refine ⟨?_, htoken⟩
    rw [Ledger.length_actions_prepare]
    exact Nat.lt_succ_of_lt hlt
  handled owner ho := by
    rw [Ledger.handleOf?_prepare, if_neg (Nat.ne_of_lt (h.numbered owner ho).1)]
    exact h.handled owner ho
  located owner ho := (h.located owner ho).of_iff Iff.rfl Iff.rfl (ledger.isCompleted_prepare ..)
  refused_idle id hid := by
    obtain ⟨hlt, hdone, hnone⟩ := h.refused_idle id hid
    refine ⟨?_, ?_, hnone⟩
    · rw [Ledger.length_actions_prepare]
      exact Nat.lt_succ_of_lt hlt
    · rw [Ledger.isCompleted_prepare]
      exact hdone

/-- The number of the next action is nobody's. -/
theorem action_ne_length (h : Books table ledger owners refused moving) :
    ∀ owner ∈ owners, owner.action ≠ ledger.actions.length :=
  fun owner ho => Nat.ne_of_lt (h.numbered owner ho).1

/-- An action that belongs to nobody is refused. -/
theorem refuse (h : Books table ledger owners refused moving) {id : ActionId}
    (hlt : id < ledger.actions.length) (hdone : ledger.isCompleted id = false)
    (hnone : ∀ owner ∈ owners, owner.action ≠ id) :
    Books table ledger owners (id :: refused) moving where
  __ := h
  refused_idle other hother := by
    cases List.mem_cons.mp hother with
    | inl heq => exact heq ▸ ⟨hlt, hdone, hnone⟩
    | inr hmem => exact h.refused_idle other hmem

/-- The key under which an entry is put in is nobody's: the slot is empty, and its generation is
past those of the keys that were given out for it. -/
theorem key_ne_place (h : Books table ledger owners refused moving) (hlast : table.Lasting)
    (entry : Entry) (ho : owner ∈ owners) : owner.key ≠ (table.place entry).1 := by
  intro heq
  have hi := congrArg SlotKey.index heq
  cases h.current owner ho with
  | inl hfound =>
    rw [h.sound.find?_of_index_place hi] at hfound
    cases hfound
  | inr hpast =>
    have hgen := h.sound.generation_place entry
    rw [← heq] at hgen
    rw [hgen, UInt32.toNat_ofNat', Nat.mod_eq_of_lt (SlotTable.lasting_iff.mp hlast _)] at hpast
    exact Nat.lt_irrefl _ hpast

variable (owner) in
/-- **A new owner**: the entry for an action that belongs to nobody is put in. -/
theorem place (h : Books table ledger owners refused moving) (hlast : table.Lasting)
    (hnew : owner.handle.address ∉ table.live) (hkey : (table.place owner.entry).1 = owner.key)
    (hlt : owner.action < ledger.actions.length) (htoken : owner.token = owner.action)
    (hhandle : ledger.handleOf? owner.action = some owner.handle)
    (hdone : ledger.isCompleted owner.action = false)
    (hfresh : ∀ other ∈ owners, other.action ≠ owner.action) (hidle : owner.action ∉ refused) :
    Books (table.place owner.entry).2 ledger (owner :: owners) refused moving := by
  -- The new key is nobody's, so that the other owners' keys find what they found before.
  have hne : ∀ other ∈ owners, other.key ≠ owner.key :=
    fun other hp => hkey ▸ h.key_ne_place hlast owner.entry hp
  have hfind := h.sound.find?_place owner.entry
  rw [hkey] at hfind
  have hself : (table.place owner.entry).2.find? owner.key = some owner.entry := by
    rw [hfind, if_pos rfl]
  have hstill : owner.entry ∉ moving := by
    intro hc
    obtain ⟨other, hp, heq⟩ := h.owned_moving _ hc
    exact hfresh other hp (congrArg Entry.action heq)
  refine
    { sound := h.sound.place hnew
      quiet := h.quiet
      paired := h.paired
      numbered := List.forall_mem_cons.mpr ⟨⟨hlt, htoken⟩, h.numbered⟩
      handled := List.forall_mem_cons.mpr ⟨hhandle, h.handled⟩
      actions_nodup := ?_
      keys_nodup := ?_
      current := List.forall_mem_cons.mpr ⟨Or.inl hself, ?_⟩
      owned := ?_
      owned_moving := ?_
      moving_nodup := h.moving_nodup
      located := List.forall_mem_cons.mpr ⟨.present hself hstill hdone, ?_⟩
      refused_idle := ?_ }
  · refine List.nodup_cons.mpr ⟨fun hc => ?_, h.actions_nodup⟩
    obtain ⟨other, hp, heq⟩ := List.mem_map.mp hc
    exact hfresh other hp heq
  · refine List.nodup_cons.mpr ⟨fun hc => ?_, h.keys_nodup⟩
    obtain ⟨other, hp, heq⟩ := List.mem_map.mp hc
    exact hne other hp heq
  · intro other hp
    rw [hfind, if_neg (hne other hp), SlotTable.vacancies_place]
    exact h.current other hp
  · intro key found hfound
    rw [hfind] at hfound
    by_cases heq : key = owner.key
    · rw [if_pos heq] at hfound
      exact ⟨owner, List.mem_cons_self, heq.symm, Option.some.inj hfound⟩
    · rw [if_neg heq] at hfound
      obtain ⟨other, hp, hother⟩ := h.owned key found hfound
      exact ⟨other, List.mem_cons_of_mem _ hp, hother⟩
  · intro found hfound
    obtain ⟨other, hp, heq⟩ := h.owned_moving found hfound
    exact ⟨other, List.mem_cons_of_mem _ hp, heq⟩
  · intro other hp
    exact (h.located other hp).of_iff (by rw [hfind, if_neg (hne other hp)]) Iff.rfl rfl
  · intro id hid
    obtain ⟨hid', hdone', hnone⟩ := h.refused_idle id hid
    exact ⟨hid', hdone', List.forall_mem_cons.mpr ⟨fun heq => hidle (heq ▸ hid), hnone⟩⟩

/-! ## Entries that leave -/

/-- Only the owner whose entry is taken out has it no longer in the table. -/
theorem find?_take_iff (h : Books table ledger owners refused moving) (ho : owner ∈ owners)
    (htake : table.take owner.key = some (entry, rest)) (hp : other ∈ owners) :
    rest.find? other.key = some other.entry
      ↔ table.find? other.key = some other.entry ∧ other ≠ owner := by
  have hfound := SlotTable.find?_of_take htake
  rw [h.entry_of_find? ho hfound] at hfound
  rw [SlotTable.find?_take htake]
  split
  · rename_i hi
    constructor
    · intro hc
      cases hc
    · rintro ⟨hfound', hne⟩
      exact absurd (h.eq_of_index_eq hp ho hfound' hfound hi) hne
  · rename_i hi
    constructor
    · intro hfound'
      refine ⟨hfound', ?_⟩
      rintro rfl
      exact hi rfl
    · exact And.left

/-- **An entry is taken out of the table** and is on its way from now on. -/
theorem take (h : Books table ledger owners refused moving) (hlast : table.Lasting)
    (ho : owner ∈ owners) (htake : table.take owner.key = some (entry, rest)) :
    Books rest ledger owners refused (owner.entry :: moving) := by
  have hfound := SlotTable.find?_of_take htake
  rw [h.entry_of_find? ho hfound] at hfound
  have hiff := fun {p} (hp : p ∈ owners) => h.find?_take_iff ho htake hp
  have hgone : rest.find? owner.key ≠ some owner.entry := fun hc => ((hiff ho).mp hc).2 rfl
  have hlocated := h.located owner ho
  refine
    { h with
      sound := h.sound.take htake
      current := ?_
      owned := ?_
      owned_moving := List.forall_mem_cons.mpr ⟨⟨owner, ho, rfl⟩, h.owned_moving⟩
      moving_nodup :=
        List.nodup_cons.mpr ⟨hlocated.not_moving_of_found hfound, h.moving_nodup⟩
      located := ?_ }
  · intro other hp
    rw [SlotTable.vacancies_take htake]
    by_cases heq : other = owner
    · -- The slot moves on to the next generation, which is where `hlast` is needed.
      right
      rw [heq, if_pos rfl, hlast.toNat_generation hfound]
      exact Nat.lt_succ_self _
    · cases h.current other hp with
      | inl hfound' => exact Or.inl ((hiff hp).mpr ⟨hfound', heq⟩)
      | inr hpast =>
        right
        split
        · exact Nat.lt_succ_of_lt hpast
        · exact hpast
  · intro key found hfind
    rw [SlotTable.find?_take htake] at hfind
    split at hfind
    · cases hfind
    · exact h.owned key found hfind
  · intro other hp
    by_cases heq : other = owner
    · rw [heq]
      exact .moving hgone List.mem_cons_self (hlocated.not_done_of_found hfound)
    · refine (h.located other hp).of_iff ((hiff hp).trans (and_iff_left heq)) ?_ rfl
      rw [List.mem_cons, or_iff_right fun he => heq (h.eq_of_entry_eq hp ho he)]

/-- **The release function of an entry that is on its way is entered.** -/
theorem run (h : Books table ledger owners refused (entry :: moving)) (live : List Address) :
    Books table (ledger.run live entry.action).2 owners refused moving := by
  obtain ⟨owner, ho, rfl⟩ := h.owned_moving _ List.mem_cons_self
  obtain ⟨hout, hnodup⟩ := List.nodup_cons.mp h.moving_nodup
  have hlt := (h.numbered owner ho).1
  -- No other action is done because of this one.
  have hdone : ∀ id, id ≠ owner.action →
      (ledger.run live owner.action).2.isCompleted id = ledger.isCompleted id := by
    intro id hne
    rw [Ledger.isCompleted_run, if_neg hne]
  refine
    { h with
      quiet := h.quiet.run live owner.action
      paired := ?_
      numbered := ?_
      handled := fun other hp => (Ledger.handleOf?_run ..).trans (h.handled other hp)
      owned_moving := fun found hfound => h.owned_moving found (List.mem_cons_of_mem _ hfound)
      moving_nodup := hnodup
      located := ?_
      refused_idle := ?_ }
  · rw [Ledger.tokens_run, Ledger.length_actions_run, h.paired]
  · intro other hp
    rw [Ledger.length_actions_run]
    exact h.numbered other hp
  · intro other hp
    by_cases heq : other = owner
    · rw [heq]
      refine .released ((h.located owner ho).not_found_of_moving List.mem_cons_self) hout ?_
      show (ledger.run live owner.action).2.isCompleted owner.action = true
      rw [Ledger.isCompleted_run, if_pos rfl]
      exact decide_eq_true hlt
    · refine (h.located other hp).of_iff Iff.rfl ?_
        (hdone _ fun hc => heq (h.eq_of_action_eq hp ho hc))
      rw [List.mem_cons, or_iff_right fun he => heq (h.eq_of_entry_eq hp ho he)]
  · intro id hid
    obtain ⟨hid', hidle, hnone⟩ := h.refused_idle id hid
    refine ⟨?_, ?_, hnone⟩
    · rw [Ledger.length_actions_run]
      exact hid'
    · show (ledger.run live owner.action).2.isCompleted id = false
      rw [hdone id (Ne.symm (hnone owner ho)), hidle]

end Books

end Custody

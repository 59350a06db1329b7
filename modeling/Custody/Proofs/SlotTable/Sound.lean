import Custody.Registry.SlotTable
import Mathlib.Algebra.Group.Nat.Defs
import Mathlib.Data.List.Perm.Basic
import Mathlib.Data.List.Nodup

/-!
# Sound slot tables

A table keeps three records of the same thing: what is in its slots, which slots are vacant, and
which addresses have an entry. `SlotTable.Sound` says that the three agree, and every operation
keeps it.

What a table holds is seen through `SlotTable.find?`, and each operation has its law for that
view: `find?_place` and `find?_take`. How often a slot was vacated is seen through
`SlotTable.vacancies`, which only taking an entry out of it changes (`vacancies_take`). The
generation of a key is that number in a word that wraps around, so a key says how often its slot
had been vacated when it was given out, up to the size of the word.

The slots are a list that never gets shorter, and a key holds the position of its slot. Laws for
`find?` are stated for all keys at once, with the one key that is concerned as an exception, so that
a proof about a run needs to know nothing of positions.
-/

namespace Custody.SlotTable

variable {table rest : SlotTable} {entry : Entry} {key : SlotKey}

/-- **A table whose records agree**: a slot is on the list of vacant ones exactly once if it has
no entry and not at all if it has one, and the addresses beside the slots are those of the
entries, each once. -/
structure Sound (table : SlotTable) : Prop where
  /-- No vacant slot is listed twice. -/
  free_nodup : table.free.Nodup
  /-- The slots that are listed are the vacant ones. -/
  mem_free : ∀ i, i ∈ table.free ↔ ∃ slot, table.slots[i]? = some slot ∧ slot.entry = none
  /-- The addresses are those of the entries. -/
  live_perm : table.live.Perm (table.entries.map Entry.address)
  /-- No two entries have the same address. -/
  live_nodup : table.live.Nodup

/-! ## The view -/

theorem find?_eq_some_iff : table.find? key = some entry ↔
    ∃ slot, table.slots[key.index]? = some slot ∧ slot.generation = key.generation ∧
      slot.entry = some entry := by
  unfold find?
  cases table.slots[key.index]? with
  | none => simp
  | some slot => by_cases h : slot.generation = key.generation <;> simp [h]

/-- A key that finds something has the generation of its slot. -/
theorem generation_of_find? (h : table.find? key = some entry) :
    key.generation = UInt32.ofNat (table.vacancies key.index) := by
  obtain ⟨slot, hslot, hgen, -⟩ := find?_eq_some_iff.mp h
  rw [vacancies, hslot, ← hgen]
  rfl

/-- Two keys of one slot that both find something are the same key. -/
theorem key_eq_of_index_eq {other : SlotKey} {entry' : Entry} (h : table.find? key = some entry)
    (h' : table.find? other = some entry') (hi : key.index = other.index) : key = other := by
  have hg := (generation_of_find? h).trans (hi ▸ (generation_of_find? h').symm)
  cases key
  cases other
  exact congrArg₂ SlotKey.mk hi hg

/-- **The entries are what keys find.** -/
theorem mem_entries : entry ∈ table.entries ↔ ∃ key, table.find? key = some entry := by
  simp only [entries, List.mem_filterMap]
  constructor
  · rintro ⟨slot, hslot, he⟩
    obtain ⟨i, hi⟩ := List.getElem?_of_mem hslot
    exact ⟨⟨i, slot.generation⟩, find?_eq_some_iff.mpr ⟨slot, hi, rfl, he⟩⟩
  · rintro ⟨key, h⟩
    obtain ⟨slot, hslot, -, he⟩ := find?_eq_some_iff.mp h
    exact ⟨slot, List.mem_of_getElem? hslot, he⟩

/-- An address is recorded exactly if an entry has it. -/
theorem Sound.mem_live (h : table.Sound) {address : Address} :
    address ∈ table.live ↔ ∃ entry ∈ table.entries, entry.address = address := by
  rw [h.live_perm.mem_iff, List.mem_map]

theorem Sound.addresses_nodup (h : table.Sound) : (table.entries.map Entry.address).Nodup :=
  h.live_perm.nodup_iff.mp h.live_nodup

theorem Sound.entries_nodup (h : table.Sound) : table.entries.Nodup :=
  h.addresses_nodup.of_map

/-- The number of addresses is that of the entries. -/
theorem Sound.size_eq (h : table.Sound) : table.size = table.entries.length := by
  rw [size, h.live_perm.length_eq, List.length_map]

/-- A vacant slot has nothing to be found. -/
theorem Sound.find?_of_mem_free (h : table.Sound) (hfree : key.index ∈ table.free) :
    table.find? key = none := by
  obtain ⟨slot, hslot, he⟩ := (h.mem_free _).mp hfree
  simp [find?, hslot, he]

theorem sound_empty : empty.Sound where
  free_nodup := List.nodup_nil
  mem_free i := by simp [empty]
  live_perm := List.Perm.refl _
  live_nodup := List.nodup_nil

/-! ## Entries and slots -/

/-- A slot in a list stands between those before it and those after it. -/
theorem slots_split {slots : List Slot} {i : Nat} {slot : Slot} (h : slots[i]? = some slot)
    (new : Slot) : slots = slots.take i ++ slot :: slots.drop (i + 1) ∧
      slots.set i new = slots.take i ++ new :: slots.drop (i + 1) := by
  obtain ⟨hi, rfl⟩ := List.getElem?_eq_some_iff.mp h
  constructor
  · rw [List.getElem_cons_drop, List.take_append_drop]
  · rw [List.set_eq_take_append_cons_drop, if_pos hi]

/-- Filling a vacant slot adds its new entry to those of the table. -/
theorem filterMap_set_some {slots : List Slot} {i : Nat} {slot : Slot} (h : slots[i]? = some slot)
    (he : slot.entry = none) (new : Slot) (hnew : new.entry = some entry) :
    ((slots.set i new).filterMap (·.entry)).Perm (entry :: slots.filterMap (·.entry)) := by
  obtain ⟨hold, hset⟩ := slots_split h new
  rw [hset]
  conv_rhs => rw [hold]
  simp only [List.filterMap_append, List.filterMap_cons, he, hnew]
  exact List.perm_middle

/-- Vacating a slot takes its entry away from those of the table. -/
theorem filterMap_set_none {slots : List Slot} {i : Nat} {slot : Slot} (h : slots[i]? = some slot)
    (he : slot.entry = some entry) (new : Slot) (hnew : new.entry = none) :
    (slots.filterMap (·.entry)).Perm (entry :: (slots.set i new).filterMap (·.entry)) := by
  obtain ⟨hold, hset⟩ := slots_split h new
  rw [hset]
  conv_lhs => rw [hold]
  simp only [List.filterMap_append, List.filterMap_cons, he, hnew]
  exact List.perm_middle

/-! ## Putting an entry in -/

/-- The slot that is filled is vacant, or new. -/
theorem Sound.find?_of_index_place (h : table.Sound)
    (hi : key.index = (table.place entry).1.index) :
    table.find? key = none := by
  unfold place at hi
  split at hi
  · rename_i i free hfree
    exact h.find?_of_mem_free (hi ▸ hfree ▸ List.mem_cons_self)
  · simp [find?, show key.index = table.slots.length from hi]

/-- The new key has the generation of its slot. -/
theorem Sound.generation_place (h : table.Sound) (entry : Entry) : (table.place entry).1.generation
    = UInt32.ofNat (table.vacancies (table.place entry).1.index) := by
  unfold place
  split
  · rename_i i free hfree
    obtain ⟨slot, hslot, -⟩ := (h.mem_free i).mp (hfree ▸ List.mem_cons_self)
    simp [vacancies, hslot, Slot.generation]
  · simp [vacancies]

/-- The slot of the new key holds the new entry, and every other slot what it held before. -/
theorem Sound.slots_place (h : table.Sound) (entry : Entry) (i : Nat) :
    (table.place entry).2.slots[i]? = if i = (table.place entry).1.index
      then some ⟨table.vacancies i, some entry⟩ else table.slots[i]? := by
  unfold place
  split
  · rename_i j free hfree
    obtain ⟨slot, hslot, -⟩ := (h.mem_free j).mp (hfree ▸ List.mem_cons_self)
    obtain ⟨hlt, -⟩ := List.getElem?_eq_some_iff.mp hslot
    by_cases hi : i = j
    · subst hi
      simp [hlt, vacancies]
    · rw [if_neg hi]
      exact List.getElem?_set_ne (Ne.symm hi)
  · by_cases hi : i = table.slots.length
    · subst hi
      simp [vacancies]
    · rw [if_neg hi, List.getElem?_append]
      split
      · rfl
      · rename_i hge
        rw [List.getElem?_eq_none (by simp; omega), List.getElem?_eq_none (by omega)]

/-- **What a key finds after an entry was put in**: the new key finds the new entry, and every
other key what it found before. -/
theorem Sound.find?_place (h : table.Sound) (entry : Entry) (other : SlotKey) :
    (table.place entry).2.find? other
      = if other = (table.place entry).1 then some entry else table.find? other := by
  unfold find?
  rw [h.slots_place]
  by_cases hi : other.index = (table.place entry).1.index
  · -- Nothing was found in this slot before, and now it is the generation that decides.
    have hnone : table.find? other = none := h.find?_of_index_place hi
    have hkey : other = (table.place entry).1
        ↔ UInt32.ofNat (table.vacancies other.index) = other.generation := by
      rw [hi, ← h.generation_place entry]
      constructor
      · intro heq
        rw [heq]
      · intro heq
        cases other
        exact congrArg₂ SlotKey.mk hi heq.symm
    unfold find? at hnone
    rw [if_pos hi, hnone]
    by_cases hgen : UInt32.ofNat (table.vacancies other.index) = other.generation
    · rw [if_pos (hkey.mpr hgen)]
      exact if_pos hgen
    · rw [if_neg fun heq => hgen (hkey.mp heq)]
      exact if_neg hgen
  · rw [if_neg hi, if_neg fun heq => hi (by rw [heq])]

/-- Putting an entry in vacates no slot. -/
theorem vacancies_place (table : SlotTable) (entry : Entry) (i : Nat) :
    (table.place entry).2.vacancies i = table.vacancies i := by
  unfold place vacancies
  split
  · rename_i j free hfree
    by_cases hj : j = i
    · subst hj
      rw [List.getElem?_set_self']
      cases table.slots[j]? <;> rfl
    · rw [List.getElem?_set_ne hj]
  · rw [List.getElem?_append]
    split
    · rfl
    · rename_i hge
      rw [List.getElem?_eq_none (Nat.le_of_not_lt hge)]
      cases i - table.slots.length with
      | zero => rfl
      | succ n => rfl

/-- The new entry comes to those of the table. -/
theorem Sound.entries_place (h : table.Sound) (entry : Entry) :
    (table.place entry).2.entries.Perm (entry :: table.entries) := by
  unfold place entries
  split
  · rename_i i free hfree
    obtain ⟨slot, hslot, he⟩ := (h.mem_free i).mp (hfree ▸ List.mem_cons_self)
    exact filterMap_set_some hslot he _ rfl
  · simp only [List.filterMap_append, List.filterMap_cons, List.filterMap_nil]
    exact List.perm_append_comm

/-- The slot that is filled is the only one that is not vacant any more. -/
theorem Sound.mem_free_place (h : table.Sound) (entry : Entry) (i : Nat) :
    i ∈ (table.place entry).2.free ↔ i ∈ table.free ∧ i ≠ (table.place entry).1.index := by
  unfold SlotTable.place
  split
  · rename_i j free hfree
    have hout : j ∉ free := (List.nodup_cons.mp (hfree ▸ h.free_nodup)).1
    rw [hfree, List.mem_cons]
    constructor
    · intro hi
      refine ⟨.inr hi, ?_⟩
      rintro rfl
      exact hout hi
    · rintro ⟨hi, hne⟩
      exact hi.resolve_left hne
  · rename_i hfree
    simp [hfree]

/-- A sound table stays sound when an entry with a new address is put in. -/
theorem Sound.place (h : table.Sound) (hnew : entry.address ∉ table.live) :
    (table.place entry).2.Sound := by
  have hlive : (table.place entry).2.live = entry.address :: table.live := by
    unfold SlotTable.place
    split <;> rfl
  refine ⟨?_, ?_, ?_, ?_⟩
  · unfold SlotTable.place
    split
    · rename_i i free hfree
      exact (List.nodup_cons.mp (hfree ▸ h.free_nodup)).2
    · exact List.nodup_nil
  · intro i
    rw [h.mem_free_place, h.slots_place]
    by_cases hi : i = (table.place entry).1.index
    · simp [hi]
    · rw [if_neg hi, and_iff_left hi]
      exact h.mem_free i
  · rw [hlive]
    exact (h.live_perm.cons _).trans ((h.entries_place entry).map Entry.address).symm
  · rw [hlive]
    exact List.nodup_cons.mpr ⟨hnew, h.live_nodup⟩

/-! ## Taking an entry out -/

theorem take_eq_some_iff : table.take key = some (entry, rest) ↔ table.find? key = some entry ∧
    rest = ⟨table.slots.set key.index ⟨table.vacancies key.index + 1, none⟩,
      key.index :: table.free, table.live.erase entry.address⟩ := by
  unfold take
  cases table.find? key with
  | none => simp
  | some found =>
    simp only [Option.some.injEq, Prod.mk.injEq]
    constructor
    · rintro ⟨rfl, rfl⟩
      exact ⟨rfl, rfl⟩
    · rintro ⟨rfl, rfl⟩
      exact ⟨rfl, rfl⟩

theorem find?_of_take (h : table.take key = some (entry, rest)) : table.find? key = some entry :=
  (take_eq_some_iff.mp h).1

/-- **What a key finds after an entry was taken out**: no key of that slot finds anything any
more, and every other key what it found before. -/
theorem find?_take (h : table.take key = some (entry, rest)) (other : SlotKey) :
    rest.find? other = if other.index = key.index then none else table.find? other := by
  obtain ⟨-, rfl⟩ := take_eq_some_iff.mp h
  unfold find?
  by_cases hi : other.index = key.index
  · rw [if_pos hi, hi, List.getElem?_set_self']
    cases table.slots[key.index]? <;> simp
  · rw [if_neg hi, List.getElem?_set_ne (Ne.symm hi)]

/-- Taking an entry out vacates its slot once more. -/
theorem vacancies_take (h : table.take key = some (entry, rest)) (i : Nat) :
    rest.vacancies i = if i = key.index then table.vacancies i + 1 else table.vacancies i := by
  obtain ⟨hfind, rfl⟩ := take_eq_some_iff.mp h
  obtain ⟨slot, hslot, -⟩ := find?_eq_some_iff.mp hfind
  obtain ⟨hlt, -⟩ := List.getElem?_eq_some_iff.mp hslot
  by_cases hi : i = key.index
  · rw [if_pos hi, hi]
    simp [vacancies, List.getElem?_set_self hlt]
  · rw [if_neg hi, vacancies, vacancies, List.getElem?_set_ne (Ne.symm hi)]
    rfl

/-- The entry goes from those of the table. -/
theorem entries_take (h : table.take key = some (entry, rest)) :
    table.entries.Perm (entry :: rest.entries) := by
  obtain ⟨hfind, rfl⟩ := take_eq_some_iff.mp h
  obtain ⟨slot, hslot, -, he⟩ := find?_eq_some_iff.mp hfind
  exact filterMap_set_none hslot he _ rfl

/-- A sound table stays sound when an entry is taken out. -/
theorem Sound.take (h : table.Sound) (htake : table.take key = some (entry, rest)) :
    rest.Sound := by
  obtain ⟨hfind, hrest⟩ := take_eq_some_iff.mp htake
  obtain ⟨slot, hslot, -, he⟩ := find?_eq_some_iff.mp hfind
  obtain ⟨hlt, -⟩ := List.getElem?_eq_some_iff.mp hslot
  -- The slot has an entry, so that it is not listed yet.
  have hout : key.index ∉ table.free := by
    intro hc
    obtain ⟨slot', hslot', he'⟩ := (h.mem_free _).mp hc
    rw [hslot, Option.some.injEq] at hslot'
    rw [← hslot', he] at he'
    cases he'
  refine ⟨?_, ?_, ?_, ?_⟩
  · rw [hrest]
    exact List.nodup_cons.mpr ⟨hout, h.free_nodup⟩
  · intro j
    rw [hrest, List.mem_cons]
    by_cases hj : j = key.index
    · simp [hj, hlt]
    · rw [List.getElem?_set_ne (Ne.symm hj), or_iff_right hj]
      exact h.mem_free j
  · have hperm := h.live_perm.trans ((entries_take htake).map Entry.address)
    have hlive : rest.live = table.live.erase entry.address := by rw [hrest]
    rw [hlive, ← List.erase_cons_head entry.address (rest.entries.map Entry.address)]
    exact hperm.erase _
  · rw [hrest]
    exact h.live_nodup.erase _

/-! ## Tables whose generations have not come round -/

/-- **No slot was vacated 2 ^ 32 times**, so that no slot has had one of its generations twice. -/
def Lasting (table : SlotTable) : Prop := ∀ slot ∈ table.slots, slot.vacated < 2 ^ 32

instance : Decidable table.Lasting :=
  inferInstanceAs (Decidable (∀ slot ∈ table.slots, slot.vacated < 2 ^ 32))

theorem lasting_iff : table.Lasting ↔ ∀ i, table.vacancies i < 2 ^ 32 := by
  constructor
  · intro h i
    unfold vacancies
    cases hslot : table.slots[i]? with
    | none => exact Nat.two_pow_pos 32
    | some slot => exact h slot (List.mem_of_getElem? hslot)
  · intro h slot hslot
    obtain ⟨i, hi⟩ := List.getElem?_of_mem hslot
    have hlt := h i
    rw [vacancies, hi] at hlt
    exact hlt

/-- In such a table the generation of a key that finds something is how often its slot was
vacated. -/
theorem Lasting.toNat_generation (h : table.Lasting) (hfind : table.find? key = some entry) :
    key.generation.toNat = table.vacancies key.index := by
  rw [generation_of_find? hfind, UInt32.toNat_ofNat']
  exact Nat.mod_eq_of_lt (lasting_iff.mp h _)

/-! ## Entries under a condition -/

theorem mem_keysFrom {wanted : Entry → Bool} {first : Nat} {slots : List Slot} :
    key ∈ keysFrom wanted first slots ↔ ∃ i slot entry, slots[i]? = some slot ∧
      slot.entry = some entry ∧ wanted entry ∧ key = ⟨first + i, slot.generation⟩ := by
  induction slots generalizing first with
  | nil => simp [keysFrom]
  | cons head rest ih =>
    -- A key is that of the first slot, or one of those of the others.
    have hrest : (∃ i slot entry, (head :: rest)[i]? = some slot ∧ slot.entry = some entry ∧
          wanted entry ∧ key = ⟨first + i, slot.generation⟩)
        ↔ (∃ entry, head.entry = some entry ∧ wanted entry ∧ key = ⟨first, head.generation⟩)
          ∨ key ∈ keysFrom wanted (first + 1) rest := by
      rw [ih]
      constructor
      · rintro ⟨i, slot, entry, hslot, he, hw, hkey⟩
        cases i with
        | zero =>
          obtain rfl : head = slot := by simpa using hslot
          exact Or.inl ⟨entry, he, hw, hkey⟩
        | succ i =>
          exact Or.inr ⟨i, slot, entry, hslot, he, hw, by rw [hkey, Nat.add_right_comm]; rfl⟩
      · rintro (⟨entry, he, hw, hkey⟩ | ⟨i, slot, entry, hslot, he, hw, hkey⟩)
        · exact ⟨0, head, entry, rfl, he, hw, hkey⟩
        · exact ⟨i + 1, slot, entry, hslot, he, hw, by rw [hkey, Nat.add_right_comm]; rfl⟩
    rw [hrest, keysFrom]
    cases head.entry with
    | none => simp
    | some entry =>
      by_cases hw : wanted entry
      · simp [hw]
      · simp [hw]

/-- **The keys under a condition** are those that find an entry that satisfies it. -/
theorem mem_keysWhere {wanted : Entry → Bool} :
    key ∈ table.keysWhere wanted ↔ ∃ entry, table.find? key = some entry ∧ wanted entry := by
  rw [keysWhere, mem_keysFrom]
  constructor
  · rintro ⟨i, slot, entry, hslot, he, hw, rfl⟩
    exact ⟨entry, find?_eq_some_iff.mpr ⟨slot, by rwa [Nat.zero_add], rfl, he⟩, hw⟩
  · rintro ⟨entry, hfind, hw⟩
    obtain ⟨slot, hslot, hgen, he⟩ := find?_eq_some_iff.mp hfind
    exact ⟨key.index, slot, entry, hslot, he, hw, by rw [Nat.zero_add, hgen]⟩

end Custody.SlotTable

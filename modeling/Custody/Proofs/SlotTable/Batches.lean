import Custody.Proofs.SlotTable.Sound

/-!
# Entries taken out together

The entries under a condition are looked up by their keys first, in the order of their slots, and
then taken out one after the other. Taking one out changes nothing about the others, because their
keys are of other slots (`SlotTable.pairwise_keysWhere`). So what is taken out are the entries under
the condition (`SlotTable.takeAll_keysWhere`), and all others are found under their old keys
(`SlotTable.find?_takeAll_keysWhere`), whatever slots are vacant or have been filled again.

The keys are computed before the first entry is taken out, from the same table. Two keys of
different slots do not interfere, in either order, and an induction along the slots is enough; that
the generation of a slot goes up when its entry is taken out matters only for a key of the same
slot, of which there is none other in the batch.
-/

namespace Custody.SlotTable

variable {table : SlotTable} {entry : Entry} {key : SlotKey} {wanted : Entry → Bool}
  {keys : List SlotKey} {slots : List Slot} {first : Nat}

/-! ## Keys of entries under a condition -/

/-- The slots of the keys ascend. -/
theorem pairwise_keysFrom (wanted : Entry → Bool) (first : Nat) (slots : List Slot) :
    (keysFrom wanted first slots).Pairwise (·.index < ·.index) := by
  induction slots generalizing first with
  | nil => exact List.Pairwise.nil
  | cons head rest ih =>
    have hlater : ∀ key ∈ keysFrom wanted (first + 1) rest, first < key.index := by
      intro key hkey
      obtain ⟨i, slot, entry, -, -, -, rfl⟩ := mem_keysFrom.mp hkey
      exact Nat.lt_of_lt_of_le (Nat.lt_succ_self first) (Nat.le_add_right _ _)
    unfold keysFrom
    split
    · split
      · exact List.pairwise_cons.mpr ⟨hlater, ih (first + 1)⟩
      · exact ih (first + 1)
    · exact ih (first + 1)

theorem pairwise_keysWhere (table : SlotTable) (wanted : Entry → Bool) :
    (table.keysWhere wanted).Pairwise (·.index ≠ ·.index) :=
  (pairwise_keysFrom wanted 0 table.slots).imp Nat.ne_of_lt

/-- What the keys find is what satisfies the condition in these slots. -/
theorem filterMap_find?_keysFrom
    (h : ∀ i slot, slots[i]? = some slot → table.slots[first + i]? = some slot) :
    (keysFrom wanted first slots).filterMap table.find?
      = (slots.filterMap (·.entry)).filter wanted := by
  induction slots generalizing first with
  | nil => rfl
  | cons head rest ih =>
    have hrest : (keysFrom wanted (first + 1) rest).filterMap table.find?
        = (rest.filterMap (·.entry)).filter wanted := by
      refine ih fun i slot hslot => ?_
      rw [Nat.add_assoc, Nat.add_comm 1 i]
      exact h (i + 1) slot hslot
    cases hentry : head.entry with
    | none => simp [keysFrom, hentry, hrest]
    | some entry =>
      by_cases hwanted : wanted entry = true
      · have hfound : table.find? ⟨first, head.generation⟩ = some entry :=
          find?_eq_some_iff.mpr ⟨head, h 0 head rfl, rfl, hentry⟩
        simp [keysFrom, hentry, hwanted, hfound, hrest]
      · simp [keysFrom, hentry, hwanted, hrest]

theorem filterMap_find?_keysWhere (table : SlotTable) (wanted : Entry → Bool) :
    (table.keysWhere wanted).filterMap table.find? = table.entries.filter wanted :=
  filterMap_find?_keysFrom fun i slot hslot => by rwa [Nat.zero_add]

/-! ## Taking them out -/

/-- **Keys of different slots are taken out independently of each other.** -/
theorem takeAll_of_pairwise (hfound : ∀ key ∈ keys, ∃ entry, table.find? key = some entry)
    (hkeys : keys.Pairwise (·.index ≠ ·.index)) :
    (table.takeAll keys).1 = keys.filterMap table.find?
      ∧ ∀ other, (table.takeAll keys).2.find? other
        = if other.index ∈ keys.map SlotKey.index then none else table.find? other := by
  induction keys generalizing table with
  | nil => exact ⟨rfl, fun other => rfl⟩
  | cons key keys ih =>
    obtain ⟨⟨entry, hentry⟩, hlater⟩ := List.forall_mem_cons.mp hfound
    obtain ⟨hne, hkeys⟩ := List.pairwise_cons.mp hkeys
    obtain ⟨rest, htake⟩ : ∃ rest, table.take key = some (entry, rest) :=
      ⟨_, take_eq_some_iff.mpr ⟨hentry, rfl⟩⟩
    -- The other keys find in the rest of the table what they found before.
    have hsame : ∀ other ∈ keys, rest.find? other = table.find? other := fun other hother => by
      rw [find?_take htake, if_neg (Ne.symm (hne other hother))]
    obtain ⟨hentries, hfind⟩ := ih (fun other hother => hsame other hother ▸ hlater other hother)
      hkeys
    rw [takeAll, htake]
    refine ⟨?_, fun other => ?_⟩
    · rw [List.filterMap_cons_some hentry, ← List.filterMap_congr hsame]
      exact congrArg _ hentries
    · show (rest.takeAll keys).2.find? other = _
      rw [hfind, find?_take htake, List.map_cons]
      by_cases hindex : other.index = key.index
      · simp [hindex]
      · simp [hindex]

/-- **What is taken out** are the entries under the condition, in the order of their slots. -/
theorem takeAll_keysWhere (table : SlotTable) (wanted : Entry → Bool) :
    (table.takeAll (table.keysWhere wanted)).1 = table.entries.filter wanted
      ∧ ∀ other, (table.takeAll (table.keysWhere wanted)).2.find? other
        = if other.index ∈ (table.keysWhere wanted).map SlotKey.index then none
          else table.find? other := by
  have hfound : ∀ key ∈ table.keysWhere wanted, ∃ entry, table.find? key = some entry :=
    fun key hkey => (mem_keysWhere.mp hkey).imp fun entry h => h.1
  obtain ⟨hentries, hfind⟩ := takeAll_of_pairwise hfound (table.pairwise_keysWhere wanted)
  exact ⟨hentries.trans (table.filterMap_find?_keysWhere wanted), hfind⟩

/-- **All others are found** under their old keys. -/
theorem find?_takeAll_keysWhere : (table.takeAll (table.keysWhere wanted)).2.find? key = some entry
    ↔ table.find? key = some entry ∧ wanted entry = false := by
  rw [(table.takeAll_keysWhere wanted).2]
  constructor
  · intro h
    split at h
    · cases h
    · rename_i hout
      refine ⟨h, Bool.eq_false_iff.mpr fun hwanted => hout ?_⟩
      exact List.mem_map.mpr ⟨key, mem_keysWhere.mpr ⟨entry, h, hwanted⟩, rfl⟩
  · rintro ⟨h, hunwanted⟩
    rw [if_neg]
    · exact h
    · intro hin
      obtain ⟨other, hother, hindex⟩ := List.mem_map.mp hin
      obtain ⟨found, hfound, hwanted⟩ := mem_keysWhere.mp hother
      -- A key of that slot that finds something is the same key.
      obtain rfl := key_eq_of_index_eq hfound h hindex
      rw [h] at hfound
      cases hfound
      rw [hunwanted] at hwanted
      cases hwanted

/-- A sound table stays sound when entries are taken out together. -/
theorem Sound.takeAll (h : table.Sound) (keys : List SlotKey) : (table.takeAll keys).2.Sound := by
  induction keys generalizing table with
  | nil => exact h
  | cons key keys ih =>
    unfold SlotTable.takeAll
    split
    · rename_i entry rest htake
      exact ih (h.take htake)
    · exact ih h

end Custody.SlotTable

import Custody.Proofs.SlotTable.Tickets
import Mathlib.Data.List.Induction
import Mathlib.Order.Bounds.Basic

/-!
# Slots that are filled before a new one is made

A table never has a slot too many. Each slot has an entry or stands on the list of vacant ones
(`SlotTable.Balanced`), and a new slot is made only when that list is empty
(`SlotTable.length_slots_step`). So whenever a slot is made, all slots are filled at once, and the
number of slots is the largest number of entries that there ever were at the same time
(`SlotTable.slots_made_on_demand`). Refused entries and stale keys are deeds like any other here:
were a slot lost on one of these ways out, it would be missing from the balance.

The number of the slot in a key is below the number of slots, and so below the largest number of
entries (`SlotTable.index_lt_of_counts_le`).
-/

namespace Custody.SlotTable

variable {table table' : SlotTable} {entry : Entry} {key : SlotKey}

/-! ## When a slot is made -/

/-- An entry that is put in fills a vacant slot. Without one there is one slot more, and no vacant
slot then either. -/
theorem length_slots_place (table : SlotTable) (entry : Entry) :
    (table.place entry).2.slots.length = table.slots.length
      ∨ table.free = [] ∧ (table.place entry).2.free = []
        ∧ (table.place entry).2.slots.length = table.slots.length + 1 := by
  unfold place
  split
  · exact .inl List.length_set
  · rename_i hfree
    exact .inr ⟨hfree, rfl, List.length_append⟩

/-- Taking an entry out keeps the slots. -/
theorem length_slots_take {rest : SlotTable} (htake : table.take key = some (entry, rest)) :
    rest.slots.length = table.slots.length := by
  obtain ⟨-, hrest⟩ := take_eq_some_iff.mp htake
  rw [hrest]
  exact List.length_set

/-- **A deed makes at most one slot**, and only if no slot is vacant before it or after it. It
never does away with one. -/
theorem length_slots_step (table : SlotTable) (deed : Deed) :
    (table.step deed).slots.length = table.slots.length
      ∨ table.free = [] ∧ (table.step deed).free = []
        ∧ (table.step deed).slots.length = table.slots.length + 1 :=
  step_cases (motive := fun after => after.slots.length = table.slots.length
      ∨ table.free = [] ∧ after.free = [] ∧ after.slots.length = table.slots.length + 1)
    deed (.inl rfl) (fun entry _ => table.length_slots_place entry)
    fun _ _ _ htake => .inl (length_slots_take htake)

/-! ## The balance -/

/-- **A table that accounts for its slots**: as many as there are have an entry or are listed as
vacant. -/
def Balanced (table : SlotTable) : Prop :=
  table.slots.length = table.entries.length + table.free.length

theorem balanced_empty : empty.Balanced := rfl

/-- An entry that is put in comes from the list of vacant slots, or brings its own slot. -/
theorem Balanced.place (hbalanced : table.Balanced) (h : table.Sound) (entry : Entry) :
    (table.place entry).2.Balanced := by
  have hentries : (table.place entry).2.entries.length = table.entries.length + 1 :=
    (h.entries_place entry).length_eq
  unfold Balanced at hbalanced ⊢
  rw [hentries]
  unfold SlotTable.place
  split
  · rename_i i free hfree
    rw [hfree, List.length_cons] at hbalanced
    rw [List.length_set, hbalanced]
    exact Nat.add_right_comm _ free.length 1
  · rename_i hfree
    rw [hfree] at hbalanced
    rw [List.length_append, hbalanced]
    rfl

/-- An entry that is taken out leaves its slot to the list of vacant ones. -/
theorem Balanced.take {rest : SlotTable} (hbalanced : table.Balanced)
    (htake : table.take key = some (entry, rest)) : rest.Balanced := by
  have hentries : table.entries.length = rest.entries.length + 1 := (entries_take htake).length_eq
  have hfree : rest.free.length = table.free.length + 1 := by
    obtain ⟨-, hrest⟩ := take_eq_some_iff.mp htake
    rw [hrest, List.length_cons]
  unfold Balanced at hbalanced ⊢
  rw [length_slots_take htake, hbalanced, hentries, hfree]
  exact Nat.add_right_comm _ _ _

theorem Balanced.step (hbalanced : table.Balanced) (h : table.Sound) (deed : Deed) :
    (table.step deed).Balanced :=
  step_cases (motive := Balanced) deed hbalanced (fun entry _ => hbalanced.place h entry)
    fun _ _ _ htake => hbalanced.take htake

theorem Balanced.run (hbalanced : table.Balanced) (h : table.Sound) (deeds : List Deed) :
    (table.run deeds).Balanced := by
  induction deeds generalizing table with
  | nil => exact hbalanced
  | cons deed deeds ih => exact ih (hbalanced.step h deed) (h.step deed)

/-! ## The largest number of entries -/

/-- **How many entries** a table that had no slots in the beginning has held, at one moment of a run
or another: before the first deed, and after each. -/
def counts (deeds : List Deed) : Set Nat :=
  {n | ∃ earlier, earlier <+: deeds ∧ (empty.run earlier).entries.length = n}

theorem run_concat (table : SlotTable) (deeds : List Deed) (deed : Deed) :
    table.run (deeds ++ [deed]) = (table.run deeds).step deed := by
  rw [run, List.foldl_append]
  rfl

/-- One more deed brings one more moment. -/
theorem mem_counts_concat {n : Nat} {deeds : List Deed} {deed : Deed} : n ∈ counts (deeds ++ [deed])
    ↔ (empty.run (deeds ++ [deed])).entries.length = n ∨ n ∈ counts deeds := by
  simp only [counts, Set.mem_ofPred_eq, List.prefix_concat_iff]
  constructor
  · rintro ⟨earlier, rfl | hearlier, rfl⟩
    · exact .inl rfl
    · exact .inr ⟨earlier, hearlier, rfl⟩
  · rintro (rfl | ⟨earlier, hearlier, rfl⟩)
    · exact ⟨_, .inl rfl, rfl⟩
    · exact ⟨earlier, .inr hearlier, rfl⟩

/-- **The number of slots is the largest number of entries so far.** -/
theorem isGreatest_counts (deeds : List Deed) :
    IsGreatest (counts deeds) (empty.run deeds).slots.length := by
  induction deeds using List.reverseRecOn with
  | nil =>
    refine ⟨⟨[], List.nil_prefix, rfl⟩, ?_⟩
    rintro n ⟨earlier, hearlier, rfl⟩
    rw [List.prefix_nil.mp hearlier]
    exact Nat.le_refl _
  | append_singleton deeds deed ih =>
    have hbalanced : (empty.run (deeds ++ [deed])).Balanced :=
      balanced_empty.run sound_empty (deeds ++ [deed])
    rw [Balanced, run_concat] at hbalanced
    rw [run_concat]
    obtain hsame | ⟨-, hfull, hmore⟩ := (empty.run deeds).length_slots_step deed
    · refine ⟨mem_counts_concat.mpr (.inr (hsame ▸ ih.1)), fun n hn => ?_⟩
      obtain rfl | hn := mem_counts_concat.mp hn
      · rw [run_concat, hbalanced]
        exact Nat.le_add_right _ _
      · exact hsame ▸ ih.2 hn
    · -- The new slot is filled, and so are all others: the table is as full as it has slots.
      rw [hfull, List.length_nil, Nat.add_zero] at hbalanced
      refine ⟨mem_counts_concat.mpr (.inl ?_), fun n hn => ?_⟩
      · rw [run_concat, hbalanced]
      obtain rfl | hn := mem_counts_concat.mp hn
      · rw [run_concat, hbalanced]
      · exact Nat.le_trans (ih.2 hn) (hmore ▸ Nat.le_succ _)

/-- **The numbers of slots stay small**: the slot of a key that is given out has a number below any
bound on how many entries were present at the same time. So 32 bits are enough for it while there
are never more than 2 ^ 32. -/
theorem index_lt_of_counts_le {deeds : List Deed} {bound : Nat}
    (hins : (empty.run deeds).insert entry = .ok (key, table'))
    (hbound : ∀ n ∈ counts (deeds ++ [.insert entry]), n ≤ bound) : key.index < bound := by
  have hfind : table'.find? key = some entry := (sound_empty.run deeds).find?_of_insert hins
  obtain ⟨slot, hslot, -⟩ := find?_eq_some_iff.mp hfind
  obtain ⟨hlt, -⟩ := List.getElem?_eq_some_iff.mp hslot
  have hrun : empty.run (deeds ++ [.insert entry]) = table' := by
    rw [run_concat, step, hins]
  have hmade := (isGreatest_counts (deeds ++ [.insert entry])).1
  rw [hrun] at hmade
  exact Nat.lt_of_lt_of_le hlt (hbound _ hmade)

/-- **Slots are made on demand only.** Whatever is done to a table that had no slots in the
beginning, with refused entries and stale keys among it: there are as many slots as the largest
number of entries that were present at the same time so far; the slots are those with an entry
together with those that are listed as vacant; as long as one is vacant, nothing that is done
next makes another; and the slot of a key that is given out next has a number of 32 bits, if there
were never more than 2 ^ 32 entries at the same time. -/
theorem slots_made_on_demand (deeds : List Deed) :
    let table := empty.run deeds
    IsGreatest (counts deeds) table.slots.length
    ∧ table.slots.length = table.entries.length + table.free.length
    ∧ ((∃ slot ∈ table.slots, slot.entry = none) →
        ∀ deed, (table.step deed).slots.length = table.slots.length)
    ∧ ∀ entry key after, table.insert entry = .ok (key, after) →
        (∀ n ∈ counts (deeds ++ [.insert entry]), n ≤ 2 ^ 32) → key.index < 2 ^ 32 := by
  refine ⟨isGreatest_counts deeds, balanced_empty.run sound_empty deeds, ?_,
    fun entry key after => index_lt_of_counts_le⟩
  rintro ⟨slot, hslot, hvacant⟩ deed
  obtain ⟨i, hi⟩ := List.getElem?_of_mem hslot
  have hfree : i ∈ (empty.run deeds).free :=
    ((sound_empty.run deeds).mem_free i).mpr ⟨slot, hi, hvacant⟩
  obtain hsame | ⟨hnone, -⟩ := (empty.run deeds).length_slots_step deed
  · exact hsame
  · rw [hnone] at hfree
    cases hfree

end Custody.SlotTable

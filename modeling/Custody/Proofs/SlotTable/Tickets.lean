import Custody.Proofs.SlotTable.Sound

/-!
# Tickets that are not given out again

What becomes of a table in the course of time: entries are put in and taken out, in any order
and with any keys. A key is a ticket for the entry that it was given out with. It finds that
entry as long as nobody has taken it (`find?_run_of_vacated_eq_zero`), and nothing once the slot
has been vacated, however often it was filled again since (`find?_run_eq_none`).

The second half needs care, because the generation of a slot wraps around: after 2 ^ 32
vacations of one slot its generations begin anew. `vacancies_run` counts the vacations since a
key was given out, and the key is stale unless their number is a multiple of that.

Since the generation wraps around, the exception is real: a slot that was vacated exactly 2 ^ 32
times has the generation of the old key again. The statement counts vacations and not deeds, so that
keys of slots that are used rarely last the longest.
-/

namespace Custody.SlotTable

variable {table table' : SlotTable} {entry : Entry} {key : SlotKey}

/-- Something that is done to a table. -/
inductive Deed
  /-- An entry is put in. -/
  | insert (entry : Entry)
  /-- What is under a key is taken out. -/
  | take (key : SlotKey)
  deriving DecidableEq

/-- A table after a deed. A refused entry and a key that finds nothing leave it as it was. -/
def step (table : SlotTable) : Deed → SlotTable
  | .insert entry =>
    match table.insert entry with
    | .ok (_, table) => table
    | .error _ => table
  | .take key =>
    match table.take key with
    | some (_, table) => table
    | none => table

/-- A table after several deeds, one after the other. -/
def run (table : SlotTable) (deeds : List Deed) : SlotTable := deeds.foldl step table

/-- Whether a deed vacates a slot. -/
def Deed.vacates (table : SlotTable) (i : Nat) : Deed → Bool
  | .insert _ => false
  | .take key => key.index = i && (table.take key).isSome

/-- How often a slot is vacated in the course of several deeds. -/
def vacated (i : Nat) (table : SlotTable) : List Deed → Nat
  | [] => 0
  | deed :: deeds => (deed.vacates table i).toNat + vacated i (table.step deed) deeds

/-! ## Insertion -/

theorem insert_eq_ok_iff : table.insert entry = .ok (key, table')
    ↔ entry.address ∉ table.live ∧ table.place entry = (key, table') := by
  unfold insert
  split
  · rename_i h
    simp [h]
  · rename_i h
    simp [h]

/-- An entry that was accepted is found under the key that was given out. -/
theorem Sound.find?_of_insert (h : table.Sound) (hins : table.insert entry = .ok (key, table')) :
    table'.find? key = some entry := by
  obtain ⟨-, hplace⟩ := insert_eq_ok_iff.mp hins
  have hfind := h.find?_place entry key
  rw [hplace] at hfind
  rw [hfind, if_pos rfl]

/-- An entry is refused exactly if one with the same address is present. -/
theorem Sound.insert_error_iff (h : table.Sound) :
    (∃ failure, table.insert entry = .error failure)
      ↔ ∃ present ∈ table.entries, present.address = entry.address := by
  rw [insert_eq_error_iff, h.mem_live]

/-! ## One deed -/

/-- **What a deed can do to a table**: nothing, if an entry is refused or a key finds nothing, or
else it puts in an entry with a new address or takes out what a key finds. -/
theorem step_cases {motive : SlotTable → Prop} (deed : Deed) (same : motive table)
    (place : ∀ entry, entry.address ∉ table.live → motive (table.place entry).2)
    (take : ∀ key entry rest, table.take key = some (entry, rest) → motive rest) :
    motive (table.step deed) := by
  cases deed with
  | insert entry =>
    by_cases hlive : entry.address ∈ table.live
    · simpa [SlotTable.step, insert, hlive] using same
    · simpa [SlotTable.step, insert, hlive] using place entry hlive
  | take key =>
    cases htake : table.take key with
    | none => simpa [SlotTable.step, htake] using same
    | some taken => simpa [SlotTable.step, htake] using take key taken.1 taken.2 htake

theorem Sound.step (h : table.Sound) (deed : Deed) : (table.step deed).Sound :=
  step_cases (motive := Sound) deed h (fun _ hnew => h.place hnew) fun _ _ _ htake => h.take htake

theorem vacancies_step (table : SlotTable) (deed : Deed) (i : Nat) :
    (table.step deed).vacancies i = table.vacancies i + (deed.vacates table i).toNat := by
  cases deed with
  | insert entry =>
    by_cases hlive : entry.address ∈ table.live
    · simp [SlotTable.step, insert, hlive, Deed.vacates]
    · simp [SlotTable.step, insert, hlive, Deed.vacates, vacancies_place]
  | take key =>
    cases htake : table.take key with
    | none => simp [SlotTable.step, htake, Deed.vacates]
    | some taken =>
      by_cases hi : i = key.index
      · simp [SlotTable.step, htake, Deed.vacates, vacancies_take htake, hi]
      · simp [SlotTable.step, htake, Deed.vacates, vacancies_take htake, hi, Ne.symm hi]

/-- An entry stays under its key unless the deed vacates its slot. -/
theorem Sound.find?_step (h : table.Sound) (hfind : table.find? key = some entry) (deed : Deed)
    (hkept : deed.vacates table key.index = false) : (table.step deed).find? key = some entry := by
  cases deed with
  | insert new =>
    by_cases hlive : new.address ∈ table.live
    · simpa [SlotTable.step, insert, hlive] using hfind
    · have hne : key ≠ (table.place new).1 := by
        intro heq
        rw [h.find?_of_index_place (congrArg SlotKey.index heq)] at hfind
        cases hfind
      simp [SlotTable.step, insert, hlive, h.find?_place, hne, hfind]
  | take other =>
    cases htake : table.take other with
    | none => simpa [SlotTable.step, htake] using hfind
    | some taken =>
      have hne : key.index ≠ other.index := by
        intro heq
        simp [Deed.vacates, htake, heq] at hkept
      simp [SlotTable.step, htake, find?_take htake, hne, hfind]

/-! ## Several deeds -/

theorem Sound.run (h : table.Sound) (deeds : List Deed) : (table.run deeds).Sound := by
  induction deeds generalizing table with
  | nil => exact h
  | cons deed deeds ih => exact ih (h.step deed)

theorem vacancies_run (table : SlotTable) (deeds : List Deed) (i : Nat) :
    (table.run deeds).vacancies i = table.vacancies i + vacated i table deeds := by
  induction deeds generalizing table with
  | nil => rfl
  | cons deed deeds ih =>
    have hrest : (table.run (deed :: deeds)).vacancies i
        = (table.step deed).vacancies i + vacated i (table.step deed) deeds := ih _
    rw [hrest, vacancies_step, vacated, Nat.add_assoc]

/-- **An entry stays under its key** as long as its slot is not vacated. -/
theorem Sound.find?_run_of_vacated_eq_zero (h : table.Sound) (hfind : table.find? key = some entry)
    (deeds : List Deed) (hkept : vacated key.index table deeds = 0) :
    (table.run deeds).find? key = some entry := by
  induction deeds generalizing table with
  | nil => exact hfind
  | cons deed deeds ih =>
    obtain ⟨hdeed, hrest⟩ := Nat.add_eq_zero_iff.mp hkept
    exact ih (h.step deed) (h.find?_step hfind deed (Bool.toNat_eq_zero.mp hdeed)) hrest

/-- **A key whose slot was vacated finds nothing**, unless the generations of the slot have come
round to that of the key. -/
theorem find?_run_eq_none (hfind : table.find? key = some entry)
    (deeds : List Deed) (hgone : vacated key.index table deeds % 2 ^ 32 ≠ 0) :
    (table.run deeds).find? key = none := by
  cases hnow : (table.run deeds).find? key with
  | none => rfl
  | some other =>
    -- The two numbers of vacations are the same word, so they differ by a multiple of its size.
    have hold := generation_of_find? hfind
    have hnew := generation_of_find? hnow
    rw [hold, vacancies_run] at hnew
    have hmod := congrArg UInt32.toNat hnew
    rw [UInt32.toNat_ofNat', UInt32.toNat_ofNat'] at hmod
    omega

/-- **Keys are tickets that are not given out again.** Whatever was done to a table that had no
slots in the beginning: an entry is refused exactly if one with the same address is present, and
then the table stays as it is; the addresses kept beside the slots are those of the entries that
are present, which are all different; and every vacant slot is listed once. The key that an
accepted entry gets takes that very entry, whatever was done since, if the slot was not vacated
in the meantime, and takes nothing if the slot was vacated a number of times that is no multiple
of 2 ^ 32. -/
theorem tickets_not_reused (before : List Deed) :
    let table := empty.run before
    (∀ entry, ((∃ failure, table.insert entry = .error failure)
        ↔ ∃ present ∈ table.entries, present.address = entry.address)
      ∧ ((∃ failure, table.insert entry = .error failure) → table.step (.insert entry) = table))
    ∧ (∀ address, address ∈ table.live ↔ ∃ present ∈ table.entries, present.address = address)
    ∧ table.live.Nodup
    ∧ (table.entries.map Entry.address).Nodup
    ∧ table.free.Nodup
    ∧ (∀ i, i ∈ table.free ↔ ∃ slot, table.slots[i]? = some slot ∧ slot.entry = none)
    ∧ ∀ entry key table', table.insert entry = .ok (key, table') → ∀ after,
      let n := vacated key.index table' after
      let now := table'.run after
      (n = 0 → ∃ rest, now.take key = some (entry, rest))
        ∧ (n % 2 ^ 32 ≠ 0 → now.take key = none ∧ now.step (.take key) = now) := by
  intro table
  have h : table.Sound := sound_empty.run before
  refine ⟨?_, fun _ => h.mem_live, h.live_nodup, h.addresses_nodup, h.free_nodup, h.mem_free, ?_⟩
  · intro entry
    refine ⟨h.insert_error_iff, ?_⟩
    rintro ⟨failure, herr⟩
    simp [SlotTable.step, herr]
  · intro entry key table' hins after n now
    have hfind := h.find?_of_insert hins
    have h' : table'.Sound := by
      have hstep := h.step (.insert entry)
      rwa [SlotTable.step, hins] at hstep
    -- As long as the slot is not vacated, the entry stays; after that its generation is past.
    constructor
    · intro hn
      have hnow := h'.find?_run_of_vacated_eq_zero hfind after hn
      exact ⟨_, take_eq_some_iff.mpr ⟨hnow, rfl⟩⟩
    · intro hn
      have hnone := (take_eq_none_iff _ _).mpr (find?_run_eq_none hfind after hn)
      refine ⟨hnone, ?_⟩
      rw [SlotTable.step, hnone]

end Custody.SlotTable

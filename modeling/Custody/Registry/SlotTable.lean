import Custody.Failure
import Custody.Handle

/-!
# Slot tables

A table of entries under keys that are never given out twice. A key names a slot and the
generation in which the entry was put there; taking the entry out moves the slot to the next
generation, so that an old key finds nothing, however often the slot has been filled again.
Vacant slots are filled again before a new one is made, the last one vacated first.

No two entries of a table have the same handle: the addresses of its entries are kept beside it,
and an entry whose address is there already is refused.
-/

namespace Custody

/-- The number of an action in its ledger. -/
abbrev ActionId := Nat

/-- The number of a liveness token in its ledger. -/
abbrev TokenId := Nat

/-- The key of an entry. -/
structure SlotKey where
  /-- The slot. -/
  index : Nat
  /-- The generation of the slot; it wraps around. -/
  generation : UInt32
  deriving DecidableEq, Repr

/-- A key in the form of debugging output. -/
def SlotKey.debug (key : SlotKey) : String :=
  "SlotKey \x7b index: " ++ toString key.index ++ ", generation: " ++
    toString key.generation.toNat ++ " \x7d"

/-- An entry. -/
structure Entry where
  /-- The action that releases the handle. -/
  action : ActionId
  /-- The handle. -/
  handle : Handle
  /-- What the entry is called in messages. -/
  label : String
  /-- The token that lives as long as the owner. -/
  token : TokenId
  deriving DecidableEq

/-- The address of an entry's handle. -/
def Entry.address (entry : Entry) : Address := entry.handle.address

/-- A slot. -/
structure Slot where
  /-- How often an entry was taken out of it. -/
  vacated : Nat
  /-- The entry in it. -/
  entry : Option Entry
  deriving DecidableEq

/-- The generation of a slot: how often an entry was taken out of it, in a word that wraps
around. -/
def Slot.generation (slot : Slot) : UInt32 := UInt32.ofNat slot.vacated

/-- A table of entries. -/
structure SlotTable where
  /-- The slots. -/
  slots : List Slot
  /-- The vacant slots, the last one vacated first. -/
  free : List Nat
  /-- The addresses of the entries. -/
  live : List Address
  deriving DecidableEq

namespace SlotTable

/-- A table without slots. -/
def empty : SlotTable := ⟨[], [], []⟩

/-- The entry under a key. -/
def find? (table : SlotTable) (key : SlotKey) : Option Entry :=
  match table.slots[key.index]? with
  | some slot => if slot.generation = key.generation then slot.entry else none
  | none => none

/-- The failure of an entry whose handle is in the table already. The label is that of the entry
that is refused. -/
def duplicate (entry : Entry) : Failure :=
  .contractViolation ("handle " ++ entry.handle.text ++ " already has a live owner (" ++
    entry.label ++ ")")

/-- Puts an entry into a vacant slot or, without one, into a new slot. -/
def place (table : SlotTable) (entry : Entry) : SlotKey × SlotTable :=
  match table.free with
  | index :: free =>
    let slot := table.slots[index]?.getD ⟨0, none⟩
    (⟨index, slot.generation⟩,
      ⟨table.slots.set index { slot with entry := some entry }, free, entry.address :: table.live⟩)
  | [] =>
    (⟨table.slots.length, 0⟩,
      ⟨table.slots ++ [⟨0, some entry⟩], [], entry.address :: table.live⟩)

/-- **Puts an entry into the table**, unless its handle is there already. -/
def insert (table : SlotTable) (entry : Entry) : Except Failure (SlotKey × SlotTable) :=
  if entry.address ∈ table.live then .error (duplicate entry) else .ok (table.place entry)

/-- How often an entry was taken out of a slot. -/
def vacancies (table : SlotTable) (index : Nat) : Nat :=
  (table.slots[index]?.map Slot.vacated).getD 0

/-- **Takes the entry under a key out of the table.** -/
def take (table : SlotTable) (key : SlotKey) : Option (Entry × SlotTable) :=
  match table.find? key with
  | some entry => some (entry,
      ⟨table.slots.set key.index ⟨table.vacancies key.index + 1, none⟩, key.index :: table.free,
        table.live.erase entry.address⟩)
  | none => none

/-- The keys of the entries that satisfy a condition, in the order of their slots; `index` is
the number of the first slot. -/
def keysFrom (wanted : Entry → Bool) : Nat → List Slot → List SlotKey
  | _, [] => []
  | index, slot :: rest =>
    match slot.entry with
    | some entry =>
      if wanted entry then ⟨index, slot.generation⟩ :: keysFrom wanted (index + 1) rest
      else keysFrom wanted (index + 1) rest
    | none => keysFrom wanted (index + 1) rest

/-- The keys of the entries that satisfy a condition, in the order of their slots. -/
def keysWhere (table : SlotTable) (wanted : Entry → Bool) : List SlotKey :=
  keysFrom wanted 0 table.slots

/-- Takes out the entries under several keys, one after the other. -/
def takeAll (table : SlotTable) : List SlotKey → List Entry × SlotTable
  | [] => ([], table)
  | key :: rest =>
    match table.take key with
    | some (entry, table) =>
      let (entries, table) := takeAll table rest
      (entry :: entries, table)
    | none => takeAll table rest

/-- The number of entries. -/
def size (table : SlotTable) : Nat := table.live.length

/-- The entries in the order of their slots. -/
def entries (table : SlotTable) : List Entry := table.slots.filterMap (·.entry)

/-! ## First laws -/

theorem take_eq_none_iff (table : SlotTable) (key : SlotKey) :
    table.take key = none ↔ table.find? key = none := by
  unfold take
  cases table.find? key <;> simp

theorem insert_eq_error_iff (table : SlotTable) (entry : Entry) :
    (∃ failure, table.insert entry = .error failure) ↔ entry.address ∈ table.live := by
  unfold insert
  split <;> simp [*]

end SlotTable

end Custody

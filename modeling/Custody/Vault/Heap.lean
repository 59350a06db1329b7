import Custody.Handle

/-!
# Cells by address

A finite store of cells, each at an address. What it holds is seen through `get?`; each
operation has its law for that view (`get?_put`, `get?_erase`).
-/

namespace Custody

/-- Cells by address. -/
structure Heap (α : Type) where
  /-- The cells with their addresses, the youngest first. -/
  cells : List (Address × α)
  deriving DecidableEq

namespace Heap

variable {α : Type}

/-- No cells. -/
def empty : Heap α := ⟨[]⟩

/-- The cell at an address. -/
def get? (heap : Heap α) (address : Address) : Option α := heap.cells.lookup address

/-- The heap without the cell at an address. -/
def erase (heap : Heap α) (address : Address) : Heap α := ⟨heap.cells.filter (·.1 ≠ address)⟩

/-- The heap with a cell at an address, in place of the one that was there. -/
def put (heap : Heap α) (address : Address) (cell : α) : Heap α :=
  ⟨(address, cell) :: (heap.erase address).cells⟩

@[simp] theorem get?_empty (address : Address) : (empty : Heap α).get? address = none := rfl

theorem get?_erase (heap : Heap α) (a b : Address) :
    (heap.erase a).get? b = if b = a then none else heap.get? b := by
  obtain ⟨cells⟩ := heap
  simp only [get?, erase]
  induction cells with
  | nil => simp
  | cons cell rest ih =>
    obtain ⟨c, value⟩ := cell
    by_cases hb : b = c
    · subst hb
      by_cases hc : b = a
      · simpa [hc] using ih
      · simp [hc]
    · have hne : (b == c) = false := beq_eq_false_iff_ne.mpr hb
      by_cases hc : c = a
      · subst hc
        simpa [List.lookup_cons, hne] using ih
      · simpa [List.lookup_cons, hne, hc] using ih

theorem get?_put (heap : Heap α) (a b : Address) (cell : α) :
    (heap.put a cell).get? b = if b = a then some cell else heap.get? b := by
  have h := get?_erase heap a b
  simp only [get?] at h
  by_cases hb : b = a
  · simp [get?, put, hb]
  · have hne : (b == a) = false := beq_eq_false_iff_ne.mpr hb
    simp [get?, put, List.lookup_cons, hne, h, hb]

@[simp] theorem get?_put_self (heap : Heap α) (a : Address) (cell : α) :
    (heap.put a cell).get? a = some cell := by simp [get?_put]

@[simp] theorem get?_erase_self (heap : Heap α) (a : Address) : (heap.erase a).get? a = none := by
  simp [get?_erase]

end Heap

end Custody

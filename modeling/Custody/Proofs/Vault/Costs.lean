import Custody.Proofs.Vault.Precedence
import Mathlib.Tactic.Ring

/-!
# What the costs of scrypt cost

A derivation by scrypt holds two things that grow with its costs: the blocks that the password is
spread over, and the table that each of them is mixed through. `scryptCost` is all that stands
between the numbers of a caller and the memory that they take. Here the accepted costs are
described as whole numbers (`Costs.Taken`), and what a derivation holds is measured on the
derivation itself: `length_spread` for the blocks, `length_table` for the table.

Of the two, only the table is kept below `scryptMemoryLimit`. The blocks are bounded by the limit
of scrypt on their number times their size, which lets them grow to almost 128 times as much
(`accepted_costs_bound_memory`); `costs_beyond_the_table` are accepted costs whose blocks are larger
than any table may be.

The length of the table is an equation on the definition that fills it, and so is the length of the
blocks on the definition that spreads the password; neither is a second definition of how much
memory is used. The conditions are on machine words, and the first step is to show that words which
are accepted are the whole numbers that they stand for, with no overflow in any product on the way.
-/

namespace Custody

namespace Bytes

/-- The pieces, each by its place. -/
theorem chunks_eq_map (size : Nat) (data : Bytes) : chunks size data =
    (List.range ((data.length + size - 1) / size)).map fun i => window data (i * size) size := by
  have h (count : Nat) : (List.range count).foldl
      (fun (state : List Bytes × Bytes) _ => (state.2.take size :: state.1, state.2.drop size))
      ([], data) =
      (((List.range count).map fun i => window data (i * size) size).reverse,
        data.drop (count * size)) := by
    induction count with
    | zero => simp
    | succ count ih => simp [List.range_succ, ih, window, Nat.succ_mul]
  exact (congrArg (fun state : List Bytes × Bytes => state.1.reverse) (h _)).trans
    (List.reverse_reverse _)

/-- A byte string of whole pieces has that many. -/
theorem length_chunks {size count : Nat} {data : Bytes} (hsize : 0 < size)
    (h : data.length = count * size) : (chunks size data).length = count := by
  rw [chunks_eq_map, List.length_map, List.length_range, h, Nat.add_sub_assoc hsize,
    Nat.mul_comm count, Nat.mul_add_div hsize, Nat.div_eq_of_lt (by omega), Nat.add_zero]

/-- The pieces of a byte string of whole pieces are of one size. -/
theorem length_of_mem_chunks {size count : Nat} {data piece : Bytes} (hsize : 0 < size)
    (h : data.length = count * size) (hmem : piece ∈ chunks size data) : piece.length = size := by
  have hcount := length_chunks hsize h
  rw [chunks_eq_map] at hmem hcount
  rw [List.length_map, List.length_range] at hcount
  obtain ⟨i, hi, rfl⟩ := List.mem_map.mp hmem
  rw [List.mem_range, hcount] at hi
  have hend : (i + 1) * size ≤ count * size := Nat.mul_le_mul_right _ hi
  rw [window, List.length_take, List.length_drop, h]
  rw [Nat.succ_mul] at hend
  omega

end Bytes

/-! ## What a derivation holds -/

namespace Derive.Scrypt

/-- One part of a block, on the way through it: the part before, the parts at even and at odd
positions, and which of them is next. -/
def chainPart (state : Words × Block × Block × Bool) (part : Words) :
    Words × Block × Block × Bool :=
  let next := salsa (Vector.zipWith (· ^^^ ·) state.1 part)
  if state.2.2.2 then (next, state.2.1.push next, state.2.2.1, false)
  else (next, state.2.1, state.2.2.1.push next, true)

theorem size_foldl_chainPart (parts : List Words) (state : Words × Block × Block × Bool) :
    (parts.foldl chainPart state).2.1.size + (parts.foldl chainPart state).2.2.1.size =
      state.2.1.size + state.2.2.1.size + parts.length := by
  induction parts generalizing state with
  | nil => rfl
  | cons part rest ih =>
    rw [List.foldl_cons, ih, List.length_cons]
    unfold chainPart
    split
    · simp only [Array.size_push]; omega
    · simp only [Array.size_push]; omega

/-- Mixing keeps the size of a block. -/
@[simp] theorem size_mixBlock (block : Block) : (mixBlock block).size = block.size := by
  have h := size_foldl_chainPart block.toList
    (block.back?.getD (Vector.replicate 16 0), #[], #[], true)
  have hfold : mixBlock block =
      (block.toList.foldl chainPart
        (block.back?.getD (Vector.replicate 16 0), #[], #[], true)).2.1 ++
      (block.toList.foldl chainPart
        (block.back?.getD (Vector.replicate 16 0), #[], #[], true)).2.2.1 := by
    rw [mixBlock, ← Array.foldl_toList]
    rfl
  rw [hfold, Array.size_append, h]
  simp

/-- **The table** that a block is mixed through, and the block when the table is full. -/
def fill (n : Nat) (block : Block) : Array Block × Block :=
  (List.range n).foldl (fun (table, block) _ => (table.push block, mixBlock block)) (#[], block)

/-- A block after it has visited a table `n` times, at the positions that it points at. -/
def visit (n : Nat) (filled : Array Block × Block) : Block :=
  (List.range n).foldl
    (fun block _ => mixBlock (block.xor (filled.1.getD (position n block) #[]))) filled.2

theorem mixThroughTable_eq (n : Nat) (block : Block) :
    mixThroughTable n block = visit n (fill n block) := rfl

theorem fill_succ (n : Nat) (block : Block) : fill (n + 1) block =
    ((fill n block).1.push (fill n block).2, mixBlock (fill n block).2) := by
  rw [fill, List.range_succ, List.foldl_append]
  rfl

@[simp] theorem size_fill_snd (n : Nat) (block : Block) : (fill n block).2.size = block.size := by
  induction n with
  | zero => rfl
  | succ n ih => rw [fill_succ, size_mixBlock, ih]

/-- A part has 64 bytes. -/
theorem length_toBytes (block : Block) : block.toBytes.length = 64 * block.size := by
  have hpart (part : Words) : (part.toList.flatMap Hash.bytes32LE).length = 64 := by
    simp [List.length_flatMap, List.map_const']
  simp [Block.toBytes, List.length_flatMap, hpart, List.map_const', Nat.mul_comm]

/-- The bytes of a table, one entry after the other. -/
def tableBytes (n : Nat) (block : Block) : Bytes := (fill n block).1.toList.flatMap Block.toBytes

theorem length_tableBytes (n : Nat) (block : Block) :
    (tableBytes n block).length = n * (64 * block.size) := by
  induction n with
  | zero => simp [tableBytes, fill]
  | succ n ih =>
    rw [tableBytes, fill_succ, Array.toList_push, List.flatMap_append, List.length_append,
      ← tableBytes, ih, List.flatMap_singleton, length_toBytes, size_fill_snd, Nat.succ_mul n]

/-- Bytes of whole parts make a block of so many parts. -/
theorem size_ofBytes {count : Nat} {bytes : Bytes} (h : bytes.length = count * 64) :
    (Block.ofBytes bytes).size = count := by
  simp [Block.ofBytes, Bytes.length_chunks (by decide : 0 < 64) h]

/-- The table for a block of `128 * r` bytes. -/
theorem length_table {n r : Nat} {bytes : Bytes} (h : bytes.length = 128 * r) :
    (tableBytes n (Block.ofBytes bytes)).length = 128 * r * n := by
  have hparts : bytes.length = 2 * r * 64 := by omega
  rw [length_tableBytes, size_ofBytes hparts]
  ring

end Derive.Scrypt

/-! ## The costs that are accepted -/

namespace Vault

open Derive

variable {vault : Vault}

/-- A step either passes all of its exits, or takes one of them and fails. -/
theorem KeepsTo.passes_or_fails {α : Type} {exits : List Exit} {result : Check α × CallState}
    {known : α → Prop} (h : KeepsTo vault exits result known) :
    ((∀ exit ∈ exits, exit.taken = false) ∧ ∃ a, result.1 = .ok a ∧ known a) ∨
      ((∃ exit ∈ exits, exit.taken = true) ∧ ∃ code, result.1 = .error code) := by
  unfold KeepsTo AtFirstExit at h
  cases hfirst : exits.find? (·.taken) with
  | none =>
    rw [hfirst] at h
    simp only [List.find?_eq_none, Bool.not_eq_true] at hfirst
    obtain ⟨a, rfl, ha⟩ := h
    exact .inl ⟨hfirst, a, rfl, ha⟩
  | some exit =>
    rw [hfirst] at h
    obtain ⟨code, after, rfl, -⟩ := h
    exact .inr ⟨⟨exit, List.mem_of_find?_eq_some hfirst, List.find?_some hfirst⟩, code, rfl⟩

namespace Costs

/-- **The costs that scrypt takes**, as whole numbers: a power of two from 2 on, sizes that are
positive, a table within the limit, and the two conditions of scrypt itself. -/
structure Taken (n r p : Int) : Prop where
  /-- The table has at least two entries. -/
  two_le : 2 ≤ n
  /-- Their number is a power of two. -/
  power : n.toNat.isPowerOfTwo
  /-- A block is not empty. -/
  r_pos : 0 < r
  /-- There is a block. -/
  p_pos : 0 < p
  /-- The table is within the limit. -/
  table : 128 * r * n ≤ scryptMemoryLimit
  /-- A block can point at every entry of the table. -/
  depth : n.toNat.log2 < 16 * r
  /-- The blocks can be derived. -/
  blocks : r * p < scryptBlockLimit

/-- No exit over the costs is taken. -/
theorem taken_iff (n r p : Int32) :
    (∀ exit ∈ costExits n r p, exit.taken = false) ↔ Taken n.toInt r.toInt p.toInt := by
  have htwo : (2 : Int32).toInt = 2 := rfl
  have hzero : (0 : Int32).toInt = 0 := rfl
  simp only [costExits, Exit.of, List.forall_mem_cons, List.not_mem_nil, IsEmpty.forall_iff,
    implies_true, and_true, decide_eq_false_iff_not, Int32.lt_iff_toInt_lt, Int32.le_iff_toInt_le,
    htwo, hzero, not_not, not_or, Int.not_lt, Int.not_le]
  constructor
  · rintro ⟨h2, hpow, hr, hp, htable, hdepth, hblocks⟩
    exact ⟨h2, hpow, hr, hp, htable, hdepth, hblocks⟩
  · rintro ⟨h2, hpow, hr, hp, htable, hdepth, hblocks⟩
    exact ⟨h2, hpow, hr, hp, htable, hdepth, hblocks⟩

/-- **What comes of the costs of a call**: the costs that scrypt is to take, or a code. -/
def accepted (vault : Vault) (n r p : Int32) : Check ScryptCost :=
  ((scryptCost n r p).exec (.start vault)).1

/-- **The costs are accepted as they are**, or not at all. -/
theorem accepted_eq_ok_iff {n r p : Int32} {cost : ScryptCost} :
    accepted vault n r p = .ok cost ↔ Taken n.toInt r.toInt p.toInt ∧
      (cost.n : Int) = n.toInt ∧ (cost.r : Int) = r.toInt ∧ (cost.p : Int) = p.toInt := by
  unfold accepted
  obtain ⟨hnone, found, hfound, rfl⟩ | ⟨⟨exit, hmem, htaken⟩, code, hfailed⟩ :=
    (keepsTo_cost vault n r p).passes_or_fails
  · have htaken := (taken_iff n r p).mp hnone
    have hn : (n.toInt.toNat : Int) = n.toInt :=
      Int.toNat_of_nonneg (Int.le_trans (by decide) htaken.two_le)
    have hr : (r.toInt.toNat : Int) = r.toInt := Int.toNat_of_nonneg htaken.r_pos.le
    have hp : (p.toInt.toNat : Int) = p.toInt := Int.toNat_of_nonneg htaken.p_pos.le
    rw [hfound, Except.ok.injEq]
    constructor
    · rintro rfl
      exact ⟨htaken, hn, hr, hp⟩
    · obtain ⟨n', r', p'⟩ := cost
      rintro ⟨-, hn', hr', hp'⟩
      simp only [← hn', ← hr', ← hp', Int.toNat_natCast]
  · rw [hfailed]
    constructor
    · exact fun h => nomatch h
    · intro h
      rw [(taken_iff n r p).mpr h.1 exit hmem] at htaken
      cases htaken

/-! ## How much they cost -/

/-- The bytes that a derivation spreads the password over, all blocks in a row. -/
def spread (cost : ScryptCost) (password salt : Bytes) : Bytes :=
  pbkdf2 .sha256 password salt 1 (128 * cost.r * cost.p)

/-- The blocks that are mixed. -/
def spreadBlocks (cost : ScryptCost) (password salt : Bytes) : List Bytes :=
  Bytes.chunks (128 * cost.r) (spread cost password salt)

theorem length_spread (cost : ScryptCost) (password salt : Bytes) :
    (spread cost password salt).length = 128 * cost.r * cost.p := length_pbkdf2 ..

theorem length_spread_eq_mul (cost : ScryptCost) (password salt : Bytes) :
    (spread cost password salt).length = cost.p * (128 * cost.r) := by
  rw [length_spread, Nat.mul_comm]

/-- **What a derivation at some costs holds in memory**, and how much that is at most. -/
structure Bounded (cost : ScryptCost) (password salt : Bytes) : Prop where
  /-- The derivation mixes the blocks that the password is spread over, each through the table that
  it fills. -/
  derives : ∀ length, scrypt password salt cost.n cost.r cost.p length =
    pbkdf2 .sha256 password
      ((spreadBlocks cost password salt).flatMap fun block =>
        (Scrypt.visit cost.n (Scrypt.fill cost.n (Scrypt.Block.ofBytes block))).toBytes)
      1 length
  /-- All blocks together have `128 * r * p` bytes. -/
  spread : (spread cost password salt).length = 128 * cost.r * cost.p
  /-- There are `p` of them. -/
  count : (spreadBlocks cost password salt).length = cost.p
  /-- The table that one of them is mixed through has `128 * r * n` bytes. -/
  table : ∀ block ∈ spreadBlocks cost password salt,
    (Scrypt.tableBytes cost.n (Scrypt.Block.ofBytes block)).length = 128 * cost.r * cost.n
  /-- No table exceeds the limit. -/
  table_le : 128 * cost.r * cost.n ≤ scryptMemoryLimit
  /-- The blocks stay below 128 times the limit of scrypt on them. -/
  spread_lt : 128 * cost.r * cost.p < 2 ^ 37
  /-- They keep to the limit on the table as long as `r * p` does not exceed `2 ^ 23`, and no
  longer. -/
  spread_le_iff : 128 * cost.r * cost.p ≤ scryptMemoryLimit ↔ cost.r * cost.p ≤ 2 ^ 23

/-- **Accepted costs bound the memory of a derivation.** Costs are accepted as the numbers that
they are, exactly if they satisfy the conditions of `Taken`. The table then keeps to its limit; the
blocks keep to it only if there are few enough of them, and are otherwise bounded by the limit of
scrypt. -/
theorem accepted_costs_bound_memory (vault : Vault) (n r p : Int32) (cost : ScryptCost) :
    (accepted vault n r p = .ok cost ↔ Taken n.toInt r.toInt p.toInt ∧
      (cost.n : Int) = n.toInt ∧ (cost.r : Int) = r.toInt ∧ (cost.p : Int) = p.toInt) ∧
    (accepted vault n r p = .ok cost → ∀ password salt, Bounded cost password salt) := by
  refine ⟨accepted_eq_ok_iff, fun h password salt => ?_⟩
  obtain ⟨htaken, hn, hr, hp⟩ := accepted_eq_ok_iff.mp h
  have hsize : 0 < 128 * cost.r := by have := htaken.r_pos; omega
  have hlength := length_spread_eq_mul cost password salt
  have htable : 128 * cost.r * cost.n ≤ scryptMemoryLimit := by
    exact_mod_cast hn ▸ hr ▸ htaken.table
  have hblocks : cost.r * cost.p < scryptBlockLimit := by
    exact_mod_cast hr ▸ hp ▸ htaken.blocks
  unfold scryptBlockLimit at hblocks
  exact
    { derives := fun length => by
        simp only [scrypt, Scrypt.mixThroughTable_eq, spreadBlocks, Costs.spread]
      spread := length_spread cost password salt
      count := Bytes.length_chunks hsize hlength
      table := fun _ hmem =>
        Scrypt.length_table (Bytes.length_of_mem_chunks hsize hlength hmem)
      table_le := htable
      spread_lt := by rw [Nat.mul_assoc]; omega
      spread_le_iff := by rw [Nat.mul_assoc, scryptMemoryLimit]; omega }

theorem accepted_costs_bound_memory_interactive :
    accepted empty 16384 8 1 = .ok ⟨16384, 8, 1⟩ ∧
      Bounded ⟨16384, 8, 1⟩ (Text.utf8 "pw") (Text.utf8 "salt") :=
  ⟨rfl, (accepted_costs_bound_memory empty 16384 8 1 ⟨16384, 8, 1⟩).2 rfl _ _⟩

/-- **Costs beyond the table**: with the smallest table there is, they are accepted, and the blocks
of a derivation exceed the limit on the table. -/
theorem costs_beyond_the_table :
    accepted empty 2 1 8388609 = .ok ⟨2, 1, 8388609⟩ ∧
      128 * 1 * 2 ≤ scryptMemoryLimit ∧
      scryptMemoryLimit <
        (spread ⟨2, 1, 8388609⟩ (Text.utf8 "pw") (Text.utf8 "salt")).length := by
  refine ⟨rfl, by decide, ?_⟩
  rw [length_spread]
  decide

end Costs

end Vault

end Custody

import Custody.Derive.Pbkdf2
import Custody.Hash.Words

/-!
# scrypt

Keys from passwords at a cost in memory. PBKDF2 spreads the password over `p` blocks of
`128 * r` bytes, each block is mixed through a table of `n` blocks (`mixThroughTable`), and PBKDF2
with the mixed blocks as salt gives the key. The table holds `128 * r * n` bytes.
-/

namespace Custody.Derive.Scrypt

open Hash

/-- The sixteen words of 64 bytes. -/
abbrev Words := Vector UInt32 16

/-- Four words at positions below sixteen, each changed by the two before it. -/
def quarter (v : Words) (a b c d : Nat) : Words :=
  let word (i : Nat) : UInt32 := v.toArray.getD i 0
  let vb := word b ^^^ rotateLeft32 (word a + word d) 7
  let vc := word c ^^^ rotateLeft32 (vb + word a) 9
  let vd := word d ^^^ rotateLeft32 (vc + vb) 13
  let va := word a ^^^ rotateLeft32 (vd + vc) 18
  (((v.setIfInBounds a va).setIfInBounds b vb).setIfInBounds c vc).setIfInBounds d vd

/-- The columns, then the rows. -/
def doubleRound (v : Words) : Words :=
  let v := quarter v 0 4 8 12
  let v := quarter v 5 9 13 1
  let v := quarter v 10 14 2 6
  let v := quarter v 15 3 7 11
  let v := quarter v 0 1 2 3
  let v := quarter v 5 6 7 4
  let v := quarter v 10 11 8 9
  quarter v 15 12 13 14

/-- Salsa20 with eight rounds. -/
def salsa (v : Words) : Words :=
  Vector.zipWith (· + ·) v (doubleRound (doubleRound (doubleRound (doubleRound v))))

/-- One block: `2 * r` times 64 bytes. -/
abbrev Block := Array Words

/-- The exclusive or of two blocks. -/
def Block.xor (a b : Block) : Block := Array.zipWith (Vector.zipWith (· ^^^ ·)) a b

/-- Chains Salsa20 through the parts of a block and puts those at even positions first. -/
def mixBlock (block : Block) : Block :=
  let (_, even, odd, _) := block.foldl
    (fun (last, even, odd, isEven) part =>
      let next := salsa (Vector.zipWith (· ^^^ ·) last part)
      if isEven then (next, even.push next, odd, false) else (next, even, odd.push next, true))
    (block.back?.getD (Vector.replicate 16 0), (#[] : Block), (#[] : Block), true)
  even ++ odd

/-- The position in a table of `n` entries that a block points at. -/
def position (n : Nat) (block : Block) : Nat :=
  ((block.back?.getD (Vector.replicate 16 0)).toArray.getD 0 0).toNat % n

/-- Fills a table with the next `n` blocks, then visits it `n` times where the block points at. -/
def mixThroughTable (n : Nat) (block : Block) : Block :=
  let (table, block) := (List.range n).foldl
    (fun (table, block) _ => (table.push block, mixBlock block)) ((#[] : Array Block), block)
  (List.range n).foldl
    (fun block _ => mixBlock (block.xor (table.getD (position n block) #[]))) block

/-- The block that bytes make. -/
def Block.ofBytes (bytes : Bytes) : Block := ((Bytes.chunks 64 bytes).map words16LE).toArray

/-- The bytes of a block. -/
def Block.toBytes (block : Block) : Bytes :=
  block.toList.flatMap fun part => part.toList.flatMap bytes32LE

end Scrypt

/-- The first `length` bytes that scrypt derives. -/
def scrypt (password salt : Bytes) (n r p length : Nat) : Bytes :=
  let blocks := Bytes.chunks (128 * r) (pbkdf2 .sha256 password salt 1 (128 * r * p))
  let mixed := blocks.flatMap fun block =>
    (Scrypt.mixThroughTable n (Scrypt.Block.ofBytes block)).toBytes
  pbkdf2 .sha256 password mixed 1 length

@[simp] theorem length_scrypt (password salt : Bytes) (n r p length : Nat) :
    (scrypt password salt n r p length).length = length := length_pbkdf2 ..

end Custody.Derive

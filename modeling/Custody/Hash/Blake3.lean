import Custody.Hash.Words

/-!
# BLAKE3

The unkeyed hash function with output of any length. A message is cut into chunks of 1024 bytes,
the chunks are the leaves of a binary tree whose left subtrees are full, and the root is
compressed again and again, with a counter, for as many blocks of output as are asked for.

`hash message n` is the first `n` bytes of that output, and `length_hash` says there are `n`.
-/

namespace Custody.Hash.Blake3

/-- A chaining value: eight words. -/
abbrev Chain := Vector UInt32 8

/-- A message block: sixteen words. -/
abbrev Block := Vector UInt32 16

/-- The chaining value every chunk starts from. -/
def initial : Chain :=
  #v[0x6a09e667, 0xbb67ae85, 0x3c6ef372, 0xa54ff53a, 0x510e527f, 0x9b05688c, 0x1f83d9ab, 0x5be0cd19]

/-- Marks the first block of a chunk. -/
def chunkStart : UInt32 := 1

/-- Marks the last block of a chunk. -/
def chunkEnd : UInt32 := 2

/-- Marks a block that joins two subtrees. -/
def parent : UInt32 := 4

/-- Marks the block that makes the output. -/
def root : UInt32 := 8

/-- The mixing step on the words at four positions. -/
def mix (v : Block) (a b c d : Fin 16) (x y : UInt32) : Block :=
  let va := v[a] + v[b] + x
  let vd := rotateRight32 (v[d] ^^^ va) 16
  let vc := v[c] + vd
  let vb := rotateRight32 (v[b] ^^^ vc) 12
  let va := va + vb + y
  let vd := rotateRight32 (vd ^^^ va) 8
  let vc := vc + vd
  let vb := rotateRight32 (vb ^^^ vc) 7
  (((v.set a va).set b vb).set c vc).set d vd

/-- One round: the columns, then the diagonals. -/
def round (v m : Block) : Block :=
  let v := mix v 0 4 8 12 m[0] m[1]
  let v := mix v 1 5 9 13 m[2] m[3]
  let v := mix v 2 6 10 14 m[4] m[5]
  let v := mix v 3 7 11 15 m[6] m[7]
  let v := mix v 0 5 10 15 m[8] m[9]
  let v := mix v 1 6 11 12 m[10] m[11]
  let v := mix v 2 7 8 13 m[12] m[13]
  mix v 3 4 9 14 m[14] m[15]

/-- The order in which the next round reads the message words. -/
def permute (m : Block) : Block :=
  #v[m[2], m[6], m[3], m[10], m[7], m[0], m[4], m[13], m[1], m[11], m[12], m[5], m[9], m[14], m[15],
    m[8]]

/-- The given number of rounds, permuting the message in between. -/
def rounds : Nat → Block → Block → Block
  | 0, v, _ => v
  | n + 1, v, m => rounds n (round v m) (permute m)

/-- What is compressed at a node of the tree. -/
structure Node where
  /-- The chaining value that goes in. -/
  chain : Chain
  /-- The message words. -/
  block : Block
  /-- How many bytes of the block are message. -/
  length : UInt32
  /-- The number of the chunk. -/
  counter : UInt64
  /-- The marks of the block, less that of the root. -/
  flags : UInt32

/-- The sixteen words that a compression ends with. -/
def Node.compress (node : Node) (counter : UInt64) (flags : UInt32) : Block :=
  let h := node.chain
  let v := rounds 7
    #v[h[0], h[1], h[2], h[3], h[4], h[5], h[6], h[7], initial[0], initial[1], initial[2],
      initial[3], counter.toUInt32, (counter >>> 32).toUInt32, node.length, flags] node.block
  #v[v[0] ^^^ v[8], v[1] ^^^ v[9], v[2] ^^^ v[10], v[3] ^^^ v[11], v[4] ^^^ v[12], v[5] ^^^ v[13],
    v[6] ^^^ v[14], v[7] ^^^ v[15], v[8] ^^^ h[0], v[9] ^^^ h[1], v[10] ^^^ h[2], v[11] ^^^ h[3],
    v[12] ^^^ h[4], v[13] ^^^ h[5], v[14] ^^^ h[6], v[15] ^^^ h[7]]

/-- The chaining value of a node that is not the root. -/
def Node.chaining (node : Node) : Chain :=
  let v := node.compress node.counter node.flags
  #v[v[0], v[1], v[2], v[3], v[4], v[5], v[6], v[7]]

/-- The last node of a chunk: all its blocks but the last are compressed into the chaining value. -/
def chunkNode (counter : UInt64) : Chain → UInt32 → List Bytes → Node
  | chain, start, [] => ⟨chain, words16LE [], 0, counter, start ||| chunkEnd⟩
  | chain, start, [block] =>
    ⟨chain, words16LE block, UInt32.ofNat block.length, counter, start ||| chunkEnd⟩
  | chain, start, block :: next :: rest =>
    chunkNode counter
      (Node.chaining ⟨chain, words16LE block, UInt32.ofNat block.length, counter, start⟩) 0
      (next :: rest)

/-- The node of a chunk of at most 1024 bytes. -/
def chunk (counter : Nat) (bytes : Bytes) : Node :=
  chunkNode (UInt64.ofNat counter) initial chunkStart (Bytes.chunks 64 bytes)

/-- The node that joins two subtrees. -/
def join (left right : Node) : Node :=
  let l := left.chaining
  let r := right.chaining
  ⟨initial, #v[l[0], l[1], l[2], l[3], l[4], l[5], l[6], l[7],
    r[0], r[1], r[2], r[3], r[4], r[5], r[6], r[7]], 64, 0, parent⟩

/-- The tree over `count` chunks from number `first` on: the left subtree is the largest full
one that leaves a chunk for the right. The first argument bounds the height. -/
def tree : Nat → Array Bytes → Nat → Nat → Node
  | 0, chunks, first, _ => chunk first (chunks.getD first [])
  | height + 1, chunks, first, count =>
    if count ≤ 1 then chunk first (chunks.getD first [])
    else
      let left := 1 <<< (count - 1).log2
      join (tree height chunks first left) (tree height chunks (first + left) (count - left))

/-- The root of the tree over a message. -/
def rootNode (message : Bytes) : Node :=
  let chunks := (Bytes.chunks 1024 message).toArray
  tree chunks.size chunks 0 chunks.size

/-- The output block of number `i`, in bytes. -/
def outputBlock (node : Node) (i : Nat) : Bytes :=
  (node.compress (UInt64.ofNat i) (node.flags ||| root)).toList.flatMap bytes32LE

/-- The first `length` bytes of the BLAKE3 output for a message. -/
def hash (message : Bytes) (length : Nat) : Bytes :=
  let node := rootNode message
  ((List.range ((length + 63) / 64)).flatMap (outputBlock node)).take length

theorem length_outputBlock (node : Node) (i : Nat) : (outputBlock node i).length = 64 := by
  simp [outputBlock, List.length_flatMap, List.map_const']

@[simp] theorem length_hash (message : Bytes) (length : Nat) :
    (hash message length).length = length := by
  simp [hash, List.length_flatMap, length_outputBlock, List.map_const']
  omega

/-- Outputs of different lengths for one message are the beginnings of one stream. -/
theorem take_hash (message : Bytes) {n length : Nat} (h : n ≤ length) :
    (hash message length).take n = hash message n := by
  have hblocks : List.range ((length + 63) / 64) = List.range ((n + 63) / 64)
      ++ (List.range ((length + 63) / 64 - (n + 63) / 64)).map ((n + 63) / 64 + ·) := by
    rw [← List.range_add]
    congr 1
    omega
  rw [hash, hash, List.take_take, Nat.min_eq_left h, hblocks, List.flatMap_append]
  refine List.take_append_of_le_length ?_
  simp [List.length_flatMap, length_outputBlock, List.map_const']
  omega

end Custody.Hash.Blake3

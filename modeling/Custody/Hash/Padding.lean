import Custody.Hash.Words

/-!
# Padding to whole blocks

The hash functions of the SHA families read whole blocks. A message is continued by a one bit,
zero bits, and its own length in bits, so that the last block is full; messages of different
lengths never become the same blocks.
-/

namespace Custody.Hash

/-- A message with its padding, for blocks of `block` bytes whose last `tail` bytes hold the
length. -/
def padded (block tail : Nat) (message : Bytes) : Bytes :=
  let used := (message.length + 1 + tail) % block
  message ++ 0x80 :: Bytes.zeros (if used == 0 then 0 else block - used) ++
    Bytes.ofNatBE tail (8 * message.length)

end Custody.Hash

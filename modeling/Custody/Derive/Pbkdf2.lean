import Custody.Derive.Mac

/-!
# PBKDF2

Keys from passwords by repeated keyed hashing. Each block of the output is the exclusive or of a
chain of macs, the first over the salt and the number of the block.
-/

namespace Custody.Derive

/-- The exclusive or of `sum` with `count` more links of a chain of macs that stands at `link`. -/
def macChain (digest : MacDigest) (password : Bytes) : Nat → Bytes → Bytes → Bytes
  | 0, _, sum => sum
  | count + 1, link, sum =>
    let next := mac digest password link
    macChain digest password count next (Bytes.xor sum next)

/-- The block of number `i`, counted from 0. -/
def pbkdf2Block (digest : MacDigest) (password salt : Bytes) (iterations i : Nat) : Bytes :=
  let first := mac digest password (salt ++ Bytes.ofNatBE 4 (i + 1))
  macChain digest password (iterations - 1) first first

/-- The first `length` bytes that PBKDF2 derives. -/
def pbkdf2 (digest : MacDigest) (password salt : Bytes) (iterations length : Nat) : Bytes :=
  ((List.range ((length + digest.size - 1) / digest.size)).flatMap
    (pbkdf2Block digest password salt iterations)).take length

theorem length_macChain (digest : MacDigest) (password : Bytes) (count : Nat) (link sum : Bytes)
    (h : sum.length = digest.size) :
    (macChain digest password count link sum).length = digest.size := by
  induction count generalizing link sum with
  | zero => exact h
  | succ count ih =>
    apply ih
    simp [Bytes.xor, h]

theorem length_pbkdf2Block (digest : MacDigest) (password salt : Bytes) (iterations i : Nat) :
    (pbkdf2Block digest password salt iterations i).length = digest.size :=
  length_macChain _ _ _ _ _ (length_mac ..)

theorem MacDigest.size_pos (digest : MacDigest) : 0 < digest.size := by
  cases digest <;> simp [size]

/-- The next multiple of `size` is no smaller. -/
theorem le_ceil_mul (length size : Nat) (h : 0 < size) :
    length ≤ (length + size - 1) / size * size := by
  have := Nat.lt_div_mul_add h (a := length + size - 1)
  omega

@[simp] theorem length_pbkdf2 (digest : MacDigest) (password salt : Bytes)
    (iterations length : Nat) :
    (pbkdf2 digest password salt iterations length).length = length := by
  have := le_ceil_mul length digest.size digest.size_pos
  simp [pbkdf2, List.length_flatMap, length_pbkdf2Block, List.map_const']
  omega

end Custody.Derive

import Custody.Derive.Hkdf
import Custody.Derive.Pbkdf2
import Custody.Derive.Scrypt
import Custody.Vault.Basic

/-!
# Key derivation in the vault

The three derivations fill the whole window of the caller. Each checks its arguments in a fixed
order, so that the code of a call with several faults is that of the first.
-/

namespace Custody.Vault

open Derive Step

/-- The most bytes that a derivation from a password gives. -/
def passwordOutputLimit : Nat := 0x100000

/-- The most bytes that the table of scrypt may have. -/
def scryptMemoryLimit : Nat := 0x40000000

/-- The first product of block size and number of blocks that scrypt does not take. -/
def scryptBlockLimit : Nat := 0x40000000

/-- Fills a window of `span` bytes by a derivation from a password. An empty window needs no
derivation, and so cannot fail in it. -/
def derivePassword (fill : Nat → Bytes) (complaint : String) (span : Nat) : Step Int32 := do
  demand (span ≤ passwordOutputLimit) .kdfOutputTooLong
  if span = 0 then return 0
  else if ← isRaised .nativeError4 then failSaying .nativeError complaint
  else deliver (fill span)

/-- Derives from a password by iterated keyed hashing. -/
def derivePbkdf2 (digest : Option Bytes) (password salt : Option InputWindow) (iterations : Int32)
    (out : Option OutputWindow) : Step Int32 := do
  let password ← look (·.input password)
  let salt ← look (·.input salt)
  demand (!salt.isEmpty) .kdfSaltEmpty
  demand (0 < iterations) .kdfIterNotPositive
  let name ← look (·.readName digest)
  let digest ← need (MacDigest.ofName? name) .kdfUnknownDigest
  let span ← look (·.span out)
  derivePassword (pbkdf2 digest password salt iterations.toInt.toNat) "PBKDF2 derivation failed"
    span

/-- Derives from key material. The salt may be empty. -/
def deriveHkdf (digest : Option Bytes) (material salt info : Option InputWindow)
    (out : Option OutputWindow) : Step Int32 := do
  let material ← look (·.input material)
  let salt ← look (·.input salt)
  let info ← look (·.input info)
  let name ← look (·.readName digest)
  let digest ← need (hkdfDigest? name) .kdfUnknownDigest
  let span ← look (·.span out)
  if ← isRaised .nativeError4 then failSaying .nativeError "HKDF derivation failed"
  else
    demand (span ≤ hkdfLimit digest) .kdfOutputTooLong
    deliver (hkdf digest material salt info span)

/-- The costs of scrypt: the size of its table, the size of its blocks, and how many there are. -/
structure ScryptCost where
  /-- The number of entries of the table, a power of two. -/
  n : Nat
  /-- The size of a block, in units of 128 bytes. -/
  r : Nat
  /-- The number of blocks. -/
  p : Nat
  deriving DecidableEq, Repr

/-- The costs, if scrypt takes them. -/
def scryptCost (n r p : Int32) : Step ScryptCost := do
  demand (2 ≤ n) .scryptNTooSmall
  let cost : ScryptCost := ⟨n.toInt.toNat, r.toInt.toNat, p.toInt.toNat⟩
  demand (1 <<< cost.n.log2 = cost.n) .scryptNNotPow2
  demand (0 < r) .scryptRNotPositive
  demand (0 < p) .scryptPNotPositive
  if scryptMemoryLimit < 128 * cost.r * cost.n then
    failSaying .nativeError ("scrypt memory cost 128 * " ++ toString cost.r ++ " * " ++
      toString cost.n ++ " exceeds " ++ toString scryptMemoryLimit ++ " bytes")
  else if 16 * cost.r ≤ cost.n.log2 ∨ scryptBlockLimit ≤ cost.r * cost.p then
    failSaying .nativeError "scrypt parameters rejected: invalid scrypt parameters"
  else return cost

/-- Derives from a password at a cost in memory. -/
def deriveScrypt (password salt : Option InputWindow) (n r p : Int32) (out : Option OutputWindow) :
    Step Int32 := do
  let password ← look (·.input password)
  let salt ← look (·.input salt)
  demand (!salt.isEmpty) .kdfSaltEmpty
  let cost ← scryptCost n r p
  let span ← look (·.span out)
  derivePassword (scrypt password salt cost.n cost.r cost.p) "scrypt derivation failed" span

end Custody.Vault

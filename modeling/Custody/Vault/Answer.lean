import Custody.Vault.Derivation
import Custody.Vault.Digest
import Custody.Vault.Kem
import Custody.Vault.KeySpec
import Custody.Vault.Signature

/-!
# The answers of the vault

Every call of the native library has its answer here (`Vault.answer`), and so has a run of calls
(`Vault.run`). A call ends with a verdict (`Vault.verdict`): it is granted with a status, or
refused with a code. Either way the verdict holds the state in which the call was left, and that is
what the caller and the library have from it (`Vault.settle`).
-/

namespace Custody.Vault

open Step

/-! ## Faults and diagnostics -/

/-- The library with a fault raised or cleared. -/
def withFault (vault : Vault) (flag : FaultFlag) (on : Bool) : Vault :=
  { vault with raised := fun other => if other = flag then on else vault.raised other }

/-- Raises or clears the fault with a number. -/
def faultSet (flag on : Int32) : Step Int32 := do
  let flag ← need (FaultFlag.ofNumber? flag) .inputOutOfRange
  change (·.withFault flag (on ≠ 0))
  return 0

/-- Clears every fault. -/
def faultsReset : Step Int32 := do
  change fun vault => { vault with raised := fun _ => false }
  return 0

/-- The diagnostics in one line. -/
def pending (vault : Vault) : Bytes := Text.utf8 ("; ".intercalate vault.diagnostics)

/-- A length as a status, as far as that reaches. -/
def lengthStatus (n : Nat) : Int32 := Int32.ofNat (min n (wordLimit - 1))

/-- Takes the diagnostics, as many bytes as there is room for; without a capacity, reports their
length and leaves them. -/
def drain : Option Nat → Step Int32
  | none => look fun vault => .ok (lengthStatus vault.pending.length)
  | some capacity => do
    let pending ← look fun vault => .ok vault.pending
    let taken := pending.take (min capacity (wordLimit - 1))
    store taken
    change fun vault => { vault with diagnostics := [] }
    return lengthStatus taken.length

/-! ## Calls -/

/-- **The entry points**, by the calls that go to them. -/
def entry (supply : Supply) : Call → Step Int32
  | .version => return interfaceVersion.toInt32
  | .digestAllocate name length slot => digestAllocate supply.address name length slot
  | .digestFeedByte handle byte => digestFeedByte handle byte
  | .digestFeed handle data => digestFeed handle data
  | .digestLength handle => digestLength handle
  | .digestFinish handle out => digestFinish handle out
  | .digestReset handle => digestReset handle
  | .digestDispose handle => digestDispose handle
  | .keyAllocate slot => keyAllocate supply.address slot
  | .keyDispose handle => keyDispose handle
  | .keyGenerate handle type => keyGenerate supply.seed handle type
  | .keyDecodePublic handle type data => keyDecodePublic handle type data
  | .keyDecodePrivate handle type data => keyDecodePrivate handle type data
  | .keyEncodePublic handle out => keyEncodePublic handle out
  | .keyEncodePrivate handle out => keyEncodePrivate handle out
  | .keyType handle => keyType handle
  | .encapsulate handle out => encapsulate supply.seed handle out
  | .decapsulate handle ciphertext out => decapsulate handle ciphertext out
  | .secretLength handle => reportSecretLength handle
  | .signatureAllocate slot => signatureAllocate supply.address slot
  | .signatureDispose handle => signatureDispose handle
  | .signatureInitSign handle key => signatureInitSign handle key
  | .signatureInitVerify handle key => signatureInitVerify handle key
  | .signatureFeed handle data => signatureFeed handle data
  | .signatureSign handle out => signatureSign handle out
  | .signatureVerify handle signature => signatureVerify handle signature
  | .pbkdf2 digest password salt iterations out => derivePbkdf2 digest password salt iterations out
  | .hkdf digest material salt info out => deriveHkdf digest material salt info out
  | .scrypt password salt n r p out => deriveScrypt password salt n r p out
  | .faultsAvailable => return 1
  | .faultSet flag on => faultSet flag on
  | .faultsReset => faultsReset
  | .drain capacity => drain capacity

/-- What comes of a call that is granted: the state in which it ends, with a status. -/
structure Grant extends CallState where
  /-- The status that is reported. -/
  status : Int32

/-- What comes of a call that fails: the state in which it ends all the same, with a code. -/
structure Refusal extends CallState where
  /-- The code that is reported. -/
  code : ErrorCode

/-- The outcome of a call. -/
abbrev Verdict := Except Refusal

/-- The verdict on a call that is made of a step. -/
def Step.on (step : Step Int32) (vault : Vault) : Verdict Grant :=
  match step.exec (.start vault) with
  | (.ok status, state) => .ok ⟨state, status⟩
  | (.error code, state) => .error ⟨state, code⟩

/-- **The verdict on a call.** -/
def verdict (vault : Vault) (supply : Supply) (call : Call) : Verdict Grant :=
  (entry supply call).on vault

/-- **The end of a call**: the reply to the caller, and the library afterwards. -/
def settle : Verdict Grant → Reply × Vault
  | .ok grant => (⟨grant.status, grant.handle, grant.written⟩, grant.vault)
  | .error refusal => (⟨refusal.code.status, refusal.handle, refusal.written⟩, refusal.vault)

/-- **The answer to a call**: the reply, and the library afterwards. -/
def answer (supply : Supply) (call : Call) (vault : Vault) : Reply × Vault :=
  settle (vault.verdict supply call)

/-- The answers to a run of calls, each with what it may take from outside. -/
def run : List (Supply × Call) → Vault → List Reply × Vault
  | [], vault => ([], vault)
  | (supply, call) :: rest, vault =>
    let (reply, vault) := vault.answer supply call
    let (replies, vault) := run rest vault
    (reply :: replies, vault)

end Custody.Vault

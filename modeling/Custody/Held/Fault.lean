import Custody.Held.Basic

/-!
# Raised faults

Access to the faults of a library that can raise some. A guard stands for one raised fault and
clears it when it goes.
-/

namespace Custody.Held

variable {σ : Type} (services : Services σ)

/-- Fails where faults cannot be raised. -/
def requireFaults : Work σ Unit :=
  ask services (do
    if ← Act.ofState services.faults.faultsAvailable then return () else .fail Backend.noFaults)

/-- Raises or clears a fault. -/
def setFault (flag : FaultFlag) (on : Bool) : Work σ Unit := do
  requireFaults services
  ask services (services.faults.setFault flag on)

/-- Clears every fault. -/
def resetFaults : Work σ Unit := do
  requireFaults services
  Act.ofState (native services services.faults.resetFaults)

/-- A raised fault. -/
structure Guard where
  /-- The fault. -/
  flag : FaultFlag
  deriving DecidableEq

namespace Guard

/-- Raises a fault until the guard goes. -/
def raise (flag : FaultFlag) : Work σ Guard := do
  setFault services flag true
  return ⟨flag⟩

/-- Clears the fault of a guard. A failure to do so is passed over. -/
def clear (guard : Guard) : Work σ Unit := fun world =>
  match ask services (services.faults.setFault guard.flag false) world with
  | (.error (.failed _), world) => (.ok (), world)
  | other => other

end Guard

end Custody.Held

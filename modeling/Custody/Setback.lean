import Custody.Failure

/-!
# Setbacks

Things that a program keeps under names may be missing when they are asked for. A step on named
things has a setback where one of them is not there, or where the step itself ends early.
-/

namespace Custody

/-- What a step on named things does not find. -/
inductive Absent
  /-- There is nothing under the name. -/
  | object
  /-- The address is zero. -/
  | handle
  /-- The registry has been dropped. -/
  | registry
  deriving DecidableEq, Repr

/-- Why a step on named things has no result. -/
inductive Setback
  /-- Something is not there. -/
  | absent (what : Absent)
  /-- The step itself ended early. -/
  | aborted (abort : Abort)
  deriving DecidableEq, Repr

end Custody

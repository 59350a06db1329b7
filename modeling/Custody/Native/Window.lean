import Custody.Bytes
import Custody.Handle
import Custody.Status

/-!
# Windows into buffers

Native calls address bytes by a buffer, an offset and a length. The checks run in a fixed order,
and the first one that fails decides the code: the buffer is absent, the offset is negative, the
length is negative, the window leaves the buffer, the bytes cannot be accessed.

`InputWindow.read_eq_ok_iff` and `OutputWindow.room_eq_ok_iff` say when a window passes. Whether
bytes can be accessed is asked of the raised faults, of which a predicate on flags is all that
matters here.
-/

namespace Custody

/-- The number `2 ^ 31`, the first that a signed word of 32 bits does not hold. -/
def wordLimit : Nat := 0x80000000

/-- A window to read from. -/
structure InputWindow where
  /-- The buffer. -/
  data : Bytes
  /-- Where the window starts. -/
  offset : Int32
  /-- How many bytes it has. -/
  len : Int32
  deriving DecidableEq

/-- A window to write to. What the buffer holds plays no part in a call. -/
structure OutputWindow where
  /-- The size of the buffer. -/
  size : Nat
  /-- Where the window starts. -/
  offset : Int32
  /-- How many bytes it has. -/
  len : Int32
  deriving DecidableEq

/-- The codes for a window to read from; they depend on what the bytes are for. -/
structure InputRole where
  /-- There is no buffer. -/
  absent : ErrorCode
  /-- The window leaves the buffer. -/
  outOfRange : ErrorCode
  /-- The bytes cannot be read. -/
  inaccessible : ErrorCode
  /-- The fault that makes them so. -/
  fault : FaultFlag

namespace InputRole

/-- Bytes that are processed. -/
def data : InputRole := ⟨.inputIsNull, .inputOutOfRange, .failedAccessInput, .failedAccess1⟩

/-- A signature that is checked. -/
def signature : InputRole := ⟨.sigIsNull, .sigOutOfRange, .failedAccessSig, .failedAccess4⟩

end InputRole

namespace InputWindow

/-- The bytes that a window addresses. -/
def addressed (w : InputWindow) : Bytes :=
  w.data.window w.offset.toInt.toNat w.len.toInt.toNat

/-- **A window inside its buffer.** -/
def InRange (w : InputWindow) : Prop :=
  0 ≤ w.offset ∧ 0 ≤ w.len ∧ w.offset.toInt.toNat + w.len.toInt.toNat ≤ w.data.length

instance (w : InputWindow) : Decidable w.InRange :=
  inferInstanceAs (Decidable (_ ∧ _ ∧ _))

/-- The bytes of a window, or the code of the first check that fails. -/
def read (role : InputRole) (raised : FaultFlag → Bool) :
    Option InputWindow → Except ErrorCode Bytes
  | none => .error role.absent
  | some w =>
    if w.offset < 0 then .error .inputOffsetNegative
    else if w.len < 0 then .error .inputLenNegative
    else if w.data.length < w.offset.toInt.toNat + w.len.toInt.toNat then .error role.outOfRange
    else if raised role.fault then .error role.inaccessible
    else .ok w.addressed

end InputWindow

namespace OutputWindow

/-- Where a window starts, as a position. -/
def start (w : OutputWindow) : Nat := w.offset.toInt.toNat

/-- The number of bytes that a window addresses. -/
def width (w : OutputWindow) : Nat := w.len.toInt.toNat

/-- **A window inside its buffer.** -/
def InRange (w : OutputWindow) : Prop := 0 ≤ w.offset ∧ 0 ≤ w.len ∧ w.start + w.width ≤ w.size

instance (w : OutputWindow) : Decidable w.InRange :=
  inferInstanceAs (Decidable (_ ∧ _ ∧ _))

/-- The number of bytes that may be written to a window, or the code of the first check that
fails. -/
def room (raised : FaultFlag → Bool) (w : OutputWindow) : Except ErrorCode Nat :=
  if w.offset < 0 then .error .outputOffsetNegative
  else if w.len < 0 then .error .outputLenNegative
  else if w.size < w.start + w.width then .error .outputOutOfRange
  else if raised .failedAccess2 then .error .failedAccessOutput
  else .ok w.width

/-- Whether `needed` bytes are to be written: a call without an output only asks for their
number. -/
def admits (raised : FaultFlag → Bool) (needed : Nat) : Option OutputWindow → Except ErrorCode Bool
  | none => .ok false
  | some w => do
    let room ← w.room raised
    if room < needed then .error .outputTooSmall else .ok true

/-- The number of bytes to fill, where the caller chooses it and an output has to be there. -/
def span (raised : FaultFlag → Bool) : Option OutputWindow → Except ErrorCode Nat
  | none => .error .outputIsNull
  | some w => w.room raised

/-- A buffer after a call that stored bytes at the start of its window. -/
def store (w : OutputWindow) (buffer stored : Bytes) : Bytes := buffer.patch w.start stored

end OutputWindow

/-! ## When a window passes -/

theorem InputWindow.read_eq_ok_iff {role : InputRole} {raised : FaultFlag → Bool} {w : InputWindow}
    {data : Bytes} : InputWindow.read role raised (some w) = .ok data ↔
      w.InRange ∧ raised role.fault = false ∧ data = w.addressed := by
  unfold InputWindow.read InputWindow.InRange
  simp only [← Int32.not_lt]
  grind

theorem OutputWindow.room_eq_ok_iff {raised : FaultFlag → Bool} {w : OutputWindow} {room : Nat} :
    w.room raised = .ok room ↔ w.InRange ∧ raised .failedAccess2 = false ∧ room = w.width := by
  unfold OutputWindow.room OutputWindow.InRange
  simp only [← Int32.not_lt]
  grind

end Custody

import Custody.Curve.Field

/-!
# Key agreement: X25519

Two parties multiply the base point by their secrets, exchange the results, and multiply what
they got by their own secret again; both then hold the same 32 bytes. Only the first coordinate
of a point is computed, by a ladder that takes one step for each bit of the secret.
-/

namespace Custody.Curve.X25519

/-- A secret as a multiplier: a multiple of eight with its bit 254 set. -/
def clamp (secret : Key32) : Nat :=
  topBit + secret.toNat % topBit / 8 * 8

/-- The coordinate that 32 bytes stand for. The highest bit does not count. -/
def coordinate (bytes : Key32) : Nat := bytes.toNat % spareBit % prime

/-- Two multiples of a point that differ by that point, each as a fraction. -/
structure Rungs where
  /-- Numerator of the lower multiple. -/
  x2 : Nat
  /-- Denominator of the lower multiple. -/
  z2 : Nat
  /-- Numerator of the upper multiple. -/
  x3 : Nat
  /-- Denominator of the upper multiple. -/
  z3 : Nat

/-- The two multiples in the other order. -/
def Rungs.swap (r : Rungs) : Rungs := ⟨r.x3, r.z3, r.x2, r.z2⟩

/-- Doubles the first multiple and adds both. -/
def Rungs.climb (u : Nat) (r : Rungs) : Rungs :=
  let a := addMod r.x2 r.z2
  let b := subMod r.x2 r.z2
  let aa := mulMod a a
  let bb := mulMod b b
  let e := subMod aa bb
  let da := mulMod (subMod r.x3 r.z3) a
  let cb := mulMod (addMod r.x3 r.z3) b
  let sum := addMod da cb
  let difference := subMod da cb
  ⟨mulMod aa bb, mulMod e (addMod aa (mulMod 121665 e)), mulMod sum sum,
    mulMod u (mulMod difference difference)⟩

/-- One step of the ladder, for one bit of the multiplier. -/
def Rungs.step (u : Nat) (r : Rungs) (bit : Bool) : Rungs :=
  if bit then (r.swap.climb u).swap else r.climb u

/-- The coordinate of a multiple of the point with coordinate `u`; zero for the neutral point. -/
def multiple (multiplier u : Nat) : Nat :=
  let r := (bits 255 multiplier).foldl (Rungs.step u) ⟨1, 0, u, 1⟩
  mulMod r.x2 (inverse r.z2)

/-- What two parties share: the secret of one and the public key of the other, multiplied. -/
def agree (secret peer : Key32) : Key32 := Key32.ofNat (multiple (clamp secret) (coordinate peer))

/-- The public key of a secret: the multiple of the base point, whose coordinate is 9. -/
def publicKey (secret : Key32) : Key32 := Key32.ofNat (multiple (clamp secret) 9)

end Custody.Curve.X25519

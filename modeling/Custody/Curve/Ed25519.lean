import Custody.Curve.Field
import Custody.Hash.Sha512

/-!
# Signatures: Ed25519

Deterministic signatures over the twisted Edwards curve. A signature is a point and a number
below the order of the base point; checking it recomputes the point from the number and compares
its 32 bytes (`verify`). The public key is read leniently: its number is reduced, and zero has
both signs.
-/

namespace Custody.Curve.Ed25519

/-- The order of the base point. -/
def order : Nat := 0x1000000000000000000000000000000014def9dea2f79cd65812631a5cf5d3ed

/-- The constant of the curve equation `y^2 - x^2 = 1 + d x^2 y^2`. -/
def curveD : Nat :=
  37095705934669439343138083508754565189542113879843219016388785533085940283555

/-- A point `(x / z, y / z)`, with `t = x y / z`. -/
structure Point where
  /-- Numerator of the first coordinate. -/
  x : Nat
  /-- Numerator of the second coordinate. -/
  y : Nat
  /-- Common denominator. -/
  z : Nat
  /-- Product of the coordinates, over the same denominator. -/
  t : Nat

namespace Point

/-- The neutral point. -/
def neutral : Point := ⟨0, 1, 1, 0⟩

/-- The point with the given coordinates. -/
def ofCoordinates (x y : Nat) : Point := ⟨x, y, 1, mulMod x y⟩

/-- The base point. -/
def base : Point := ofCoordinates
  15112221349535400772501151409588531511454012693041857206046113283949847762202
  46316835694926478169428394003475163141307993866256225615783033603165251855960

/-- The sum of two points. The formula holds for all pairs. -/
def add (p q : Point) : Point :=
  let a := mulMod (subMod p.y p.x) (subMod q.y q.x)
  let b := mulMod (addMod p.y p.x) (addMod q.y q.x)
  let c := mulMod (mulMod (mulMod 2 curveD) p.t) q.t
  let d := mulMod (mulMod 2 p.z) q.z
  let e := subMod b a
  let f := subMod d c
  let g := addMod d c
  let h := addMod b a
  ⟨mulMod e f, mulMod g h, mulMod f g, mulMod e h⟩

/-- Twice a point. -/
def double (p : Point) : Point :=
  let a := mulMod p.x p.x
  let b := mulMod p.y p.y
  let c := mulMod 2 (mulMod p.z p.z)
  let h := addMod a b
  let s := addMod p.x p.y
  let e := subMod h (mulMod s s)
  let g := subMod a b
  let f := addMod c g
  ⟨mulMod e f, mulMod g h, mulMod f g, mulMod e h⟩

/-- The point with the opposite first coordinate. -/
def negate (p : Point) : Point := ⟨subMod 0 p.x, p.y, p.z, subMod 0 p.t⟩

/-- The multiple of a point by a number below `2 ^ 256`. -/
def multiple (n : Nat) (p : Point) : Point :=
  (bits 256 n).foldl (fun sum bit => if bit then sum.double.add p else sum.double) neutral

/-- The 32 bytes of a point: its second coordinate, and the parity of the first in the highest
bit. -/
def encode (p : Point) : Key32 :=
  let zInverse := inverse p.z
  Key32.ofNat (mulMod p.y zInverse + spareBit * (mulMod p.x zInverse % 2))

/-- The point that 32 bytes stand for, if the curve has one there. -/
def decode? (bytes : Key32) : Option Point :=
  let n := bytes.toNat
  let y := n % spareBit % prime
  let odd := n / spareBit % 2
  let yy := mulMod y y
  (sqrtRatio? (subMod yy 1) (addMod (mulMod curveD yy) 1)).map fun x =>
    ofCoordinates (if x % 2 = odd then x else subMod 0 x) y

end Point

/-- What a seed expands to: the secret multiplier, and the bytes that make nonces. -/
def expand (seed : Key32) : Nat × Bytes :=
  let digest := Hash.Sha512.hash seed.bytes
  let low := Bytes.toNatLE (digest.take 32) % topBit
  (topBit + low / 8 * 8, digest.drop 32)

/-- The public key of a seed. -/
def publicKey (seed : Key32) : Key32 := (Point.base.multiple (expand seed).1).encode

/-- A digest as a multiplier of the base point. -/
def reduce (digest : Bytes) : Nat := Bytes.toNatLE digest % order

/-- The signature of a message under a seed. -/
def sign (seed : Key32) (message : Bytes) : Bytes :=
  let (secret, nonces) := expand seed
  let nonce := reduce (Hash.Sha512.hash (nonces ++ message))
  let commitment := (Point.base.multiple nonce).encode
  let challenge := reduce
    (Hash.Sha512.hash (commitment.bytes ++ (publicKey seed).bytes ++ message))
  commitment.bytes ++ Bytes.ofNatLE 32 ((nonce + challenge * secret) % order)

/-- Whether a signature of a message is right for a public key. -/
def verify (key : Key32) (message signature : Bytes) : Bool :=
  let commitment := signature.take 32
  let s := Bytes.toNatLE (signature.drop 32)
  if signature.length = 64 ∧ s < order then
    match Point.decode? key with
    | none => false
    | some point =>
      let challenge := reduce (Hash.Sha512.hash (commitment ++ key.bytes ++ message))
      let expected := (Point.base.multiple s).add (point.negate.multiple challenge)
      expected.encode.bytes = commitment
  else false

@[simp] theorem length_sign (seed : Key32) (message : Bytes) : (sign seed message).length = 64 := by
  simp [sign, Key32.length_eq]

end Custody.Curve.Ed25519

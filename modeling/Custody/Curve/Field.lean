import Custody.Bytes

/-!
# Arithmetic modulo 2^255 - 19

The field that both curves are defined over. Elements are numbers below `prime`.
-/

namespace Custody.Curve

/-- The number `2 ^ 255`. Elements are written below it, and bytes that write one have a bit to
spare. -/
def spareBit : Nat := 0x8000000000000000000000000000000000000000000000000000000000000000

/-- The number `2 ^ 254`, the highest bit of a multiplier. -/
def topBit : Nat := 0x4000000000000000000000000000000000000000000000000000000000000000

/-- The prime `2 ^ 255 - 19`. -/
def prime : Nat := spareBit - 19

/-- The sum of two elements. -/
def addMod (a b : Nat) : Nat := (a + b) % prime

/-- The difference of two elements. -/
def subMod (a b : Nat) : Nat := (a + prime - b) % prime

/-- The product of two elements. -/
def mulMod (a b : Nat) : Nat := a * b % prime

/-- The bits of a number below `2 ^ count`, most significant first. -/
def bits : Nat → Nat → List Bool
  | 0, _ => []
  | count + 1, n => n.testBit count :: bits count n

/-- The power of an element by an exponent below `2 ^ 255`, by squaring. -/
def powMod (a exponent : Nat) : Nat :=
  (bits 255 exponent).foldl
    (fun power bit => if bit then mulMod (mulMod power power) a else mulMod power power) 1

/-- The inverse of an element; that of zero is zero. -/
def inverse (a : Nat) : Nat := powMod a (prime - 2)

/-- A square root of minus one. -/
def sqrtMinusOne : Nat :=
  19681161376707505956807079304988542015446066515923890162744021073123829784752

/-- A root of `u / v`, if there is one: the candidate `u v^3 (u v^7)^((p - 5) / 8)` or that
times the root of minus one. -/
def sqrtRatio? (u v : Nat) : Option Nat :=
  let v3 := mulMod (mulMod v v) v
  let v7 := mulMod (mulMod v3 v3) v
  let root := mulMod (mulMod u v3) (powMod (mulMod u v7) ((prime - 5) / 8))
  let square := mulMod v (mulMod root root)
  if square = u then some root
  else if square = subMod 0 u then some (mulMod root sqrtMinusOne)
  else none

end Custody.Curve

import Custody.Bytes

/-!
# UTF-8

Text as bytes and back. Decoding reads one unit after the other; a unit is a character, or the
longest run of bytes that begins one and cannot be continued. Read strictly, one such run spoils the
whole (`utf8Decode?`); read leniently, each becomes U+FFFD (`utf8DecodeLossy`).
-/

namespace Custody.Text

/-- The UTF-8 bytes of a text. -/
def utf8 (text : String) : Bytes := text.toUTF8.toList

/-- What a leading byte promises: how many bytes follow, the range the first of them must lie
in, and the leading bits of the code point. A byte below 0x80 is no leading byte. -/
def leadingByte? (b : UInt8) : Option (Nat × UInt8 × UInt8 × Nat) :=
  let bits := b.toNat
  if bits < 0xC2 then none
  else if bits < 0xE0 then some (1, 0x80, 0xBF, bits - 0xC0)
  else if bits == 0xE0 then some (2, 0xA0, 0xBF, 0)
  else if bits == 0xED then some (2, 0x80, 0x9F, 0xD)
  else if bits < 0xF0 then some (2, 0x80, 0xBF, bits - 0xE0)
  else if bits == 0xF0 then some (3, 0x90, 0xBF, 0)
  else if bits < 0xF4 then some (3, 0x80, 0xBF, bits - 0xF0)
  else if bits == 0xF4 then some (3, 0x80, 0x8F, 4)
  else none

/-- Reads the bytes that follow a leading byte: the character, if they are all there, and what is
left. -/
def continuation : Nat → UInt8 → UInt8 → Nat → Bytes → Option Char × Bytes
  | 0, _, _, point, rest => (some (Char.ofNat point), rest)
  | _ + 1, _, _, _, [] => (none, [])
  | count + 1, low, high, point, b :: rest =>
    if low ≤ b && b ≤ high then
      continuation count 0x80 0xBF (point * 64 + (b.toNat - 0x80)) rest
    else (none, b :: rest)

theorem length_continuation_le (count : Nat) (low high : UInt8) (point : Nat) (rest : Bytes) :
    (continuation count low high point rest).2.length ≤ rest.length := by
  fun_induction continuation count low high point rest with
  | case1 => exact Nat.le_refl _
  | case2 => exact Nat.le_refl _
  | case3 _ _ _ _ _ _ _ ih => exact Nat.le_trans ih (Nat.le_succ _)
  | case4 => exact Nat.le_refl _

/-- The unit that begins with byte `b`, and what is left after it. -/
def utf8Unit (b : UInt8) (rest : Bytes) : Option Char × Bytes :=
  if b < 0x80 then (some (Char.ofNat b.toNat), rest)
  else match leadingByte? b with
    | none => (none, rest)
    | some (count, low, high, point) => continuation count low high point rest

theorem length_utf8Unit_le (b : UInt8) (rest : Bytes) :
    (utf8Unit b rest).2.length ≤ rest.length := by
  unfold utf8Unit
  split
  · exact Nat.le_refl _
  · split
    · exact Nat.le_refl _
    · exact length_continuation_le ..

/-- The units of a byte string: a character, or `none` for a run that begins one in vain. -/
def utf8Units : Bytes → List (Option Char)
  | [] => []
  | b :: rest => (utf8Unit b rest).1 :: utf8Units (utf8Unit b rest).2
termination_by data => data.length
decreasing_by exact Nat.lt_succ_of_le (length_utf8Unit_le b rest)

/-- The text that a byte string is the UTF-8 form of, if there is one. -/
def utf8Decode? (data : Bytes) : Option String :=
  ((utf8Units data).mapM id).map String.ofList

/-- The text of a byte string, with U+FFFD for each run of bytes that is no character. -/
def utf8DecodeLossy (data : Bytes) : String :=
  String.ofList ((utf8Units data).map fun unit => unit.getD '\uFFFD')

end Custody.Text

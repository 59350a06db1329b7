import Custody.Text.Utf8

/-!
# Text survives UTF-8

The bytes of a text read back as that text (`Text.utf8DecodeLossy_utf8`). A character takes one to
four bytes. Its first byte promises the others with a range for the second one, and the bits of
the character are left when the marks of the bytes are taken off.

The decoder never fails, but puts a replacement where bytes are not those of a character, and so a
round trip does not follow from any property of the decoder alone. It is proved for one character
with whatever may follow it, by cases on the number of bytes that the character takes, and then for
a text by induction. Here it is also seen that a zero byte in the encoded text comes from a zero
character, which is what the check of a name relies on.
-/

namespace Custody.Text

/-! ## Characters -/

/-- A following byte in its range adds six bits. -/
theorem continuation_ofNat {count : Nat} {low high : UInt8} {point n : Nat} {rest : Bytes}
    (hlow : low.toNat ≤ n) (hhigh : n ≤ high.toNat) :
    continuation (count + 1) low high point (UInt8.ofNat n :: rest)
      = continuation count 0x80 0xBF (point * 64 + (n - 0x80)) rest := by
  have hn : (UInt8.ofNat n).toNat = n :=
    UInt8.toNat_ofNat_of_lt' (Nat.lt_of_le_of_lt hhigh high.toNat_lt)
  rw [continuation, if_pos, hn]
  simp [UInt8.le_iff_toNat_le, hn, hlow, hhigh]

/-- **What leads to a character** is continued by the bytes that it promises: one to three of them,
with a range for the first that rules out what could have been said more shortly or means no
character. -/
theorem utf8Unit_ofNat {n : Nat} (hlow : 0xC2 ≤ n) (hhigh : n < 0xF5) (rest : Bytes) :
    utf8Unit (UInt8.ofNat n) rest
      = if n < 0xE0 then continuation 1 0x80 0xBF (n - 0xC0) rest
        else if n < 0xF0 then continuation 2 (if n = 0xE0 then 0xA0 else 0x80)
          (if n = 0xED then 0x9F else 0xBF) (n - 0xE0) rest
        else continuation 3 (if n = 0xF0 then 0x90 else 0x80)
          (if n = 0xF4 then 0x8F else 0xBF) (n - 0xF0) rest := by
  have hn : (UInt8.ofNat n).toNat = n := UInt8.toNat_ofNat_of_lt (show _ < 0x100 by omega)
  have hascii : ¬ UInt8.ofNat n < 0x80 := by
    rw [UInt8.lt_iff_toNat_lt, hn]
    exact Nat.not_lt.mpr (Nat.le_trans (by decide) hlow)
  rw [utf8Unit, if_neg hascii]
  simp only [leadingByte?, hn]
  grind

/-- **The bytes of a character are one unit**, whatever follows them. -/
theorem utf8Unit_utf8EncodeChar (c : Char) (rest : Bytes) : ∃ b tail,
    String.utf8EncodeChar c = b :: tail ∧ utf8Unit b (tail ++ rest) = (some c, rest) := by
  have hvalid : c.val.toNat < 0xD800 ∨ 0xDFFF < c.val.toNat ∧ c.val.toNat < 0x110000 := c.valid
  have hc : Char.ofNat c.val.toNat = c := Char.ofNat_toNat c
  unfold String.utf8EncodeChar
  generalize c.val.toNat = v at hvalid hc ⊢
  dsimp only
  split
  · -- one byte
    rename_i hone
    refine ⟨_, _, rfl, ?_⟩
    have hv : (UInt8.ofNat v).toNat = v := UInt8.toNat_ofNat_of_lt (show _ < 0x100 by omega)
    rw [utf8Unit, if_pos, hv, hc, List.nil_append]
    rw [UInt8.lt_iff_toNat_lt, hv]
    exact Nat.lt_succ_of_le hone
  split
  · -- two bytes
    refine ⟨_, _, rfl, ?_⟩
    rw [utf8Unit_ofNat (by omega) (by omega), if_pos (by omega),
      List.cons_append, List.nil_append, continuation_ofNat (by simp) (by simp; omega),
      continuation, ← hc]
    exact congrArg (fun point => (some (Char.ofNat point), rest)) (by omega)
  split
  · -- three bytes
    refine ⟨_, _, rfl, ?_⟩
    rw [utf8Unit_ofNat (by omega) (by omega), if_neg (by omega), if_pos (by omega),
      List.cons_append, List.cons_append, List.nil_append,
      continuation_ofNat (by split <;> simp; omega) (by split <;> simp <;> omega),
      continuation_ofNat (by simp) (by simp; omega), continuation, ← hc]
    exact congrArg (fun point => (some (Char.ofNat point), rest)) (by omega)
  · -- four bytes
    refine ⟨_, _, rfl, ?_⟩
    rw [utf8Unit_ofNat (by omega) (by omega), if_neg (by omega), if_neg (by omega),
      List.cons_append, List.cons_append, List.cons_append, List.nil_append,
      continuation_ofNat (by split <;> simp; omega) (by split <;> simp <;> omega),
      continuation_ofNat (by simp) (by simp; omega),
      continuation_ofNat (by simp) (by simp; omega), continuation, ← hc]
    exact congrArg (fun point => (some (Char.ofNat point), rest)) (by omega)

/-! ## Texts -/

/-- The loop that lists the bytes of an array takes them from its position on. -/
theorem toList_loop (bytes : ByteArray) (i : Nat) (done : Bytes) :
    ByteArray.toList.loop bytes i done = done.reverse ++ bytes.data.toList.drop i := by
  fun_induction ByteArray.toList.loop bytes i done with
  | case1 i done hi ih =>
    have hi : i < bytes.data.toList.length := hi
    have hget : bytes.get! i = bytes.data.toList[i] := by
      show bytes.data[i]! = _
      rw [getElem!_pos bytes.data i hi, Array.getElem_toList]
    rw [ih, hget, List.reverse_cons, List.append_assoc, List.singleton_append,
      ← List.drop_eq_getElem_cons hi]
  | case2 i done hi =>
    rw [List.drop_eq_nil_of_le (Nat.not_lt.mp hi), List.append_nil]

/-- The bytes of a text are those of its characters. -/
theorem utf8_eq_flatMap (text : String) :
    utf8 text = text.toList.flatMap String.utf8EncodeChar := by
  rw [utf8, ByteArray.toList, toList_loop, List.reverse_nil, List.nil_append, List.drop_zero,
    String.toUTF8_eq_toByteArray, ← String.utf8Encode_toList, List.utf8Encode,
    List.toList_data_toByteArray]

/-- The units of the bytes of characters are those characters. -/
theorem utf8Units_flatMap (chars : List Char) :
    utf8Units (chars.flatMap String.utf8EncodeChar) = chars.map some := by
  induction chars with
  | nil => rw [List.flatMap_nil, utf8Units, List.map_nil]
  | cons c chars ih =>
    obtain ⟨b, tail, hbytes, hunit⟩ :=
      utf8Unit_utf8EncodeChar c (chars.flatMap String.utf8EncodeChar)
    rw [List.flatMap_cons, hbytes, List.cons_append, utf8Units, hunit, ih, List.map_cons]

/-- **The bytes of a text read back as that text.** -/
theorem utf8DecodeLossy_utf8 (text : String) : utf8DecodeLossy (utf8 text) = text := by
  rw [utf8DecodeLossy, utf8_eq_flatMap, utf8Units_flatMap, List.map_map]
  exact (congrArg String.ofList (List.map_id _)).trans String.ofList_toList

/-- **Some bytes read as some text.** Only no bytes at all read as none, as every run of bytes that
is no character is shown too. -/
theorem utf8DecodeLossy_eq_empty_iff {data : Bytes} : utf8DecodeLossy data = "" ↔ data = [] := by
  cases data with
  | nil =>
    rw [utf8DecodeLossy, utf8Units]
    exact iff_of_true rfl rfl
  | cons b rest =>
    rw [utf8DecodeLossy, utf8Units, List.map_cons, String.ofList_eq_empty_iff]
    exact iff_of_false (List.cons_ne_nil _ _) (List.cons_ne_nil _ _)

/-- A character takes at most four bytes. -/
theorem length_utf8_le (text : String) : (utf8 text).length ≤ 4 * text.length := by
  rw [utf8_eq_flatMap, ← String.length_toList]
  induction text.toList with
  | nil => exact Nat.le_refl _
  | cons c chars ih =>
    have hsize : c.utf8Size ≤ 4 := c.utf8Size_le_four
    rw [List.flatMap_cons, List.length_append, String.length_utf8EncodeChar, List.length_cons]
    omega

/-! ## Zero bytes -/

/-- Only the zero character has a zero byte. -/
theorem zero_notMem_utf8EncodeChar {c : Char} (h : c ≠ '\x00') : 0 ∉ String.utf8EncodeChar c := by
  have hv : c.val.toNat ≠ 0 := fun hzero => h (Char.ext (UInt32.toNat_inj.mp hzero))
  have hvalid : c.val.toNat < 0xD800 ∨ 0xDFFF < c.val.toNat ∧ c.val.toNat < 0x110000 := c.valid
  have hbyte : ∀ n, 0 < n % 0x100 → (0 : UInt8) ≠ UInt8.ofNat n := fun n hn hzero => by
    have hnat := congrArg UInt8.toNat hzero
    rw [UInt8.toNat_ofNat'] at hnat
    exact Nat.ne_of_lt hn hnat
  unfold String.utf8EncodeChar
  generalize c.val.toNat = v at hv hvalid ⊢
  dsimp only
  split
  · exact fun hzero => hbyte _ (by omega) (List.mem_singleton.mp hzero)
  split
  · simp only [List.mem_cons, List.not_mem_nil, or_false, not_or]
    exact ⟨hbyte _ (by omega), hbyte _ (by omega)⟩
  split
  · simp only [List.mem_cons, List.not_mem_nil, or_false, not_or]
    exact ⟨hbyte _ (by omega), hbyte _ (by omega), hbyte _ (by omega)⟩
  · simp only [List.mem_cons, List.not_mem_nil, or_false, not_or]
    exact ⟨hbyte _ (by omega), hbyte _ (by omega), hbyte _ (by omega), hbyte _ (by omega)⟩

/-- **A text without a zero character has no zero byte**. -/
theorem zero_notMem_utf8 {text : String} (h : '\x00' ∉ text.toList) : 0 ∉ utf8 text := by
  rw [utf8_eq_flatMap, List.mem_flatMap]
  rintro ⟨c, hc, hzero⟩
  exact zero_notMem_utf8EncodeChar (fun hnul => h (hnul ▸ hc)) hzero

end Custody.Text

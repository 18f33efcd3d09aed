import Mathlib.Data.List.Flatten

/-!
# Texts as bytes

The bytes of a text are those of its characters, one character after the other. A seven-bit
character is one byte, and that byte is found in no other character (`mem_utf8EncodeChar_iff`), so
such a byte can be looked for without reading characters. What the bytes of a text are read as is
the text (`fromUTF8?_bytes`), and its first character can be told from its first bytes
(`eq_of_bytes_append`).
-/

namespace MailMerge.Text

/-- The bytes of characters. -/
def bytes (cs : List Char) : List UInt8 := cs.flatMap String.utf8EncodeChar

@[simp] theorem bytes_nil : bytes [] = [] := rfl

@[simp] theorem bytes_cons (c : Char) (cs : List Char) :
    bytes (c :: cs) = String.utf8EncodeChar c ++ bytes cs := rfl

@[simp] theorem bytes_append (xs ys : List Char) : bytes (xs ++ ys) = bytes xs ++ bytes ys :=
  List.flatMap_append

/-! ### Byte arrays

The bytes of a text are kept in an array, and `toList` collects them from it one by one.
Here they are told as the list of bytes that the characters make. -/

/-- Collecting bytes from a place on. -/
theorem toList_loop_eq (b : ByteArray) (i : Nat) (front : List UInt8) :
    ByteArray.toList.loop b i front = front.reverse ++ b.data.toList.drop i := by
  fun_induction ByteArray.toList.loop b i front with
  | case1 i front h ih =>
      have hi : i < b.data.toList.length := by simpa using h
      have hget : b.get! i = b.data.toList[i] := by simp [ByteArray.get!, h]
      rw [ih, List.drop_eq_getElem_cons hi, hget, List.reverse_cons, List.append_assoc]
      rfl
  | case2 i front h =>
      have hi : b.data.toList.length ≤ i := by simpa using h
      rw [List.drop_eq_nil_of_le hi, List.append_nil]

theorem toList_toUTF8 (s : String) : s.toUTF8.toList = bytes s.toList := by
  have hdata : s.toUTF8.data.toList = bytes s.toList := by
    obtain ⟨cs, rfl⟩ : ∃ cs, s = String.ofList cs := ⟨s.toList, String.ofList_toList.symm⟩
    rw [String.toUTF8_eq_toByteArray, String.toByteArray_ofList, String.toList_ofList]
    exact List.toList_data_toByteArray
  rw [← hdata]
  exact toList_loop_eq s.toUTF8 0 []

/-- The bytes of a text are read as that text. -/
theorem fromUTF8?_bytes (cs : List Char) :
    String.fromUTF8? ⟨(bytes cs).toArray⟩ = some (String.ofList cs) := by
  have hencode : (⟨(bytes cs).toArray⟩ : ByteArray) = cs.utf8Encode := by
    apply ByteArray.ext
    exact List.data_toByteArray.symm
  have hvalid : (⟨(bytes cs).toArray⟩ : ByteArray).IsValidUTF8 := ⟨cs, hencode⟩
  have htext : String.fromUTF8 ⟨(bytes cs).toArray⟩ hvalid = String.ofList cs := by
    rw [← String.toByteArray_inj, String.toByteArray_ofList]
    exact hencode
  rw [String.fromUTF8?, dif_pos hvalid, htext]

theorem fromUTF8?_toUTF8 (s : String) : String.fromUTF8? s.toUTF8 = some s := by
  rw [String.toUTF8_eq_toByteArray, String.fromUTF8?, dif_pos s.isValidUTF8]
  rfl

/-! ### Single characters

A character takes one byte to four. Those below 128 take one, which is their number; all
bytes of the others are 128 or more, so no byte of one kind is found in a character of the
other. -/

/-- The byte of a seven-bit character. -/
def byteOf (c : Char) : UInt8 := UInt8.ofNat c.toNat

theorem utf8EncodeChar_of_lt {c : Char} (h : c.toNat < 128) :
    String.utf8EncodeChar c = [byteOf c] := by
  unfold String.utf8EncodeChar
  exact if_pos (Nat.le_of_lt_succ h)

/-- The bytes of other characters all have the eighth bit. -/
theorem le_of_mem_utf8EncodeChar {c : Char} {b : UInt8} (h : 128 ≤ c.toNat)
    (hb : b ∈ String.utf8EncodeChar c) : 128 ≤ b.toNat := by
  have hlt : c.val.toNat < 0x110000 := by
    rcases c.valid with h | h <;> omega
  have hge : ¬ c.val.toNat ≤ 127 := Nat.not_le.mpr h
  unfold String.utf8EncodeChar at hb
  dsimp only at hb
  rw [if_neg hge] at hb
  -- two bytes, three or four
  split at hb
  · simp only [List.mem_cons, List.not_mem_nil, or_false] at hb
    rcases hb with rfl | rfl <;> rw [UInt8.toNat_ofNat'] <;> omega
  · split at hb
    · simp only [List.mem_cons, List.not_mem_nil, or_false] at hb
      rcases hb with rfl | rfl | rfl <;> rw [UInt8.toNat_ofNat'] <;> omega
    · simp only [List.mem_cons, List.not_mem_nil, or_false] at hb
      rcases hb with rfl | rfl | rfl | rfl <;> rw [UInt8.toNat_ofNat'] <;> omega

theorem toNat_byteOf {c : Char} (h : c.toNat < 128) : (byteOf c).toNat = c.toNat := by
  rw [byteOf, UInt8.toNat_ofNat']
  omega

/-- The byte of a seven-bit character is found in that character only. -/
theorem mem_utf8EncodeChar_iff {c d : Char} (hd : d.toNat < 128) :
    byteOf d ∈ String.utf8EncodeChar c ↔ c = d := by
  constructor
  · intro h
    have hc : c.toNat < 128 := by
      apply Nat.lt_of_not_le
      intro hge
      have hbyte := le_of_mem_utf8EncodeChar hge h
      rw [toNat_byteOf hd] at hbyte
      exact Nat.not_le.mpr hd hbyte
    rw [utf8EncodeChar_of_lt hc, List.mem_singleton] at h
    apply Char.toNat_inj.mp
    rw [← toNat_byteOf hc, ← h, toNat_byteOf hd]
  · rintro rfl
    rw [utf8EncodeChar_of_lt hd]
    exact List.mem_singleton_self _

/-- Two texts whose bytes begin with the bytes of their first characters begin alike. -/
theorem eq_of_bytes_append {c d : Char} {xs ys : List UInt8}
    (h : String.utf8EncodeChar c ++ xs = String.utf8EncodeChar d ++ ys) : c = d := by
  have hread : ∀ (e : Char) (zs : List UInt8),
      -- the bytes of a character are read as that character, whatever follows
      (String.utf8EncodeChar e ++ zs).toByteArray.utf8DecodeChar? 0 = some e := by
    intro e zs
    rw [List.toByteArray_append, ← List.utf8Encode_singleton]
    exact List.utf8DecodeChar?_utf8Encode_singleton_append
  have hc := hread c xs
  rw [h, hread d ys] at hc
  exact (Option.some.inj hc).symm

end MailMerge.Text

import Gazetteer.Text.Utf8
import Mathlib.Data.List.Basic

/-!
# Characters and their bytes

The bytes of a text are read back as that text (`decodeLossy_flatMap`).
-/

namespace Gazetteer.Text

variable {bs : List UInt8} {n k lo hi code : Nat}

theorem readTail_cons (h : n < 256) (hlo : lo ≤ n) (hhi : n ≤ hi) :
    readTail (k + 1) lo hi code (UInt8.ofNat n :: bs) =
      readTail k 0x80 0xBF (code * 64 + n % 64) bs := by
  rw [readTail, UInt8.toNat_ofNat_of_lt' h, if_pos ⟨hlo, hhi⟩]

/-- The bytes of a character are read back as that character. -/
theorem decodeParts_utf8EncodeChar (c : Char) (bs : List UInt8) :
    decodeParts (String.utf8EncodeChar c ++ bs) = some c :: decodeParts bs := by
  have hvalid : c.val.toNat < 0xD800 ∨ (0xDFFF < c.val.toNat ∧ c.val.toNat < 0x110000) := c.valid
  have hc : Char.ofNat c.val.toNat = c := Char.ofNat_toNat c
  unfold String.utf8EncodeChar
  generalize c.val.toNat = v at *
  simp only
  -- one case for each number of bytes
  by_cases h1 : v ≤ 0x7f
  · rw [if_pos h1, List.cons_append, decodeParts, readChar,
      UInt8.toNat_ofNat_of_lt' (by show _ < 256; omega), leadByte, if_pos (by omega)]
    simp [readTail, hc]
  rw [if_neg h1]
  by_cases h2 : v ≤ 0x7ff
  · rw [if_pos h2, List.cons_append, decodeParts, readChar,
      UInt8.toNat_ofNat_of_lt' (by show _ < 256; omega), leadByte,
      if_neg (by omega), if_neg (by omega), if_pos (by omega)]
    simp only [List.cons_append, List.nil_append]
    rw [readTail_cons (by omega) (by omega) (by omega), readTail,
      show (v / 64 % 0x20 + 0xc0 - 0xC0) * 64 + (v % 0x40 + 0x80) % 64 = v by omega]
    simp [hc]
  rw [if_neg h2]
  by_cases h3 : v ≤ 0xffff
  · rw [if_pos h3, List.cons_append, decodeParts, readChar,
      UInt8.toNat_ofNat_of_lt' (by show _ < 256; omega), leadByte,
      if_neg (by omega), if_neg (by omega), if_neg (by omega), if_pos (by omega)]
    simp only [List.cons_append, List.nil_append]
    rw [readTail_cons (by omega) (by split <;> omega) (by split <;> omega),
      readTail_cons (by omega) (by omega) (by omega), readTail,
      show ((v / 4096 % 0x10 + 0xe0 - 0xE0) * 64 + (v / 64 % 0x40 + 0x80) % 64) * 64 +
        (v % 0x40 + 0x80) % 64 = v by omega]
    simp [hc]
  · rw [if_neg h3, List.cons_append, decodeParts, readChar,
      UInt8.toNat_ofNat_of_lt' (by show _ < 256; omega), leadByte,
      if_neg (by omega), if_neg (by omega), if_neg (by omega), if_neg (by omega), if_pos (by omega)]
    simp only [List.cons_append, List.nil_append]
    rw [readTail_cons (by omega) (by split <;> omega) (by split <;> omega),
      readTail_cons (by omega) (by omega) (by omega),
      readTail_cons (by omega) (by omega) (by omega), readTail,
      show (((v / 262144 % 0x08 + 0xf0 - 0xF0) * 64 + (v / 4096 % 0x40 + 0x80) % 64) * 64 +
        (v / 64 % 0x40 + 0x80) % 64) * 64 + (v % 0x40 + 0x80) % 64 = v by omega]
    simp [hc]

theorem decodeLossy_flatMap (cs : List Char) :
    decodeLossy (cs.flatMap String.utf8EncodeChar) = cs := by
  unfold decodeLossy
  induction cs with
  | nil => simp [decodeParts]
  | cons c cs ih =>
    rw [List.flatMap_cons, decodeParts_utf8EncodeChar, List.map_cons, ih]
    rfl

/-- The list of bytes, of which some are already in front. -/
theorem toList_loop (bs : ByteArray) (i : Nat) (front : List UInt8) :
    ByteArray.toList.loop bs i front = front.reverse ++ bs.data.toList.drop i := by
  have hsize : bs.data.toList.length = bs.size := by simp
  induction hleft : bs.size - i generalizing i front with
  | zero =>
    rw [ByteArray.toList.loop, if_neg (by omega), List.drop_eq_nil_of_le (by omega),
      List.append_nil]
  | succ left ih =>
    have hi : i < bs.size := by omega
    rw [ByteArray.toList.loop, if_pos hi, ih _ _ (by omega),
      List.drop_eq_getElem_cons (i := i) (by omega), List.reverse_cons, List.append_assoc]
    simp [ByteArray.get!, hi]

theorem toList_toUTF8_singleton (c : Char) :
    (String.ofList [c]).toUTF8.toList = String.utf8EncodeChar c := by
  rw [String.toUTF8_eq_toByteArray, String.toByteArray_ofList, List.utf8Encode_singleton,
    ByteArray.toList, toList_loop, List.toList_data_toByteArray]
  rfl

end Gazetteer.Text

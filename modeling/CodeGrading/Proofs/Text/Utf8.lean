import CodeGrading.Text.Utf8
import Mathlib.Data.List.Basic

/-!
The reader of octets takes back every text that is written in UTF-8 (`decode_octets`), but for a
byte order mark at its beginning, which it drops. Each written character is read to its end before
the next one begins, whatever comes after it.
-/

namespace CodeGrading.Text.Utf8

/-- The octets that a text is written in. -/
def octets (s : String) : List UInt8 :=
  s.toUTF8.data.toList

theorem octets_eq_flatMap (s : String) : octets s = s.toList.flatMap String.utf8EncodeChar := by
  have written : s.toUTF8 = (s.toList.flatMap String.utf8EncodeChar).toByteArray := by
    rw [String.toUTF8, ← List.utf8Encode, ← String.toByteArray_ofList, String.ofList_toList]
  rw [octets, written, List.toList_data_toByteArray]

section Octet

variable {b : UInt8} {n code owed low high : Nat}

theorem chars_whole (value : b.toNat = n) (ascii : n ≤ 0x7F) (bs : List UInt8) :
    chars none (b :: bs) = Char.ofNat n :: chars none bs := by
  simp [chars, beginning, value, ascii]

theorem chars_more {p : Partial} (first : beginning b.toNat = .more p) (bs : List UInt8) :
    chars none (b :: bs) = chars (some p) bs := by
  simp [chars, first]

/-- An octet that goes on with a character brings six bits more. -/
theorem chars_next (value : b.toNat = n + 0x80) (least : low ≤ n + 0x80) (most : n + 0x80 ≤ high)
    (bs : List UInt8) :
    chars (some ⟨code, owed + 2, low, high⟩) (b :: bs) =
      chars (some ⟨code * 0x40 + n, owed + 1, 0x80, 0xBF⟩) bs := by
  simp [chars, value, least, most]

theorem chars_last (value : b.toNat = n + 0x80) (least : low ≤ n + 0x80) (most : n + 0x80 ≤ high)
    (bs : List UInt8) :
    chars (some ⟨code, 1, low, high⟩) (b :: bs) =
      Char.ofNat (code * 0x40 + n) :: chars none bs := by
  simp [chars, value, least, most]

theorem toNat_tail (n : Nat) : (UInt8.ofNat (n % 64 + 128)).toNat = n % 64 + 0x80 := by
  rw [UInt8.toNat_ofNat_of_lt' (by simp only [UInt8.size]; omega)]

end Octet

/-! ## One character of each length -/

section Length

variable {v : Nat}

theorem chars_two (above : 0x7F < v) (most : v ≤ 0x7FF) (bs : List UInt8) :
    chars none (UInt8.ofNat (v / 64 % 32 + 192) :: UInt8.ofNat (v % 64 + 128) :: bs) =
      Char.ofNat v :: chars none bs := by
  have first : (UInt8.ofNat (v / 64 % 32 + 192)).toNat = v / 64 + 0xC0 := by simp; omega
  have begun : beginning (v / 64 + 0xC0) = .more ⟨v / 64, 1, 0x80, 0xBF⟩ := by
    rw [beginning, if_neg (by omega), if_pos (by omega), Nat.add_sub_cancel]
  rw [chars_more (first ▸ begun), chars_last (toNat_tail v) (by omega) (by omega)]
  rw [show v / 64 * 0x40 + v % 64 = v by omega]

theorem chars_three (above : 0x7FF < v) (most : v ≤ 0xFFFF) (scalar : v < 0xD800 ∨ 0xDFFF < v)
    (bs : List UInt8) :
    chars none (UInt8.ofNat (v / 4096 % 16 + 224) :: UInt8.ofNat (v / 64 % 64 + 128) ::
        UInt8.ofNat (v % 64 + 128) :: bs) =
      Char.ofNat v :: chars none bs := by
  have first : (UInt8.ofNat (v / 4096 % 16 + 224)).toNat = v / 4096 + 0xE0 := by simp; omega
  have begun : beginning (v / 4096 + 0xE0) =
      .more ⟨v / 4096, 2, if v / 4096 + 0xE0 = 0xE0 then 0xA0 else 0x80,
        if v / 4096 + 0xE0 = 0xED then 0x9F else 0xBF⟩ := by
    rw [beginning, if_neg (by omega), if_neg (by omega), if_pos (by omega), Nat.add_sub_cancel]
  -- the second octet is in the narrower range: `v` is not shorter and is no surrogate
  rw [chars_more (first ▸ begun),
    chars_next (toNat_tail (v / 64)) (by split_ifs <;> omega) (by split_ifs <;> omega),
    chars_last (toNat_tail v) (by omega) (by omega)]
  rw [show (v / 4096 * 0x40 + v / 64 % 64) * 0x40 + v % 64 = v by omega]

theorem chars_four (above : 0xFFFF < v) (most : v < 0x110000) (bs : List UInt8) :
    chars none (UInt8.ofNat (v / 262144 % 8 + 240) :: UInt8.ofNat (v / 4096 % 64 + 128) ::
        UInt8.ofNat (v / 64 % 64 + 128) :: UInt8.ofNat (v % 64 + 128) :: bs) =
      Char.ofNat v :: chars none bs := by
  have first : (UInt8.ofNat (v / 262144 % 8 + 240)).toNat = v / 262144 + 0xF0 := by simp; omega
  have begun : beginning (v / 262144 + 0xF0) =
      .more ⟨v / 262144, 3, if v / 262144 + 0xF0 = 0xF0 then 0x90 else 0x80,
        if v / 262144 + 0xF0 = 0xF4 then 0x8F else 0xBF⟩ := by
    rw [beginning, if_neg (by omega), if_neg (by omega), if_neg (by omega), if_pos (by omega),
      Nat.add_sub_cancel]
  rw [chars_more (first ▸ begun),
    chars_next (toNat_tail (v / 4096)) (by split_ifs <;> omega) (by split_ifs <;> omega),
    chars_next (toNat_tail (v / 64)) (by omega) (by omega),
    chars_last (toNat_tail v) (by omega) (by omega)]
  rw [show ((v / 262144 * 0x40 + v / 4096 % 64) * 0x40 + v / 64 % 64) * 0x40 + v % 64 = v by omega]

end Length

theorem chars_utf8EncodeChar (c : Char) (bs : List UInt8) :
    chars none (String.utf8EncodeChar c ++ bs) = c :: chars none bs := by
  obtain ⟨v, code⟩ : ∃ v, c.val.toNat = v := ⟨_, rfl⟩
  have read : Char.ofNat v = c := code ▸ c.ofNat_toNat
  have scalar : v < 0xD800 ∨ 0xDFFF < v ∧ v < 0x110000 := code ▸ c.valid
  simp only [String.utf8EncodeChar, code]
  split_ifs with one two three <;> simp only [List.cons_append, List.nil_append]
  · have value : (UInt8.ofNat v).toNat = v := by simp; omega
    rw [chars_whole value one, read]
  · rw [chars_two (by omega) two, read]
  · rw [chars_three (by omega) three (by omega), read]
  · rw [chars_four (by omega) (by omega), read]

/-! ## A whole text -/

theorem chars_flatMap (cs : List Char) : chars none (cs.flatMap String.utf8EncodeChar) = cs := by
  induction cs with
  | nil => rfl
  | cons c cs ih => rw [List.flatMap_cons, chars_utf8EncodeChar, ih]

theorem decode_octets {s : String} (unmarked : s.toList.head? ≠ some '\ufeff') :
    decode (octets s) = s := by
  rw [decode, octets_eq_flatMap, chars_flatMap]
  split
  next cs marked => simp [marked] at unmarked
  next => exact String.ofList_toList

end CodeGrading.Text.Utf8

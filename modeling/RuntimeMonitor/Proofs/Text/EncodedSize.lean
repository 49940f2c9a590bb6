import Mathlib
import RuntimeMonitor.Proofs.Text.ByteOrder
import RuntimeMonitor.Proofs.Text.ModifiedUtf8

/-!
# The bytes of modified UTF-8

Characters are encoded one by one, NUL in two bytes and a supplementary character in two units of
three bytes each. All others have the bytes of their UTF-8 encoding, so that the two encodings part
only at NUL and at supplementary characters. The bytes that UTF-8 has for these, zero and those
from 0xF0 on, are therefore never written.
-/

namespace RuntimeMonitor.Text.ModifiedUtf8

/-- The number of bytes that a character takes. -/
def charSize (c : Char) : Nat :=
  if c.toNat = 0 then 2
  else if c.toNat < 0x80 then 1
  else if c.toNat < 0x800 then 2
  else if c.toNat < 0x10000 then 3
  else 6

/-- Whether a character has the same bytes in UTF-8. -/
def IsShared (c : Char) : Prop := c ≠ '\x00' ∧ c.toNat < 0x10000

instance (c : Char) : Decidable (IsShared c) := inferInstanceAs (Decidable (_ ∧ _))

theorem encodeChar_of_lt {c : Char} (basic : c.toNat < 0x10000) :
    encodeChar c = encodeUnit c.toNat := by
  rw [encodeChar, units, if_pos basic, List.flatMap_singleton]

theorem length_encodeUnit (u : Nat) :
    (encodeUnit u).length = if 1 ≤ u ∧ u < 0x80 then 1 else if u < 0x800 then 2 else 3 := by
  unfold encodeUnit
  split
  · rfl
  · split <;> rfl

theorem length_encodeChar (c : Char) : (encodeChar c).length = charSize c := by
  by_cases basic : c.toNat < 0x10000
  · rw [encodeChar_of_lt basic, length_encodeUnit, charSize]
    split_ifs <;> omega
  · -- Both surrogates are beyond the units of two bytes.
    rw [encodeChar, units, if_neg basic, List.flatMap_cons, List.flatMap_singleton,
      List.length_append, length_encodeUnit, length_encodeUnit, charSize]
    split_ifs <;> omega

theorem length_encode (s : String) : (encode s).length = (s.toList.map charSize).sum := by
  rw [encode, List.length_flatMap]
  simp only [length_encodeChar]

theorem bounds_of_mem_encodeUnit {u : Nat} (bound : u < 0x10000) {b : UInt8}
    (mem : b ∈ encodeUnit u) : b ≠ 0 ∧ b < 0xF0 := by
  have bounds {n : Nat} (pos : 0 < n) (lt : n < 0xF0) :
      UInt8.ofNat n ≠ 0 ∧ UInt8.ofNat n < 0xF0 := by
    have value : (UInt8.ofNat n).toNat = n := toNat_ofNat_of_lt (by omega)
    rw [Ne, ← UInt8.toNat_inj, UInt8.lt_iff_toNat_lt, value]
    exact ⟨pos.ne', lt⟩
  unfold encodeUnit at mem
  split at mem
  · simp only [List.mem_singleton] at mem
    exact mem ▸ bounds (by omega) (by omega)
  · split at mem
    · simp only [List.mem_cons, List.not_mem_nil, or_false] at mem
      rcases mem with rfl | rfl
      · exact bounds (by omega) (by omega)
      · exact bounds (by omega) (by omega)
    · simp only [List.mem_cons, List.not_mem_nil, or_false] at mem
      rcases mem with rfl | rfl | rfl
      · exact bounds (by omega) (by omega)
      · exact bounds (by omega) (by omega)
      · exact bounds (by omega) (by omega)

theorem bounds_of_mem_encode {s : String} {b : UInt8} (mem : b ∈ encode s) : b ≠ 0 ∧ b < 0xF0 := by
  rw [encode_eq] at mem
  obtain ⟨u, unit, byte⟩ := List.mem_flatMap.mp mem
  obtain ⟨c, -, ofChar⟩ := List.mem_flatMap.mp unit
  exact bounds_of_mem_encodeUnit (units_lt ofChar) byte

theorem encodeChar_of_isShared {c : Char} (shared : IsShared c) :
    encodeChar c = String.utf8EncodeChar c := by
  obtain ⟨ne, basic⟩ := shared
  have pos : c.toNat ≠ 0 := fun zero => ne (Char.toNat_inj.mp zero)
  have value : c.val.toNat = c.toNat := rfl
  rw [encodeChar_of_lt basic, encodeUnit, String.utf8EncodeChar, value]
  generalize c.toNat = n at *
  by_cases one : n < 0x80
  · rw [if_pos ⟨by omega, one⟩, if_pos (by omega)]
  · rw [if_neg (by omega), if_neg (show ¬ n ≤ 127 by omega)]
    -- What is left of the number fits in its byte, so it does not matter whether it is masked.
    by_cases two : n < 0x800
    · have first : 0xC0 + n / 0x40 = n / 64 % 32 + 192 := by omega
      have second : 0x80 + n % 0x40 = n % 64 + 128 := by omega
      rw [if_pos two, if_pos (by omega), first, second]
    · have first : 0xE0 + n / 0x1000 = n / 4096 % 16 + 224 := by omega
      have second : 0x80 + n / 0x40 % 0x40 = n / 64 % 64 + 128 := by omega
      have third : 0x80 + n % 0x40 = n % 64 + 128 := by omega
      rw [if_neg two, if_neg (by omega), if_pos (by omega), first, second, third]

theorem length_utf8 (s : String) : (utf8 s).length = (s.toList.map Char.utf8Size).sum := by
  rw [utf8_eq, List.length_flatMap]
  simp only [String.length_utf8EncodeChar]

/-- A character that is not shared takes more bytes than in UTF-8. -/
theorem utf8Size_lt_charSize {c : Char} (other : ¬ IsShared c) : c.utf8Size < charSize c := by
  rw [IsShared, not_and_or, not_not] at other
  rcases other with rfl | great
  · decide
  · have most : c.utf8Size ≤ 4 := c.utf8Size_le_four
    have size : charSize c = 6 := by
      unfold charSize
      split_ifs <;> omega
    omega

theorem utf8Size_le_charSize (c : Char) : c.utf8Size ≤ charSize c := by
  by_cases shared : IsShared c
  · rw [← String.length_utf8EncodeChar, ← encodeChar_of_isShared shared, length_encodeChar]
  · exact (utf8Size_lt_charSize shared).le

theorem encode_eq_utf8_iff {s : String} : encode s = utf8 s ↔ ∀ c ∈ s.toList, IsShared c := by
  constructor
  · intro same
    by_contra! other
    have longer : (s.toList.map Char.utf8Size).sum < (s.toList.map charSize).sum := by
      refine List.sum_lt_sum _ _ (fun c _ => utf8Size_le_charSize c) ?_
      obtain ⟨c, mem, alone⟩ := other
      exact ⟨c, mem, utf8Size_lt_charSize alone⟩
    rw [← length_utf8, ← length_encode, same] at longer
    exact lt_irrefl _ longer
  · intro shared
    rw [encode, utf8_eq]
    exact List.flatMap_congr fun c mem => encodeChar_of_isShared (shared c mem)

/-- Texts are encoded character by character, in as many bytes as the characters say, of which none
is zero or from 0xF0 on. The bytes are those of UTF-8 exactly if all characters are shared, and
the text is read back from them. -/
theorem encode_faithful :
    (∀ s t, encode (s ++ t) = encode s ++ encode t) ∧
    (∀ s, ∀ b ∈ encode s, b ≠ 0 ∧ b < 0xF0) ∧
    (∀ s, (encode s).length = (s.toList.map charSize).sum) ∧
    (∀ s, encode s = utf8 s ↔ ∀ c ∈ s.toList, c ≠ '\x00' ∧ c.toNat < 0x10000) ∧
    (∀ s, decode? (encode s) = some s) ∧
    Function.Injective encode := by
  refine ⟨encode_append, ?_, length_encode, ?_, decode?_encode, ?_⟩
  · exact fun s b => bounds_of_mem_encode
  · exact fun s => encode_eq_utf8_iff
  · exact fun s t => encode_injective

/-- A text with characters of every size, two of which are not shared. -/
theorem encode_faithful_every_size :
    let s := "a\x00é日😀"
    let bytes : List UInt8 := [0x61, 0xc0, 0x80, 0xc3, 0xa9, 0xe6, 0x97, 0xa5, 0xed, 0xa0, 0xbd, 0xed,
      0xb8, 0x80]
    encode s = bytes ∧ (0xed ∈ encode s ∧ (0xed : UInt8) ≠ 0 ∧ (0xed : UInt8) < 0xf0) ∧
      bytes.length = 1 + 2 + 2 + 3 + 6 ∧ bytes ≠ utf8 s ∧ decode? bytes = some s := by
  intro s bytes
  have encoded : encode s = bytes := by decide
  have mem : 0xed ∈ encode s := by
    rw [encoded]
    decide
  obtain ⟨-, bounds, size, shared, decoded, -⟩ := encode_faithful
  refine ⟨encoded, ⟨mem, bounds s 0xed mem⟩, ?_, ?_, encoded ▸ decoded s⟩
  · rw [← encoded, size]
    decide
  · intro same
    have nul : '\x00' ∈ s.toList := by decide
    exact ((shared s).mp (encoded.trans same) '\x00' nul).1 rfl

end RuntimeMonitor.Text.ModifiedUtf8

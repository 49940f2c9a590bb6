import Mathlib.Data.String.Basic
import Mathlib.Tactic.SplitIfs

/-!
# The order of bytes

Texts can be compared by the bytes of their UTF-8 encoding or by their code points. Both give the
same order, since of two characters the smaller one has the smaller byte where their encodings
first differ.
-/

namespace RuntimeMonitor.Text

def utf8 (s : String) : List UInt8 := s.toByteArray.data.toList

theorem utf8_eq (s : String) : utf8 s = s.toList.flatMap String.utf8EncodeChar := by
  rw [utf8, ← String.utf8Encode_toList, List.utf8Encode]
  simp

/-- Whatever follows them, the encodings of two characters are ordered like the characters. -/
theorem utf8EncodeChar_append_lt {c d : Char} (h : c < d) (x y : List UInt8) :
    String.utf8EncodeChar c ++ x < String.utf8EncodeChar d ++ y := by
  have less : c.val.toNat < d.val.toNat := h
  have bound : d.val.toNat < 0x110000 := by
    have valid := d.valid
    simp only [UInt32.isValidChar, Nat.isValidChar] at valid
    omega
  have sixteenth (n : Nat) : n / 4096 = n / 64 / 64 := by omega
  have top (n : Nat) : n / 262144 = n / 64 / 64 / 64 := by omega
  simp only [String.utf8EncodeChar, sixteenth, top]
  generalize c.val.toNat = m at *
  generalize d.val.toNat = n at *
  -- One case for every two lengths; the first bytes that differ decide.
  split_ifs
  all_goals
    simp only [List.cons_append, List.nil_append, List.cons_lt_cons_iff, UInt8.lt_iff_toNat_lt,
      ← UInt8.toNat_inj, UInt8.toNat_ofNat', Nat.reducePow]
    omega

theorem flatMap_utf8EncodeChar_lt {s t : List Char} (h : s < t) :
    s.flatMap String.utf8EncodeChar < t.flatMap String.utf8EncodeChar := by
  induction h with
  | @nil c rest =>
    obtain ⟨b, bs, first⟩ := List.exists_cons_of_ne_nil (@String.utf8EncodeChar_ne_nil c)
    simp [first]
  | rel less =>
    simp only [List.flatMap_cons]
    exact utf8EncodeChar_append_lt less _ _
  | cons _ ih =>
    simp only [List.flatMap_cons]
    exact List.append_left_lt ih

theorem utf8_lt {s t : String} (h : s < t) : utf8 s < utf8 t := by
  rw [utf8_eq, utf8_eq]
  exact flatMap_utf8EncodeChar_lt (String.lt_iff_toList_lt.mp h)

/-- The order of texts by their bytes. -/
def ByteLE (s t : String) : Prop := utf8 s ≤ utf8 t

instance (s t : String) : Decidable (ByteLE s t) := inferInstanceAs (Decidable (_ ≤ _))

theorem byteLE_iff {s t : String} : ByteLE s t ↔ s ≤ t := by
  constructor
  · intro h
    by_contra less
    exact List.not_lt.mpr h (utf8_lt (not_le.mp less))
  · intro h
    rcases eq_or_lt_of_le h with rfl | less
    · exact List.le_refl _
    · exact List.le_of_lt (utf8_lt less)

instance : IsTrans String ByteLE :=
  ⟨fun _ _ _ h g => byteLE_iff.mpr ((byteLE_iff.mp h).trans (byteLE_iff.mp g))⟩

instance : Std.Antisymm ByteLE := ⟨fun _ _ h g => (byteLE_iff.mp h).antisymm (byteLE_iff.mp g)⟩

instance : Std.Total ByteLE :=
  ⟨fun s t => (le_total s t).imp byteLE_iff.mpr byteLE_iff.mpr⟩

end RuntimeMonitor.Text

import RuntimeMonitor.Text.ModifiedUtf8

/-!
# Modified UTF-8 loses nothing

The first byte of a unit says how many bytes the unit takes, and a high surrogate says that a low
one follows. So units are read off the front of their bytes and characters off the front of their
units, whatever follows, and every text is read back from its encoding.
-/

namespace RuntimeMonitor.Text.ModifiedUtf8

theorem toNat_ofNat_of_lt {n : Nat} (h : n < 256) : (UInt8.ofNat n).toNat = n := by
  rw [UInt8.toNat_ofNat']
  exact Nat.mod_eq_of_lt h

theorem decodeUnits_one {a : UInt8} (small : a.toNat < 0x80) (rest : List UInt8) :
    decodeUnits (a :: rest) = (decodeUnits rest).map (a.toNat :: ·) := by
  rw [decodeUnits.eq_def]
  exact if_pos small

theorem decodeUnits_two {a : UInt8} (great : 0x80 ≤ a.toNat) (small : a.toNat < 0xE0)
    (b : UInt8) (rest : List UInt8) :
    decodeUnits (a :: b :: rest) =
      (decodeUnits rest).map (((a.toNat - 0xC0) * 0x40 + (b.toNat - 0x80)) :: ·) := by
  rw [decodeUnits.eq_def]
  simp only
  rw [if_neg (by omega), if_pos small]

theorem decodeUnits_three {a : UInt8} (great : 0xE0 ≤ a.toNat) (b c : UInt8)
    (rest : List UInt8) :
    decodeUnits (a :: b :: c :: rest) =
      (decodeUnits rest).map (((a.toNat - 0xE0) * 0x1000 +
        ((b.toNat - 0x80) * 0x40 + (c.toNat - 0x80))) :: ·) := by
  rw [decodeUnits.eq_def]
  simp only
  rw [if_neg (by omega), if_neg (by omega)]

theorem decodeUnits_encodeUnit_append {u : Nat} (bound : u < 0x10000) (rest : List UInt8) :
    decodeUnits (encodeUnit u ++ rest) = (decodeUnits rest).map (u :: ·) := by
  unfold encodeUnit
  split
  · have first : (UInt8.ofNat u).toNat = u := toNat_ofNat_of_lt (by omega)
    rw [List.singleton_append, decodeUnits_one (by omega), first]
  · split
    · have first : (UInt8.ofNat (0xC0 + u / 0x40)).toNat = 0xC0 + u / 0x40 :=
        toNat_ofNat_of_lt (by omega)
      have second : (UInt8.ofNat (0x80 + u % 0x40)).toNat = 0x80 + u % 0x40 :=
        toNat_ofNat_of_lt (by omega)
      have value : (0xC0 + u / 0x40 - 0xC0) * 0x40 + (0x80 + u % 0x40 - 0x80) = u := by omega
      simp only [List.cons_append, List.nil_append]
      rw [decodeUnits_two (by omega) (by omega), first, second, value]
    · have first : (UInt8.ofNat (0xE0 + u / 0x1000)).toNat = 0xE0 + u / 0x1000 :=
        toNat_ofNat_of_lt (by omega)
      have second : (UInt8.ofNat (0x80 + u / 0x40 % 0x40)).toNat = 0x80 + u / 0x40 % 0x40 :=
        toNat_ofNat_of_lt (by omega)
      have third : (UInt8.ofNat (0x80 + u % 0x40)).toNat = 0x80 + u % 0x40 :=
        toNat_ofNat_of_lt (by omega)
      have value : (0xE0 + u / 0x1000 - 0xE0) * 0x1000 +
          ((0x80 + u / 0x40 % 0x40 - 0x80) * 0x40 + (0x80 + u % 0x40 - 0x80)) = u := by omega
      simp only [List.cons_append, List.nil_append]
      rw [decodeUnits_three (by omega), first, second, third, value]

theorem toNat_lt (c : Char) : c.toNat < 0xD800 ∨ 0xE000 ≤ c.toNat ∧ c.toNat < 0x110000 := by
  have valid := c.valid
  simp only [UInt32.isValidChar, Nat.isValidChar] at valid
  simp only [Char.toNat]
  omega

theorem units_lt {c : Char} {u : Nat} (h : u ∈ units c) : u < 0x10000 := by
  have := toNat_lt c
  unfold units at h
  split at h <;> simp at h <;> omega

theorem joinUnits_units_append (c : Char) (rest : List Nat) :
    joinUnits (units c ++ rest) = (joinUnits rest).map (c :: ·) := by
  have range := toNat_lt c
  unfold units
  split
  · rw [List.singleton_append, joinUnits.eq_def]
    simp only
    rw [if_neg (by omega), Char.ofNat_toNat]
  · have value : 0x10000 + (0xD800 + (c.toNat - 0x10000) / 0x400 - 0xD800) * 0x400 +
        (0xDC00 + (c.toNat - 0x10000) % 0x400 - 0xDC00) = c.toNat := by omega
    simp only [List.cons_append, List.nil_append]
    rw [joinUnits, if_pos (by omega)]
    simp only [value, Char.ofNat_toNat]

theorem decodeUnits_flatMap {us : List Nat} (bound : ∀ u ∈ us, u < 0x10000) :
    decodeUnits (us.flatMap encodeUnit) = some us := by
  induction us with
  | nil => rfl
  | cons u us ih =>
    rw [List.flatMap_cons, decodeUnits_encodeUnit_append (bound u (by simp)),
      ih fun v hv => bound v (by simp [hv])]
    rfl

theorem joinUnits_flatMap (cs : List Char) : joinUnits (cs.flatMap units) = some cs := by
  induction cs with
  | nil => rfl
  | cons c cs ih => rw [List.flatMap_cons, joinUnits_units_append, ih]; rfl

theorem encode_eq (s : String) : encode s = (s.toList.flatMap units).flatMap encodeUnit :=
  List.flatMap_assoc.symm

theorem decode?_encode (s : String) : decode? (encode s) = some s := by
  have bound : ∀ u ∈ s.toList.flatMap units, u < 0x10000 := by
    intro u hu
    obtain ⟨c, -, hc⟩ := List.mem_flatMap.mp hu
    exact units_lt hc
  rw [decode?, encode_eq, decodeUnits_flatMap bound, Option.bind_some, joinUnits_flatMap]
  simp

theorem encode_injective {s t : String} (h : encode s = encode t) : s = t := by
  rw [← Option.some_inj, ← decode?_encode s, ← decode?_encode t, h]

end RuntimeMonitor.Text.ModifiedUtf8

import Mathlib
import RuntimeMonitor.Proofs.Identity.FloatText
import RuntimeMonitor.Proofs.Number.FewestDigits
import RuntimeMonitor.Proofs.Number.Reading
import RuntimeMonitor.Proofs.Number.SignedNumeral

/-!
# Floating point values keep their value as text

The text of a finite value is a numeral that rounds to the value and has its sign, also for the two
zeros. It has a power of ten outside the range that is written with a point alone; the ends of the
range are the values that a thousandth and ten million round to.
-/

namespace RuntimeMonitor.Identity

open Number

variable {f : Format} {n : Nat}

/-- The least magnitude that is written with a point alone, zero apart. -/
def leastPlain (f : Format) : Nat := f.ofDecimal ⟨1, -3⟩

/-- The least magnitude above it that is not. -/
def firstGreat (f : Format) : Nat := f.ofDecimal ⟨1, 7⟩

theorem magnitudeText_zero (pos : 0 < f.infinity) : magnitudeText f 0 = ['0', '.', '0'] := by
  rw [magnitudeText.eq_def, if_neg pos.ne, if_pos rfl]

theorem magnitudeText_of_pos (finite : n < f.infinity) (pos : 0 < n) :
    magnitudeText f n =
      if leastPlain f ≤ n ∧ n < firstGreat f then (f.shortest .up n).positional
      else (f.shortest .up n).scientific ⟨'E', true, false⟩ := by
  rw [magnitudeText.eq_def, if_neg finite.ne, if_neg pos.ne']
  rfl

theorem magnitudeText_writes (finite : n < f.infinity) (pos : 0 < n) :
    (f.shortest .up n).Writes (magnitudeText f n) := by
  rw [magnitudeText_of_pos finite pos]
  split
  · exact .positional
  · exact .scientific

/-- The numeral of a finite magnitude has a power of ten unless the magnitude is in the plain
range. -/
theorem exists_numeral_magnitudeText (finite : n < f.infinity) (negative : Bool) :
    ∃ s : Numeral, s.negative = negative ∧ s.unsigned = magnitudeText f n ∧
      (s.power.isSome ↔ 0 < n ∧ (n < leastPlain f ∨ firstGreat f ≤ n)) := by
  rcases Nat.eq_zero_or_pos n with rfl | pos
  · obtain ⟨s, sign, power, text⟩ := Decimal.exists_numeral_positional ⟨0, 0⟩ negative
    refine ⟨s, sign, ?_, by simp [power]⟩
    rw [text, magnitudeText_zero finite]
    rfl
  · rw [magnitudeText_of_pos finite pos]
    split_ifs with plain
    · obtain ⟨s, sign, power, text⟩ :=
        (f.shortest .up n).exists_numeral_positional negative
      refine ⟨s, sign, text, ?_⟩
      rw [power]
      simp only [Option.isSome_none, Bool.false_eq_true, false_iff]
      omega
    · obtain ⟨s, sign, power, text⟩ := (f.shortest .up n).exists_numeral_scientific negative
        ((Format.isShortest_shortest pos).coefficient_pos pos)
      refine ⟨s, sign, text, ?_⟩
      rw [power]
      simp only [Option.isSome_some, true_iff]
      omega

theorem isNaN_of_isFinite {x : Floating f} (finite : x.isFinite) : x.isNaN = false := by
  have less : x.magnitude < f.infinity := of_decide_eq_true finite
  exact decide_eq_false (by omega)

theorem exists_numeral_floatText {x : Floating f} (finite : x.isFinite) :
    ∃ s : Numeral, (floatText x).toList = s.text ∧ s.negative = x.negative ∧
      s.unsigned = magnitudeText f x.magnitude ∧
      (s.power.isSome ↔
        0 < x.magnitude ∧ (x.magnitude < leastPlain f ∨ firstGreat f ≤ x.magnitude)) := by
  obtain ⟨s, sign, unsigned, power⟩ :=
    exists_numeral_magnitudeText (of_decide_eq_true finite) x.negative
  refine ⟨s, ?_, sign, unsigned, power⟩
  rw [toList_floatText (isNaN_of_isFinite finite), Numeral.text, sign, unsigned]

theorem readNumber_floatText {x : Floating f} (finite : x.isFinite) :
    readNumber (floatText x).toList = x.sign * numeralValue (magnitudeText f x.magnitude) := by
  obtain ⟨s, text, sign, unsigned, -⟩ := exists_numeral_floatText finite
  rw [text, s.readNumber_text, s.value_eq, sign, unsigned]
  rfl

theorem readNumber_floatText_of_pos {x : Floating f} (finite : x.isFinite)
    (pos : 0 < x.magnitude) :
    readNumber (floatText x).toList = x.sign * (f.shortest .up x.magnitude).value := by
  rw [readNumber_floatText finite,
    (magnitudeText_writes (of_decide_eq_true finite) pos).numeralValue_eq]

/-- What is read from the text of a finite value rounds to it. -/
theorem isRounding_readNumber {x : Floating f} (finite : x.isFinite) :
    x.IsRounding (readNumber (floatText x).toList) := by
  rcases Nat.eq_zero_or_pos x.magnitude with zero | pos
  · have room : 0 < f.infinity := zero ▸ of_decide_eq_true finite
    have nothing : readNumber (floatText x).toList = x.value := by
      have text : numeralValue ['0', '.', '0'] = (Decimal.mk 0 0).value :=
        (Decimal.Writes.positional (d := ⟨0, 0⟩)).numeralValue_eq
      rw [readNumber_floatText finite, x.value_eq, zero, magnitudeText_zero room, f.value_zero,
        text, Decimal.value, Nat.cast_zero, zero_mul]
    rw [nothing]
    exact x.isRounding_value
  · rw [Floating.isRounding_iff pos finite, readNumber_floatText_of_pos finite pos,
      x.sign_mul_sign_mul]
    exact Format.rounds_shortest .up pos

/-- The two formats of the library. -/
def Known (f : Format) : Prop := f = .binary64 ∨ f = .binary32

theorem exists_leastPlain (known : Known f) :
    ∃ low : Floating f, low.IsRounding (1 / 1000) ∧ low.value = f.value (leastPlain f) := by
  have facts : leastPlain f = f.ofRatio 1 1000 ∧
      1 * 2 ^ f.scale / 1000 < f.units (f.infinity - 1) ∧ 0 < f.ofRatio 1 1000 := by
    rcases known with rfl | rfl <;> decide +kernel
  obtain ⟨taken, finite, pos⟩ := facts
  rw [taken]
  exact_mod_cast Floating.exists_isRounding_ofRatio (by decide) finite pos

theorem exists_firstGreat (known : Known f) :
    ∃ high : Floating f, high.IsRounding (10 ^ 7) ∧ high.value = f.value (firstGreat f) := by
  have facts : firstGreat f = f.ofRatio (10 ^ 7) 1 ∧
      10 ^ 7 * 2 ^ f.scale / 1 < f.units (f.infinity - 1) ∧ 0 < f.ofRatio (10 ^ 7) 1 := by
    rcases known with rfl | rfl <;> decide +kernel
  obtain ⟨taken, finite, pos⟩ := facts
  rw [taken]
  have found := Floating.exists_isRounding_ofRatio one_pos finite pos
  rwa [Nat.cast_one, div_one, Nat.cast_pow, Nat.cast_ofNat] at found

/-- Patterns that are numbers are told by their text, and all others share one. A finite value is
written as a numeral that rounds to it, with its sign. The numeral has a power of ten exactly if the
value is not zero and lies outside the plain range. -/
theorem float_texts_keep_values (known : Known f) :
    (∀ x y : Floating f, x.isNaN = false → y.isNaN = false →
      (floatText x = floatText y ↔ x = y)) ∧
    (∀ x : Floating f, x.isNaN = true → floatText x = "NaN") ∧
    ∃ low high : Floating f, low.IsRounding (1 / 1000) ∧ high.IsRounding (10 ^ 7) ∧
      ∀ x : Floating f, x.isFinite = true →
        ∃ s : Numeral, (floatText x).toList = s.text ∧ s.negative = x.negative ∧
          (s.power.isSome ↔ x.value ≠ 0 ∧ (|x.value| < low.value ∨ high.value ≤ |x.value|)) ∧
          readNumber (floatText x).toList = s.value ∧ x.IsRounding s.value := by
  refine ⟨fun x y => floatText_inj, ?_, ?_⟩
  · intro x nan
    rw [← String.toList_inj, toList_floatText_of_isNaN nan]
    rfl
  · obtain ⟨low, lowRounding, lowValue⟩ := exists_leastPlain known
    obtain ⟨high, highRounding, highValue⟩ := exists_firstGreat known
    refine ⟨low, high, lowRounding, highRounding, ?_⟩
    intro x finite
    obtain ⟨s, text, sign, -, power⟩ := exists_numeral_floatText finite
    have read : readNumber (floatText x).toList = s.value := by rw [text, s.readNumber_text]
    refine ⟨s, text, sign, ?_, read, read ▸ isRounding_readNumber finite⟩
    have size : |x.value| = f.value x.magnitude := x.abs_value
    rw [power, Floating.value_ne_zero_iff, size, lowValue, highValue, f.value_strictMono.lt_iff_lt,
      f.value_strictMono.le_iff_le]

/-- The value next below a thousandth, and the negative value next to zero in the short format. -/
theorem float_texts_keep_values_edges :
    let x : Double := ⟨0x3f50624dd2f1a9fb⟩
    let y : Single := ⟨0x80000001⟩
    (Known .binary64 ∧ Known .binary32) ∧
      (floatText x = "9.999999999999998E-4" ∧ x.IsRounding (9999999999999998 / 10 ^ 19)) ∧
      floatText y = "-1.0E-45" ∧ y.IsRounding (-(1 / 10 ^ 45)) := by
  intro x y
  have long : Known .binary64 := .inl rfl
  have short : Known .binary32 := .inr rfl
  have textX : floatText x = "9.999999999999998E-4" := by decide +kernel
  have textY : floatText y = "-1.0E-45" := by decide +kernel
  have numberX : readNumber (floatText x).toList = 9999999999999998 / 10 ^ 19 := by
    rw [textX]
    decide +kernel
  have numberY : readNumber (floatText y).toList = -(1 / 10 ^ 45) := by
    rw [textY]
    decide +kernel
  obtain ⟨-, -, _, _, -, -, longTexts⟩ := float_texts_keep_values long
  obtain ⟨-, -, _, _, -, -, shortTexts⟩ := float_texts_keep_values short
  obtain ⟨s, -, -, -, readX, roundingX⟩ := longTexts x (by decide +kernel)
  obtain ⟨t, -, -, -, readY, roundingY⟩ := shortTexts y (by decide +kernel)
  rw [← readX, numberX] at roundingX
  rw [← readY, numberY] at roundingY
  exact ⟨⟨long, short⟩, ⟨textX, roundingX⟩, textY, roundingY⟩

end RuntimeMonitor.Identity

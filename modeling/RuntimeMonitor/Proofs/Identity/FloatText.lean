import Mathlib
import RuntimeMonitor.Identity.FloatText
import RuntimeMonitor.Proofs.Number.Floating
import RuntimeMonitor.Proofs.Number.NumeralText

/-!
# Floating point values told by their text

The numeral of a finite magnitude denotes a number that rounds to the magnitude, whichever way it
is written. So no two magnitudes share a numeral. A numeral begins with a digit, which tells it from
a sign and from the name of infinity, and has a point, which tells it from an integer.
-/

namespace RuntimeMonitor.Identity

open Number

variable {f : Format} {m n : Nat}

theorem magnitudeText_infinity : magnitudeText f f.infinity = "Infinity".toList := if_pos rfl

/-- A finite magnitude is written as a decimal that rounds to it. -/
theorem exists_writes (finite : n ≠ f.infinity) :
    ∃ (d : Decimal) (p : Nat), d.Writes (magnitudeText f n) ∧ (f.roundings n).Contains p ∧
      d.value * 10 ^ f.scale = p := by
  rw [magnitudeText.eq_def, if_neg finite]
  by_cases zero : n = 0
  · rw [if_pos zero, zero]
    exact ⟨⟨0, 0⟩, 0, .positional, f.contains_zero, by simp [Decimal.value]⟩
  · obtain ⟨c, power, shortest, contains⟩ := f.exists_shortest .up (Nat.pos_of_ne_zero zero)
    rw [if_neg zero, shortest]
    refine ⟨_, _, ?_, contains, Decimal.value_mul_scale c power f.scale⟩
    simp only
    split_ifs
    · exact .positional
    · exact .scientific

theorem exists_digit_magnitudeText (finite : n ≠ f.infinity) :
    ∃ c rest, magnitudeText f n = c :: rest ∧ c.isDigit := by
  obtain ⟨d, p, written, -⟩ := exists_writes finite
  exact written.exists_head

theorem magnitudeText_ne_infinity (finite : n ≠ f.infinity) :
    magnitudeText f n ≠ magnitudeText f f.infinity := by
  obtain ⟨c, rest, text, digit⟩ := exists_digit_magnitudeText finite
  rw [text, magnitudeText_infinity]
  intro same
  obtain ⟨rfl, -⟩ := List.cons.inj same
  exact absurd digit (by decide)

/-- No two magnitudes share a text: the number that a numeral denotes rounds to one only. -/
theorem magnitudeText_injective : Function.Injective (magnitudeText f) := by
  intro m n same
  by_cases hm : m = f.infinity
  · by_contra different
    exact magnitudeText_ne_infinity (fun hn => different (hm.trans hn.symm)) (hm ▸ same.symm)
  · by_cases hn : n = f.infinity
    · exact absurd (hn ▸ same) (magnitudeText_ne_infinity hm)
    · obtain ⟨d, p, written, contains, value⟩ := exists_writes hm
      obtain ⟨d', p', written', contains', value'⟩ := exists_writes hn
      have numbers : (p : ℚ) = p' := by
        rw [← value, ← value', ← written.numeralValue_eq, ← written'.numeralValue_eq, same]
      obtain rfl : p = p' := Nat.cast_injective numbers
      exact f.roundings_disjoint contains contains'

theorem minus_not_head_magnitudeText (f : Format) (n : Nat) (rest : List Char) :
    magnitudeText f n ≠ '-' :: rest := by
  intro same
  by_cases infinite : n = f.infinity
  · rw [infinite, magnitudeText_infinity] at same
    exact absurd (List.cons.inj same).1 (by decide)
  · obtain ⟨c, tail, text, digit⟩ := exists_digit_magnitudeText infinite
    rw [text] at same
    obtain ⟨rfl, -⟩ := List.cons.inj same
    exact absurd digit (by decide)

theorem space_not_mem_magnitudeText (f : Format) (n : Nat) : ' ' ∉ magnitudeText f n := by
  by_cases infinite : n = f.infinity
  · rw [infinite, magnitudeText_infinity]
    decide
  · obtain ⟨d, p, written, -⟩ := exists_writes infinite
    exact written.space_not_mem

/-- Whether a character is in no integer. -/
def Foreign (c : Char) : Prop := c.isDigit = false ∧ c ≠ '-'

theorem exists_foreign_mem_magnitudeText (f : Format) (n : Nat) :
    ∃ c ∈ magnitudeText f n, Foreign c := by
  by_cases infinite : n = f.infinity
  · rw [infinite, magnitudeText_infinity]
    exact ⟨'I', by decide, rfl, by decide⟩
  · obtain ⟨d, p, written, -⟩ := exists_writes infinite
    exact ⟨'.', written.point_mem, rfl, by decide⟩

theorem not_foreign_of_mem_integerText {n : Int} {c : Char} (mem : c ∈ (integerText n).toList) :
    ¬ Foreign c := by
  rintro ⟨noDigit, noSign⟩
  rw [toList_integerText, List.mem_append] at mem
  rcases mem with sign | digit
  · split at sign
    · exact noSign (List.mem_singleton.mp sign)
    · exact List.not_mem_nil sign
  · rw [isDigit_of_mem_digits digit] at noDigit
    cases noDigit

theorem toList_floatText {x : Floating f} (number : x.isNaN = false) :
    (floatText x).toList = (if x.negative then ['-'] else []) ++ magnitudeText f x.magnitude := by
  rw [floatText, String.toList_ofList, number]
  cases x.negative <;> rfl

theorem toList_floatText_of_isNaN {x : Floating f} (nan : x.isNaN = true) :
    (floatText x).toList = ['N', 'a', 'N'] := by
  rw [floatText, String.toList_ofList, if_pos nan]

theorem space_not_mem_floatText (x : Floating f) : ' ' ∉ (floatText x).toList := by
  cases kind : x.isNaN with
  | true =>
    rw [toList_floatText_of_isNaN kind]
    decide
  | false =>
    rw [toList_floatText kind, List.mem_append, not_or]
    refine ⟨?_, space_not_mem_magnitudeText f _⟩
    split <;> decide

/-- A number with a fraction is told from an integer: it has a point, or it is a name. -/
theorem exists_foreign_mem_floatText (x : Floating f) : ∃ c ∈ (floatText x).toList, Foreign c := by
  cases kind : x.isNaN with
  | true =>
    rw [toList_floatText_of_isNaN kind]
    exact ⟨'N', List.mem_cons_self, rfl, by decide⟩
  | false =>
    obtain ⟨c, mem, foreign⟩ := exists_foreign_mem_magnitudeText f x.magnitude
    rw [toList_floatText kind]
    exact ⟨c, List.mem_append_right _ mem, foreign⟩

theorem floatText_ne_integerText (x : Floating f) (n : Int) : floatText x ≠ integerText n := by
  intro same
  obtain ⟨c, mem, foreign⟩ := exists_foreign_mem_floatText x
  exact not_foreign_of_mem_integerText (same ▸ mem) foreign

/-- Patterns that are numbers are told by their text, also the two zeros. -/
theorem floatText_inj {x y : Floating f} (hx : x.isNaN = false) (hy : y.isNaN = false) :
    floatText x = floatText y ↔ x = y := by
  constructor
  · intro same
    have texts := congrArg String.toList same
    rw [toList_floatText hx, toList_floatText hy] at texts
    cases sx : x.negative <;> cases sy : y.negative <;> simp only [sx, sy] at texts
    · exact Floating.eq_of_negative_of_magnitude (sx.trans sy.symm) (magnitudeText_injective texts)
    · exact absurd texts (minus_not_head_magnitudeText _ _ _)
    · exact absurd texts.symm (minus_not_head_magnitudeText _ _ _)
    · exact Floating.eq_of_negative_of_magnitude (sx.trans sy.symm)
        (magnitudeText_injective (List.cons.inj texts).2)
  · rintro rfl
    rfl

end RuntimeMonitor.Identity

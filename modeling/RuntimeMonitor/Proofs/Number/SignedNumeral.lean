import Mathlib
import RuntimeMonitor.Proofs.Number.NumeralText

/-!
# Numerals with a sign

A numeral has digits on both sides of a point. With a power of ten behind it, a single digit that is
not zero stands before the point. Both ways in which a decimal is written are such numerals.
-/

namespace RuntimeMonitor.Number

/-- The parts of a numeral. -/
structure Numeral where
  negative : Bool
  whole : List Char
  fraction : List Char
  power : Option Int
  whole_ne_nil : whole ≠ []
  fraction_ne_nil : fraction ≠ []
  isDigit_whole : ∀ d ∈ whole, d.isDigit
  isDigit_fraction : ∀ d ∈ fraction, d.isDigit
  leading : power.isSome → ∃ d, whole = [d] ∧ d ≠ '0'

/-- The number that a numeral denotes, with a minus sign or without one. -/
def readNumber : List Char → ℚ
  | '-' :: s => -numeralValue s
  | s => numeralValue s

theorem readNumber_of_head {s : List Char} (head : s.head? ≠ some '-') :
    readNumber s = numeralValue s := by
  unfold readNumber
  split
  · exact absurd rfl head
  · rfl

namespace Numeral

variable (s : Numeral)

/-- The power of ten behind its mark. -/
def powerText : List Char :=
  match s.power with
  | none => []
  | some e => 'E' :: (integerText e).toList

def unsigned : List Char := s.whole ++ '.' :: s.fraction ++ s.powerText

def text : List Char := (if s.negative then ['-'] else []) ++ s.unsigned

theorem pointed : Pointed (s.whole ++ '.' :: s.fraction) s.whole s.fraction :=
  ⟨rfl, s.whole_ne_nil, s.fraction_ne_nil, s.isDigit_whole, s.isDigit_fraction⟩

theorem head?_unsigned : s.unsigned.head? ≠ some '-' := by
  obtain ⟨d, rest, first, digit⟩ := s.pointed.exists_head
  rw [unsigned, first, List.cons_append, List.head?_cons]
  rintro ⟨rfl⟩
  exact absurd digit (by decide)

/-- The number of all digits, with as many places behind the point as the power leaves of them. -/
def value : ℚ :=
  (if s.negative then -1 else 1) *
    (ofDigits (s.whole ++ s.fraction) * 10 ^ (s.power.getD 0 - s.fraction.length))

theorem value_eq : s.value = (if s.negative then -1 else 1) * numeralValue s.unsigned := by
  have stop : ∀ c ∈ s.powerText.head?, c = 'E' := by
    unfold powerText
    cases s.power <;> simp
  have power : signedValue s.powerText.tail = s.power.getD 0 := by
    unfold powerText
    cases s.power with
    | none => rfl
    | some e => exact signedValue_integerText e
  rw [value, unsigned, s.pointed.numeralValue_append stop, power]

theorem readNumber_text : readNumber s.text = s.value := by
  rw [value_eq, text]
  cases s.negative with
  | false =>
    rw [if_neg (by decide), if_neg (by decide), List.nil_append, one_mul]
    exact readNumber_of_head s.head?_unsigned
  | true =>
    rw [if_pos rfl, if_pos rfl, neg_one_mul]
    rfl

end Numeral

namespace Decimal

variable (d : Decimal) (negative : Bool)

theorem exists_numeral_positional :
    ∃ s : Numeral, s.negative = negative ∧ s.power = none ∧ s.unsigned = d.positional := by
  obtain ⟨whole, fraction, pointed, -⟩ := d.exists_pointed_positional
  refine ⟨⟨negative, whole, fraction, none, pointed.whole_ne_nil, pointed.fraction_ne_nil,
    pointed.isDigit_whole, pointed.isDigit_fraction, nofun⟩, rfl, rfl, ?_⟩
  exact (List.append_nil _).trans pointed.eq.symm

theorem head?_scientific (style : Style) :
    (d.scientific style).head? = (digits d.coefficient).head? := by
  have some : digits d.coefficient ≠ [] := digits_ne_nil _
  rw [scientific.eq_def]
  simp only
  generalize digits d.coefficient = ds at *
  cases ds with
  | nil => exact absurd rfl some
  | cons a rest =>
    cases rest with
    | nil => cases style.fraction <;> rfl
    | cons b rest => rfl

theorem exists_numeral_scientific (pos : 0 < d.coefficient) :
    ∃ s : Numeral, s.negative = negative ∧ s.power = some d.leadingExponent ∧
      s.unsigned = d.scientific ⟨'E', true, false⟩ := by
  obtain ⟨mantissa, head, fraction, pointed, text, -⟩ := d.exists_pointed_scientific
  have leading : head ≠ '0' := by
    have first := d.head?_scientific ⟨'E', true, false⟩
    rw [text, pointed.eq] at first
    rintro rfl
    exact head?_digits_of_pos pos first.symm
  refine ⟨⟨negative, [head], fraction, some d.leadingExponent, pointed.whole_ne_nil,
    pointed.fraction_ne_nil, pointed.isDigit_whole, pointed.isDigit_fraction,
    fun _ => ⟨head, rfl, leading⟩⟩, rfl, rfl, ?_⟩
  rw [text]
  exact congrArg (· ++ 'E' :: (integerText d.leadingExponent).toList) pointed.eq.symm

end Decimal
end RuntimeMonitor.Number

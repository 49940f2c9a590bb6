import Mathlib
import RuntimeMonitor.Proofs.Number.Numeral

/-!
# The value of a numeral

A numeral has digits on both sides of a point, and a power of ten may stand behind an `E`. Its value
is found by scanning for the mark and for the point. Both ways in which a decimal is written give
its value back.
-/

namespace RuntimeMonitor.Number

/-- The integer that digits denote, with a minus sign in front if it is negative. -/
def signedValue : List Char → Int
  | '-' :: ds => -ofDigits ds
  | ds => ofDigits ds

/-- The number that a numeral without sign denotes. -/
def numeralValue (s : List Char) : ℚ :=
  let mantissa := s.takeWhile (· ≠ 'E')
  let power := (s.dropWhile (· ≠ 'E')).tail
  let whole := mantissa.takeWhile (· ≠ '.')
  let fraction := (mantissa.dropWhile (· ≠ '.')).tail
  ofDigits (whole ++ fraction) * 10 ^ (signedValue power - fraction.length)

theorem signedValue_of_isDigit {ds : List Char} (digits : ∀ d ∈ ds, d.isDigit) :
    signedValue ds = ofDigits ds := by
  unfold signedValue
  split
  · exact absurd (digits '-' List.mem_cons_self) (by decide)
  · rfl

theorem signedValue_integerText (n : Int) : signedValue (integerText n).toList = n := by
  rw [toList_integerText]
  split
  · next negative =>
    change -(ofDigits (digits n.natAbs) : Int) = n
    rw [ofDigits_digits]
    omega
  · next nonnegative =>
    rw [List.nil_append, signedValue_of_isDigit fun d => isDigit_of_mem_digits, ofDigits_digits]
    omega

/-- A scan for a mark ends where the mark stands first. -/
theorem scan_append {mark : Char} {s rest : List Char} (free : mark ∉ s)
    (stop : ∀ c ∈ rest.head?, c = mark) :
    (s ++ rest).takeWhile (· ≠ mark) = s ∧ (s ++ rest).dropWhile (· ≠ mark) = rest := by
  have before : ∀ c ∈ s, decide (c ≠ mark) = true := by
    intro c mem
    exact decide_eq_true (ne_of_mem_of_not_mem mem free)
  rw [List.takeWhile_append_of_pos before, List.dropWhile_append_of_pos before]
  cases rest with
  | nil => simp
  | cons c rest =>
    obtain rfl : c = mark := stop c rfl
    simp

theorem not_mem_of_isDigit {mark : Char} {ds : List Char} (digits : ∀ d ∈ ds, d.isDigit)
    (other : mark.isDigit = false) : mark ∉ ds := by
  intro mem
  rw [digits mark mem] at other
  cases other

/-- Whether a text has digits on both sides of a point, and which. -/
structure Pointed (text whole fraction : List Char) : Prop where
  eq : text = whole ++ '.' :: fraction
  whole_ne_nil : whole ≠ []
  fraction_ne_nil : fraction ≠ []
  isDigit_whole : ∀ d ∈ whole, d.isDigit
  isDigit_fraction : ∀ d ∈ fraction, d.isDigit

namespace Pointed

variable {text whole fraction : List Char}

theorem not_mem (h : Pointed text whole fraction) {mark : Char} (other : mark.isDigit = false)
    (noPoint : mark ≠ '.') : mark ∉ text := by
  rw [h.eq, List.mem_append, List.mem_cons, not_or, not_or]
  exact ⟨not_mem_of_isDigit h.isDigit_whole other, noPoint,
    not_mem_of_isDigit h.isDigit_fraction other⟩

theorem point_mem (h : Pointed text whole fraction) : '.' ∈ text := by
  rw [h.eq]
  exact List.mem_append_right _ List.mem_cons_self

theorem exists_head (h : Pointed text whole fraction) : ∃ d rest, text = d :: rest ∧ d.isDigit := by
  obtain ⟨d, rest, rfl⟩ := List.exists_cons_of_ne_nil h.whole_ne_nil
  exact ⟨d, _, h.eq, h.isDigit_whole d List.mem_cons_self⟩

theorem numeralValue_append (h : Pointed text whole fraction) {rest : List Char}
    (stop : ∀ c ∈ rest.head?, c = 'E') :
    numeralValue (text ++ rest) =
      ofDigits (whole ++ fraction) * 10 ^ (signedValue rest.tail - fraction.length) := by
  have free : 'E' ∉ text := h.not_mem rfl (by decide)
  obtain ⟨mantissa, power⟩ := scan_append free stop
  have point : ∀ c ∈ ('.' :: fraction).head?, c = '.' := by simp
  obtain ⟨left, right⟩ := scan_append (not_mem_of_isDigit h.isDigit_whole rfl) point
  simp only [numeralValue, mantissa, power]
  rw [h.eq, left, right, List.tail_cons]

end Pointed

theorem ofDigits_zeros_append (k : Nat) (ds : List Char) :
    ofDigits (List.replicate k '0' ++ ds) = ofDigits ds := by
  rw [ofDigits, Nat.ofDigitChars_append, Nat.ofDigitChars_replicate_zero, Nat.mul_zero]
  rfl

theorem ofDigits_append_zeros (ds : List Char) (k : Nat) :
    ofDigits (ds ++ List.replicate k '0') = 10 ^ k * ofDigits ds := by
  rw [ofDigits, Nat.ofDigitChars_append, Nat.ofDigitChars_replicate_zero]
  rfl

theorem isDigit_of_mem_zeros {k : Nat} {d : Char} (mem : d ∈ List.replicate k '0') :
    d.isDigit := by
  rw [List.eq_of_mem_replicate mem]
  rfl

namespace Decimal

def value (d : Decimal) : ℚ := d.coefficient * 10 ^ d.exponent

/-- A numeral of a decimal in decimal units denotes as many of them. -/
theorem value_mul_scale (c power scale : Nat) :
    (mk c (power - scale)).value * 10 ^ scale = ((c * 10 ^ power : Nat) : ℚ) := by
  rw [Decimal.value, mul_assoc, ← zpow_natCast, ← zpow_add₀ (by norm_num), sub_add_cancel]
  push_cast
  rfl

theorem pointed_integral {ds : List Char} (ne : ds ≠ []) (all : ∀ d ∈ ds, d.isDigit) :
    Pointed (ds ++ ['.', '0']) ds ['0'] where
  eq := rfl
  whole_ne_nil := ne
  fraction_ne_nil := List.cons_ne_nil _ _
  isDigit_whole := all
  isDigit_fraction _ mem := isDigit_of_mem_zeros (k := 1) mem

theorem pointed_split {ds : List Char} {k : Nat} (pos : 0 < k) (inside : k < ds.length)
    (all : ∀ d ∈ ds, d.isDigit) :
    Pointed (ds.take k ++ '.' :: ds.drop k) (ds.take k) (ds.drop k) where
  eq := rfl
  whole_ne_nil := by
    rw [Ne, List.take_eq_nil_iff, not_or]
    exact ⟨pos.ne', List.ne_nil_of_length_pos (by omega)⟩
  fraction_ne_nil := by
    rw [Ne, List.drop_eq_nil_iff]
    omega
  isDigit_whole d mem := all d (List.mem_of_mem_take mem)
  isDigit_fraction d mem := all d (List.mem_of_mem_drop mem)

theorem pointed_small {ds : List Char} (k : Nat) (ne : ds ≠ []) (all : ∀ d ∈ ds, d.isDigit) :
    Pointed ('0' :: '.' :: (List.replicate k '0' ++ ds)) ['0'] (List.replicate k '0' ++ ds) where
  eq := rfl
  whole_ne_nil := List.cons_ne_nil _ _
  fraction_ne_nil := List.append_ne_nil_of_right_ne_nil _ ne
  isDigit_whole _ mem := isDigit_of_mem_zeros (k := 1) mem
  isDigit_fraction d mem := by
    rcases List.mem_append.mp mem with zero | digit
    · exact isDigit_of_mem_zeros zero
    · exact all d digit

theorem exists_pointed_positional (d : Decimal) :
    ∃ whole fraction, Pointed d.positional whole fraction ∧
      d.value = ofDigits (whole ++ fraction) * 10 ^ (-(fraction.length : Int)) := by
  have all : ∀ c ∈ digits d.coefficient, c.isDigit := fun c => isDigit_of_mem_digits
  have some : digits d.coefficient ≠ [] := digits_ne_nil _
  have coefficient : d.coefficient = ofDigits (digits d.coefficient) := (ofDigits_digits _).symm
  rw [positional.eq_def, value]
  simp only
  generalize digits d.coefficient = ds at *
  split_ifs with integral inside
  · have zeros : ∀ c ∈ ds ++ List.replicate d.exponent.toNat '0', c.isDigit := by
      intro c mem
      rcases List.mem_append.mp mem with digit | zero
      · exact all c digit
      · exact isDigit_of_mem_zeros zero
    refine ⟨_, _, pointed_integral (List.append_ne_nil_of_left_ne_nil some _) zeros, ?_⟩
    have shifted : ofDigits (ds ++ List.replicate d.exponent.toNat '0' ++ ['0']) =
        10 * (10 ^ d.exponent.toNat * d.coefficient) := by
      have zero : ['0'] = List.replicate 1 '0' := rfl
      rw [zero, ofDigits_append_zeros, ofDigits_append_zeros, ← coefficient, Nat.pow_one]
    have power : d.exponent = (d.exponent.toNat : Int) := (Int.toNat_of_nonneg integral).symm
    rw [shifted, List.length_singleton, power, Int.toNat_natCast, zpow_natCast]
    push_cast
    ring
  · have before : 0 < ((ds.length : Int) + d.exponent).toNat := by omega
    refine ⟨_, _, pointed_split before (by omega) all, ?_⟩
    rw [List.take_append_drop, ← coefficient, List.length_drop]
    congr 2
    omega
  · refine ⟨_, _, pointed_small _ some all, ?_⟩
    rw [List.cons_append, List.nil_append, ← List.cons_append, ← List.replicate_succ,
      ofDigits_zeros_append, ← coefficient, List.length_append, List.length_replicate]
    congr 2
    omega

theorem exists_pointed_scientific (d : Decimal) :
    ∃ mantissa head fraction, Pointed mantissa [head] fraction ∧
      d.scientific ⟨'E', true, false⟩ = mantissa ++ 'E' :: (integerText d.leadingExponent).toList ∧
      d.value = ofDigits (head :: fraction) * 10 ^ (d.leadingExponent - fraction.length) := by
  have all : ∀ c ∈ digits d.coefficient, c.isDigit := fun c => isDigit_of_mem_digits
  have some : digits d.coefficient ≠ [] := digits_ne_nil _
  have coefficient : d.coefficient = ofDigits (digits d.coefficient) := (ofDigits_digits _).symm
  rw [toList_integerText, scientific.eq_def, value, leadingExponent]
  simp only
  generalize digits d.coefficient = ds at *
  cases ds with
  | nil => exact absurd rfl some
  | cons head rest =>
    cases rest with
    | nil =>
      refine ⟨[head, '.', '0'], head, ['0'], pointed_integral some all, rfl, ?_⟩
      have zero : [head, '0'] = [head] ++ List.replicate 1 '0' := rfl
      have shifted : ofDigits [head, '0'] = 10 * d.coefficient := by
        rw [zero, ofDigits_append_zeros, ← coefficient, Nat.pow_one]
      have power : (([head].length : Int) - 1 + d.exponent - ['0'].length) = d.exponent - 1 := by
        simp
      rw [shifted, power, zpow_sub_one₀ (by norm_num)]
      push_cast
      ring
    | cons next rest =>
      refine ⟨head :: '.' :: next :: rest, head, next :: rest, ?_, List.append_assoc _ _ _, ?_⟩
      · exact pointed_split (k := 1) one_pos (by simp) all
      · rw [← coefficient, List.length_cons, Nat.cast_succ]
        congr 2
        ring

/-- Either way of writing a decimal, with `E` for the mark of its power of ten. -/
inductive Writes (d : Decimal) : List Char → Prop
  | positional : Writes d d.positional
  | scientific : Writes d (d.scientific ⟨'E', true, false⟩)

variable {d : Decimal} {text : List Char}

theorem Writes.numeralValue_eq (written : d.Writes text) : numeralValue text = d.value := by
  cases written with
  | positional =>
    obtain ⟨whole, fraction, pointed, value⟩ := d.exists_pointed_positional
    rw [value, ← List.append_nil d.positional, pointed.numeralValue_append (by simp)]
    simp [signedValue, ofDigits]
  | scientific =>
    obtain ⟨mantissa, head, fraction, pointed, text, value⟩ := d.exists_pointed_scientific
    rw [text, pointed.numeralValue_append (by simp), List.tail_cons, signedValue_integerText, value]
    rfl

theorem Writes.exists_head (written : d.Writes text) : ∃ c rest, text = c :: rest ∧ c.isDigit := by
  cases written with
  | positional =>
    obtain ⟨whole, fraction, pointed, -⟩ := d.exists_pointed_positional
    exact pointed.exists_head
  | scientific =>
    obtain ⟨mantissa, head, fraction, pointed, text, -⟩ := d.exists_pointed_scientific
    obtain ⟨c, rest, rfl, digit⟩ := pointed.exists_head
    exact ⟨c, _, text, digit⟩

theorem Writes.point_mem (written : d.Writes text) : '.' ∈ text := by
  cases written with
  | positional =>
    obtain ⟨whole, fraction, pointed, -⟩ := d.exists_pointed_positional
    exact pointed.point_mem
  | scientific =>
    obtain ⟨mantissa, head, fraction, pointed, text, -⟩ := d.exists_pointed_scientific
    exact text ▸ List.mem_append_left _ pointed.point_mem

theorem Writes.space_not_mem (written : d.Writes text) : ' ' ∉ text := by
  cases written with
  | positional =>
    obtain ⟨whole, fraction, pointed, -⟩ := d.exists_pointed_positional
    exact pointed.not_mem rfl (by decide)
  | scientific =>
    obtain ⟨mantissa, head, fraction, pointed, text, -⟩ := d.exists_pointed_scientific
    rw [text, List.mem_append, List.mem_cons, not_or, not_or]
    exact ⟨pointed.not_mem rfl (by decide), by decide, space_not_mem_integerText _⟩

end Decimal
end RuntimeMonitor.Number

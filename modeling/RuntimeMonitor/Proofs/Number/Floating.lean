import Mathlib
import RuntimeMonitor.Proofs.Number.Rounding

/-!
# Bit patterns

A pattern is told by its sign and its magnitude. An integer gets its own sign and the magnitude
nearest to it, so no other pattern stands for a nearer number.
-/

namespace RuntimeMonitor.Number

namespace Floating

variable {f : Format} {x y : Floating f}

theorem two_pow_width (f : Format) : 2 ^ f.width = 2 * 2 ^ (f.width - 1) := by
  rw [Format.width, Nat.add_sub_cancel, Nat.pow_succ']

/-- A pattern is put together from its sign and its magnitude. -/
theorem eq_of_negative_of_magnitude (sign : x.negative = y.negative)
    (magnitude : x.magnitude = y.magnitude) : x = y := by
  obtain ⟨a⟩ := x
  obtain ⟨b⟩ := y
  congr 1
  apply BitVec.eq_of_toNat_eq
  have boundA : a.toNat < 2 * 2 ^ (f.width - 1) := two_pow_width f ▸ a.isLt
  have boundB : b.toNat < 2 * 2 ^ (f.width - 1) := two_pow_width f ▸ b.isLt
  simp only [negative, BitVec.msb_eq_decide, decide_eq_decide] at sign
  simp only [Floating.magnitude] at magnitude
  generalize 2 ^ (f.width - 1) = half at *
  by_cases high : half ≤ a.toNat
  · have high' : half ≤ b.toNat := sign.mp high
    rw [Nat.mod_eq_sub_mod high, Nat.mod_eq_sub_mod high', Nat.mod_eq_of_lt (by omega),
      Nat.mod_eq_of_lt (by omega)] at magnitude
    omega
  · have low : ¬ half ≤ b.toNat := mt sign.mpr high
    rwa [Nat.mod_eq_of_lt (by omega), Nat.mod_eq_of_lt (by omega)] at magnitude

theorem infinity_lt_two_pow (f : Format) : f.infinity < 2 ^ (f.width - 1) := by
  rw [Format.infinity, Format.width, Nat.add_sub_cancel, Nat.pow_add]
  exact Nat.mul_lt_mul_of_pos_right (Nat.sub_lt (Nat.two_pow_pos _) one_pos) (Nat.two_pow_pos _)

theorem magnitude_ofMagnitude (negative : Bool) (n : Nat) :
    (ofMagnitude negative n : Floating f).magnitude = n % 2 ^ (f.width - 1) := by
  rw [magnitude, ofMagnitude, BitVec.toNat_ofNat, two_pow_width, Nat.mod_mul_left_mod]
  cases negative with
  | false => rfl
  | true => exact Nat.add_mod_left _ _

theorem negative_ofMagnitude (negative : Bool) {n : Nat} (small : n < 2 ^ (f.width - 1)) :
    (ofMagnitude negative n : Floating f).negative = negative := by
  have bound : (if negative then 2 ^ (f.width - 1) + n else n) < 2 ^ f.width := by
    rw [two_pow_width]
    split <;> omega
  rw [Floating.negative, ofMagnitude, BitVec.msb_eq_decide, BitVec.toNat_ofNat,
    Nat.mod_eq_of_lt bound]
  cases negative with
  | false => exact decide_eq_false (Nat.not_le.mpr small)
  | true => exact decide_eq_true (Nat.le_add_right _ _)

theorem ofRatio_le_infinity (f : Format) (num den : Nat) : f.ofRatio num den ≤ f.infinity :=
  Nat.min_le_left _ _

theorem magnitude_ofInt (n : Int) : (ofInt n : Floating f).magnitude = f.ofRatio n.natAbs 1 := by
  rw [ofInt, magnitude_ofMagnitude]
  exact Nat.mod_eq_of_lt ((ofRatio_le_infinity f _ _).trans_lt (infinity_lt_two_pow f))

theorem negative_ofInt (n : Int) : (ofInt n : Floating f).negative = decide (n < 0) :=
  negative_ofMagnitude _ ((ofRatio_le_infinity f _ _).trans_lt (infinity_lt_two_pow f))

/-- An integer beyond the greatest finite value is infinite, which is a number. -/
theorem isNaN_ofInt (n : Int) : (ofInt n : Floating f).isNaN = false := by
  rw [isNaN, magnitude_ofInt, decide_eq_false_iff_not, Nat.not_lt]
  exact ofRatio_le_infinity f _ _

theorem isFinite_ofInt {n : Int} (small : n.natAbs * 2 ^ f.scale < f.units (f.infinity - 1)) :
    (ofInt n : Floating f).isFinite = true := by
  rw [isFinite, magnitude_ofInt]
  exact decide_eq_true (f.nearest_lt_infinity ((Nat.div_one _).trans_lt small))

/-- The number that a finite pattern stands for. -/
def value (x : Floating f) : ℚ :=
  (if x.negative then -1 else 1) * (f.units x.magnitude / 2 ^ f.scale)

theorem abs_value (x : Floating f) : |x.value| = f.units x.magnitude / 2 ^ f.scale := by
  have size : (0 : ℚ) ≤ f.units x.magnitude / 2 ^ f.scale := by positivity
  rw [value, abs_mul, abs_of_nonneg size]
  split <;> simp

theorem abs_sub_value_ofInt (n : Int) :
    |(n : ℚ) - (ofInt n : Floating f).value| = |(|(n : ℚ)| - |(ofInt n : Floating f).value|)| := by
  rw [abs_value, value, negative_ofInt]
  by_cases negative : n < 0
  · have below : (n : ℚ) < 0 := Int.cast_lt_zero.mpr negative
    rw [if_pos (decide_eq_true negative), abs_of_neg below, ← abs_neg]
    congr 1
    ring
  · have above : (0 : ℚ) ≤ n := Int.cast_nonneg (Int.not_lt.mp negative)
    rw [if_neg (by simpa using negative), abs_of_nonneg above, one_mul]

/-- No value is nearer to an integer than the one that is taken for it. -/
theorem ofInt_closest {n : Int} (finite : n.natAbs * 2 ^ f.scale < f.units f.infinity)
    (x : Floating f) :
    |(n : ℚ) - (ofInt n : Floating f).value| ≤ |(n : ℚ) - x.value| := by
  have closest := f.nearest_closest one_pos ((Nat.div_one _).trans_lt finite) x.magnitude
  rw [Nat.mul_one, Nat.mul_one] at closest
  have scaled (u : Nat) : |(|(n : ℚ)| - u / 2 ^ f.scale)| =
      (|((n.natAbs * 2 ^ f.scale : Nat) : Int) - u| : Int) / 2 ^ f.scale := by
    have unit : (0 : ℚ) < 2 ^ f.scale := by positivity
    have shared : |(n : ℚ)| - u / 2 ^ f.scale = (|(n : ℚ)| * 2 ^ f.scale - u) / 2 ^ f.scale := by
      rw [sub_div, mul_div_cancel_right₀ _ unit.ne']
    rw [shared, abs_div, abs_of_pos unit]
    push_cast [Nat.cast_natAbs]
    rfl
  have magnitudes : |(|(n : ℚ)| - |(ofInt n : Floating f).value|)| ≤ |(|(n : ℚ)| - |x.value|)| := by
    rw [abs_value, abs_value, magnitude_ofInt, scaled, scaled]
    exact div_le_div_of_nonneg_right (Int.cast_le.mpr closest) (by positivity)
  rw [abs_sub_value_ofInt]
  exact magnitudes.trans (abs_abs_sub_abs_le _ _)

end Floating
end RuntimeMonitor.Number

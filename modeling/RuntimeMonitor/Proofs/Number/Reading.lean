import Mathlib
import RuntimeMonitor.Proofs.Number.Floating

/-!
# What an exact number rounds to

A number rounds to the value that no other value is nearer to; of two equally near ones it is the
one with the even magnitude. So the numbers that round to a value lie between the middles to its two
neighbours, and everything between two of them rounds to the value too. The numbers that the search
for a decimal accepts are these.
-/

namespace RuntimeMonitor.Number

/-- Whether `v` is taken for `q` if `w` is the only other choice. -/
def Nearer (q v w : ℚ) (even : Prop) : Prop := |q - v| < |q - w| ∨ |q - v| = |q - w| ∧ even

section Nearer

variable {q v w : ℚ} {even : Prop}

theorem nearer_iff_of_lt (less : v < w) :
    Nearer q v w even ↔ 2 * q < v + w ∨ 2 * q = v + w ∧ even := by
  have closer : |q - v| < |q - w| ↔ 2 * q < v + w := by
    rw [← sq_lt_sq]
    constructor <;> intro h <;> nlinarith
  have same : |q - v| = |q - w| ↔ 2 * q = v + w := by
    rw [← sq_eq_sq_iff_abs_eq_abs]
    constructor
    · intro h
      have product : (w - v) * (2 * q - (v + w)) = 0 := by linarith
      rcases mul_eq_zero.mp product with zero | zero <;> linarith
    · intro h
      have middle : q = (v + w) / 2 := by linarith
      rw [middle]
      ring
  rw [Nearer, closer, same]

theorem nearer_iff_of_gt (greater : w < v) :
    Nearer q v w even ↔ v + w < 2 * q ∨ v + w = 2 * q ∧ even := by
  have mirrored : Nearer q v w even ↔ Nearer (-q) (-v) (-w) even := by
    rw [Nearer, Nearer, neg_sub_neg, neg_sub_neg, abs_sub_comm v, abs_sub_comm w]
  rw [mirrored, nearer_iff_of_lt (neg_lt_neg greater)]
  constructor <;> rintro (h | ⟨h, e⟩)
  · exact .inl (by linarith)
  · exact .inr ⟨by linarith, e⟩
  · exact .inl (by linarith)
  · exact .inr ⟨by linarith, e⟩

end Nearer

namespace Format

variable (f : Format) {n : Nat} {q : ℚ}

/-- The number that a magnitude stands for. -/
def value (n : Nat) : ℚ := f.units n / 2 ^ f.scale

/-- Whether a number lies between the middles to the two neighbours of a magnitude. The middles
belong to the even one. Nothing is below zero. -/
def Rounds (n : Nat) (q : ℚ) : Prop :=
  (f.value n + f.value (n - 1) < 2 * q ∨ f.value n + f.value (n - 1) = 2 * q ∧ n % 2 = 0) ∧
    (2 * q < f.value n + f.value (n + 1) ∨ 2 * q = f.value n + f.value (n + 1) ∧ n % 2 = 0)

instance (n : Nat) (q : ℚ) : Decidable (f.Rounds n q) := inferInstanceAs (Decidable (_ ∧ _))

theorem value_strictMono : StrictMono f.value := by
  intro m n less
  have units : (f.units m : ℚ) < f.units n := Nat.cast_lt.mpr (f.units_strictMono less)
  exact div_lt_div_of_pos_right units (by positivity)

theorem value_nonneg (n : Nat) : 0 ≤ f.value n := by
  rw [value]
  positivity

theorem value_zero : f.value 0 = 0 := by
  have zero : f.units 0 = 0 := by simp [units]
  rw [value, zero, Nat.cast_zero, zero_div]

/-- A unit is a whole number of decimal units. -/
theorem value_eq_decimalUnits (n : Nat) : f.value n = f.decimalUnits n / 10 ^ f.scale := by
  have tens : (10 : ℚ) ^ f.scale = 2 ^ f.scale * 5 ^ f.scale := by
    rw [← mul_pow]
    norm_num
  rw [value, decimalUnits, tens]
  push_cast
  field_simp

variable {f}

theorem Rounds.nonneg (h : f.Rounds n q) : 0 ≤ q := by
  have own := f.value_nonneg n
  have below := f.value_nonneg (n - 1)
  rcases h.1 with less | ⟨same, -⟩ <;> linarith

theorem Rounds.pos (h : f.Rounds n q) (pos : 0 < n) : 0 < q := by
  have own : f.value 0 < f.value n := f.value_strictMono pos
  have below := f.value_nonneg (n - 1)
  rw [f.value_zero] at own
  rcases h.1 with less | ⟨same, -⟩ <;> linarith

/-- What lies between two numbers that round to a value rounds to it too. -/
theorem Rounds.between {p r : ℚ} (hp : f.Rounds n p) (hr : f.Rounds n r) (low : p ≤ q)
    (high : q ≤ r) : f.Rounds n q := by
  obtain ⟨left, -⟩ := hp
  obtain ⟨-, right⟩ := hr
  constructor
  · rcases left with less | ⟨same, even⟩
    · exact .inl (by linarith)
    · rcases low.lt_or_eq with less | rfl
      · exact .inl (by linarith)
      · exact .inr ⟨same, even⟩
  · rcases right with less | ⟨same, even⟩
    · exact .inl (by linarith)
    · rcases high.lt_or_eq with less | rfl
      · exact .inl (by linarith)
      · exact .inr ⟨same, even⟩

theorem mul_value_succ_le {k : Nat} (least : k ≤ n) (full : k ≤ 2 ^ f.fractionBits) :
    k * f.value (n + 1) ≤ (k + 1) * f.value n := by
  have units : ((k * f.units (n + 1) : Nat) : ℚ) ≤ ((k + 1) * f.units n : Nat) :=
    Nat.cast_le.mpr (f.mul_units_succ_le least full)
  push_cast at units
  rw [value, value, mul_div_assoc', mul_div_assoc']
  exact div_le_div_of_nonneg_right units (by positivity)

/-- What rounds to a great magnitude is within a small part of it. -/
theorem Rounds.mul_abs_sub_le {k : Nat} (h : f.Rounds n q) (large : k < n)
    (full : k ≤ 2 ^ f.fractionBits) : 2 * k * |f.value n - q| ≤ f.value n := by
  obtain ⟨m, rfl⟩ := Nat.exists_eq_succ_of_ne_zero (Nat.ne_zero_of_lt large)
  have below : k * f.value (m + 1) ≤ (k + 1) * f.value m :=
    mul_value_succ_le (Nat.le_of_lt_succ large) full
  have above : k * f.value (m + 1 + 1) ≤ (k + 1) * f.value (m + 1) :=
    mul_value_succ_le large.le full
  have less : f.value m < f.value (m + 1) := f.value_strictMono (Nat.lt_succ_self m)
  have low : f.value (m + 1) + f.value m ≤ 2 * q := by
    rcases h.1 with less | ⟨same, -⟩
    · exact less.le
    · exact same.le
  have high : 2 * q ≤ f.value (m + 1) + f.value (m + 1 + 1) := by
    rcases h.2 with less | ⟨same, -⟩
    · exact less.le
    · exact same.le
  have factor : (0 : ℚ) ≤ k := Nat.cast_nonneg k
  have lower := mul_le_mul_of_nonneg_left low factor
  have upper := mul_le_mul_of_nonneg_left high factor
  rcases abs_cases (f.value (m + 1) - q) with ⟨size, -⟩ | ⟨size, -⟩ <;> rw [size] <;> linarith

/-- Rounding compares whole numbers as soon as the values and the number are whole multiples of one
unit. -/
theorem rounds_iff_of_multiples {unit : ℚ} (pos : 0 < unit) {multiple : Nat → Nat} {p : Nat}
    (values : ∀ m, f.value m = multiple m * unit) (number : q = p * unit) :
    f.Rounds n q ↔
      (multiple n + multiple (n - 1) < 2 * p ∨
        multiple n + multiple (n - 1) = 2 * p ∧ n % 2 = 0) ∧
      (2 * p < multiple n + multiple (n + 1) ∨
        2 * p = multiple n + multiple (n + 1) ∧ n % 2 = 0) := by
  have sum (a b : Nat) : f.value a + f.value b = (multiple a + multiple b : Nat) * unit := by
    rw [values, values]
    push_cast
    ring
  have twice : 2 * q = (2 * p : Nat) * unit := by
    rw [number]
    push_cast
    ring
  rw [Rounds, sum, sum, twice]
  simp only [mul_lt_mul_iff_left₀ pos, mul_left_inj' pos.ne', Nat.cast_lt, Nat.cast_inj]

/-- The numbers that the search accepts are those that round to the magnitude. -/
theorem contains_iff_rounds (pos : 0 < n) (p : Nat) :
    (f.roundings n).Contains p ↔ f.Rounds n (p / 10 ^ f.scale) := by
  have values (m : Nat) : f.value m = f.decimalUnits m * (1 / 10 ^ f.scale) := by
    rw [value_eq_decimalUnits, mul_one_div]
  have below : f.decimalUnits (n - 1) < f.decimalUnits n := f.decimalUnits_strictMono (by omega)
  have above : f.decimalUnits n < f.decimalUnits (n + 1) := f.decimalUnits_strictMono (by omega)
  rw [rounds_iff_of_multiples (by positivity) values (by rw [mul_one_div])]
  simp only [Roundings.Contains, roundings, decide_eq_true_eq]
  omega

/-- The magnitude that is taken for a number is the one that it rounds to. -/
theorem rounds_nearest {num den : Nat} (pos : 0 < den)
    (finite : num / den < f.units (f.infinity - 1)) :
    f.Rounds (f.nearest num den) (num / den / 2 ^ f.scale) := by
  have values (m : Nat) : f.value m = (f.units m * den : Nat) * (1 / den / 2 ^ f.scale) := by
    rw [value]
    push_cast
    field_simp
  rw [rounds_iff_of_multiples (by positivity) values (by ring)]
  obtain ⟨below, above⟩ := f.units_floor_le_and_lt (num / den)
  have less : f.floor (num / den) < f.infinity - 1 :=
    f.units_strictMono.lt_iff_lt.mp (below.trans_lt finite)
  rw [nearest.eq_def]
  simp only
  generalize f.floor (num / den) = m at *
  rw [Nat.le_div_iff_mul_le pos] at below
  rw [Nat.div_lt_iff_lt_mul pos] at above
  have step (k : Nat) : f.units k * den < f.units (k + 1) * den :=
    Nat.mul_lt_mul_of_pos_right (f.units_lt_units_succ k) pos
  have next := step (m + 1)
  rw [Nat.add_mul]
  split_ifs with lower
  · rw [min_eq_right (by omega)]
    refine ⟨?_, by omega⟩
    cases m with
    | zero =>
      rw [Nat.zero_sub]
      omega
    | succ k =>
      have own := step k
      rw [Nat.add_sub_cancel]
      omega
  · rw [min_eq_right (by omega), Nat.add_sub_cancel]
    omega

end Format

namespace Floating

variable {f : Format} {x : Floating f} {q : ℚ}

def sign (x : Floating f) : ℚ := if x.negative then -1 else 1

theorem value_eq (x : Floating f) : x.value = x.sign * f.value x.magnitude := rfl

theorem sign_mul_self (x : Floating f) : x.sign * x.sign = 1 := by
  unfold sign
  split <;> norm_num

theorem sign_mul_sign_mul (x : Floating f) (q : ℚ) : x.sign * (x.sign * q) = q := by
  rw [← mul_assoc, sign_mul_self, one_mul]

theorem abs_sign (x : Floating f) : |x.sign| = 1 := by
  unfold sign
  split <;> norm_num

theorem sign_ne_zero (x : Floating f) : x.sign ≠ 0 := by
  rw [← abs_pos, abs_sign]
  exact one_pos

theorem abs_sign_mul (x : Floating f) (q : ℚ) : |x.sign * q| = |q| := by
  rw [abs_mul, abs_sign, one_mul]

/-- Whether a number rounds to a value: to nearest, ties to even. Where the exponents end, infinity
takes the place of the number that would follow. -/
def IsRounding (x : Floating f) (q : ℚ) : Prop :=
  ∀ y : Floating f, y.magnitude ≤ f.infinity → y.value ≠ x.value →
    Nearer q x.value y.value (x.magnitude % 2 = 0)

theorem isRounding_value (x : Floating f) : x.IsRounding x.value := by
  intro y _ other
  left
  rw [sub_self, abs_zero, abs_pos]
  exact sub_ne_zero.mpr other.symm

theorem nearer_sign_iff (x : Floating f) {v w : ℚ} {even : Prop} :
    Nearer (x.sign * q) (x.sign * v) (x.sign * w) even ↔ Nearer q v w even := by
  rw [Nearer, Nearer, ← mul_sub, ← mul_sub, abs_sign_mul, abs_sign_mul]

theorem sign_mul_value (x : Floating f) : x.sign * x.value = f.value x.magnitude := by
  rw [value_eq, sign_mul_sign_mul]

theorem value_ne_zero_iff : x.value ≠ 0 ↔ 0 < x.magnitude := by
  have size : |x.value| = f.value x.magnitude := x.abs_value
  rw [← abs_pos, size, ← f.value_zero, f.value_strictMono.lt_iff_lt]

/-- A pattern of the same sign with another magnitude. -/
theorem exists_withMagnitude (x : Floating f) {n : Nat} (small : n ≤ f.infinity) :
    ∃ y : Floating f, y.magnitude = n ∧ x.sign * y.value = f.value n := by
  have bound : n < 2 ^ (f.width - 1) := small.trans_lt (infinity_lt_two_pow f)
  have magnitude : (ofMagnitude x.negative n : Floating f).magnitude = n := by
    rw [magnitude_ofMagnitude, Nat.mod_eq_of_lt bound]
  refine ⟨ofMagnitude x.negative n, magnitude, ?_⟩
  rw [value_eq, magnitude, sign, sign, negative_ofMagnitude _ bound, ← sign, sign_mul_sign_mul]

/-- Seen from the side of its sign, a value has no other value between its two neighbours. -/
theorem le_or_le_sign_mul_value (x : Floating f) {y : Floating f} (other : y.value ≠ x.value) :
    x.sign * y.value ≤ f.value (x.magnitude - 1) ∨
      f.value (x.magnitude + 1) ≤ x.sign * y.value := by
  have size : |x.sign * y.value| = f.value y.magnitude := by
    rw [abs_sign_mul, abs_value]
    rfl
  have differ : x.sign * y.value ≠ f.value x.magnitude := by
    rw [← sign_mul_value]
    intro same
    exact other (mul_left_cancel₀ x.sign_ne_zero same)
  rcases abs_choice (x.sign * y.value) with same | opposite
  · rw [same] at size
    rw [size] at differ ⊢
    rcases Nat.lt_or_gt_of_ne (mt (congrArg f.value) differ) with less | greater
    · exact .inl (f.value_strictMono.monotone (by omega))
    · exact .inr (f.value_strictMono.monotone (by omega))
  · left
    have own := f.value_nonneg y.magnitude
    have below := f.value_nonneg (x.magnitude - 1)
    linarith

/-- Rounding to a value that is not zero is a matter of its magnitude: values of the other sign are
never nearer. -/
theorem isRounding_iff (pos : 0 < x.magnitude) (finite : x.isFinite) :
    x.IsRounding q ↔ f.Rounds x.magnitude (x.sign * q) := by
  have below : f.value (x.magnitude - 1) < f.value x.magnitude := f.value_strictMono (by omega)
  have above : f.value x.magnitude < f.value (x.magnitude + 1) := f.value_strictMono (by omega)
  have room : x.magnitude < f.infinity := of_decide_eq_true finite
  constructor
  · intro rounding
    have compare {n : Nat} (small : n ≤ f.infinity) (other : f.value n ≠ f.value x.magnitude) :
        Nearer (x.sign * q) (f.value x.magnitude) (f.value n) (x.magnitude % 2 = 0) := by
      obtain ⟨y, magnitude, value⟩ := x.exists_withMagnitude small
      have differ : y.value ≠ x.value := by
        intro same
        rw [same, sign_mul_value] at value
        exact other value.symm
      rw [← value, ← sign_mul_value, nearer_sign_iff]
      exact rounding y (magnitude ▸ small) differ
    exact ⟨(nearer_iff_of_gt below).mp (compare (by omega) below.ne),
      (nearer_iff_of_lt above).mp (compare (by omega) above.ne')⟩
  · intro rounds y _ other
    rw [← x.nearer_sign_iff, sign_mul_value]
    rcases x.le_or_le_sign_mul_value other with less | greater
    · rw [nearer_iff_of_gt (less.trans_lt below)]
      rcases rounds.1 with past | ⟨middle, even⟩
      · exact .inl (by linarith)
      · rcases less.lt_or_eq with beyond | same
        · exact .inl (by linarith)
        · exact .inr ⟨same ▸ middle, even⟩
    · rw [nearer_iff_of_lt (above.trans_le greater)]
      rcases rounds.2 with past | ⟨middle, even⟩
      · exact .inl (by linarith)
      · rcases greater.lt_or_eq with beyond | same
        · exact .inl (by linarith)
        · exact .inr ⟨same ▸ middle, even⟩

/-- A positive ratio in reach rounds to the magnitude that is taken for it. -/
theorem exists_isRounding_ofRatio {num den : Nat} (pos : 0 < den)
    (finite : num * 2 ^ f.scale / den < f.units (f.infinity - 1)) (some : 0 < f.ofRatio num den) :
    ∃ x : Floating f, x.IsRounding (num / den) ∧ x.value = f.value (f.ofRatio num den) := by
  have less : f.ofRatio num den < f.infinity := f.nearest_lt_infinity finite
  have bound : f.ofRatio num den < 2 ^ (f.width - 1) := less.trans (infinity_lt_two_pow f)
  have magnitude : (ofMagnitude false (f.ofRatio num den) : Floating f).magnitude =
      f.ofRatio num den := by
    rw [magnitude_ofMagnitude, Nat.mod_eq_of_lt bound]
  have sign : (ofMagnitude false (f.ofRatio num den) : Floating f).sign = 1 := by
    rw [sign, negative_ofMagnitude _ bound, if_neg (by decide)]
  refine ⟨ofMagnitude false (f.ofRatio num den), ?_, ?_⟩
  · have number : ((num * 2 ^ f.scale : Nat) : ℚ) / den / 2 ^ f.scale = num / den := by
      push_cast
      field_simp
    rw [isRounding_iff (by rwa [magnitude]) (decide_eq_true (by rwa [magnitude])), magnitude, sign,
      one_mul, ← number]
    exact Format.rounds_nearest pos finite
  · rw [value_eq, magnitude, sign, one_mul]

end Floating
end RuntimeMonitor.Number

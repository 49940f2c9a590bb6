import Mathlib
import RuntimeMonitor.Proofs.Number.Shortest

/-!
# The coarsest decimal has the fewest digits

A decimal with fewer digits that rounds to the same value would leave a power of ten between itself
and the coarsest decimal, and that power would be coarser still. So the coarsest decimal has the
fewest digits. The same argument leaves few rivals with as many digits: multiples of the same power
of ten, of which the search took the nearest, and for a single digit those below the power of ten.
-/

namespace RuntimeMonitor.Number

theorem multiple_add (e : Int) (m j : Nat) :
    (m : ℚ) * 10 ^ (e + j) = (m * 10 ^ j : Nat) * 10 ^ e := by
  rw [zpow_add₀ (by norm_num), zpow_natCast]
  push_cast
  ring

/-- A multiple of a power of ten is one of each lesser power too. -/
theorem exists_multiple {e i : Int} (le : e ≤ i) (m : Nat) :
    ∃ a : Nat, (m : ℚ) * 10 ^ i = a * 10 ^ e := by
  obtain ⟨j, rfl⟩ := Int.le.dest le
  exact ⟨_, multiple_add e m j⟩

theorem multiple_injective (e : Int) {a b : Nat} (same : a * (10 : ℚ) ^ e = b * 10 ^ e) : a = b :=
  Nat.cast_injective (mul_right_cancel₀ (by positivity) same)

theorem ten_pow_eq_ten (e : Int) : (10 : ℚ) ^ e = 10 * 10 ^ (e - 1) := by
  rw [← zpow_one_add₀ (by norm_num), add_sub_cancel]

theorem ten_pow_eq_hundred (e : Int) : (10 : ℚ) ^ e = 100 * 10 ^ (e - 2) := by
  rw [ten_pow_eq_ten e, ten_pow_eq_ten (e - 1), sub_sub]
  norm_num [← mul_assoc]

theorem multiple_lt (e : Int) {a b : Nat} (less : a < b) : a * (10 : ℚ) ^ e < b * 10 ^ e :=
  mul_lt_mul_of_pos_right (Nat.cast_lt.mpr less) (by positivity)

theorem multiple_le {i e : Int} (power : i ≤ e) {a b : Nat} (le : a ≤ b) :
    a * (10 : ℚ) ^ i ≤ b * 10 ^ e :=
  mul_le_mul (Nat.cast_le.mpr le) (zpow_le_zpow_right₀ (by norm_num) power) (by positivity)
    (Nat.cast_nonneg b)

theorem Decimal.value_of_one (d : Decimal) (one : d.coefficient = 1) :
    d.value = 10 ^ d.exponent := by
  rw [value, one, Nat.cast_one, one_mul]

theorem le_abs_sub_of_ne {a b : Nat} (step : ℚ) (other : a ≠ b) :
    step ≤ |a * step - b * step| := by
  have apart : (1 : ℚ) ≤ |(a : ℚ) - b| := by
    exact_mod_cast Int.one_le_abs (sub_ne_zero.mpr (Nat.cast_injective.ne other))
  calc step
    _ ≤ |step| := le_abs_self step
    _ ≤ |(a : ℚ) - b| * |step| := le_mul_of_one_le_left (abs_nonneg _) apart
    _ = |a * step - b * step| := by rw [← abs_mul, sub_mul]

/-- A multiple within half a step of a number is nearer to it than any other multiple. -/
theorem abs_sub_lt_of_ne {a b : Nat} {step v : ℚ} (near : 2 * |v - b * step| < step)
    (other : a * step ≠ b * step) : |v - b * step| < |v - a * step| := by
  have differ : a ≠ b := by
    rintro rfl
    exact other rfl
  have apart := le_abs_sub_of_ne step differ
  have triangle := abs_sub_le (a * step) v (b * step)
  rw [abs_sub_comm _ v] at triangle
  linarith

/-- Whether a magnitude is the middle between an even multiple of a power of ten and the next
multiple, where both round to it and no multiple of the next power of ten does. -/
def Format.Halfway (f : Format) (n : Nat) : Prop :=
  ∃ (c : Nat) (e : Int), Even c ∧ 2 * f.value n = c * 10 ^ e + (c + 1 : Nat) * 10 ^ e ∧
    f.Rounds n (c * 10 ^ e) ∧ f.Rounds n ((c + 1 : Nat) * 10 ^ e) ∧
    ∀ m : Nat, ¬ f.Rounds n (m * 10 ^ (e + 1))

/-- Whether a decimal of one digit is within half of the next digit of a magnitude. Below the power
of ten the decimals of two digits lie ten times as close, and so has this one. -/
@[mk_iff]
structure Format.Near (f : Format) (n : Nat) (d : Decimal) : Prop where
  next : 2 * |f.value n - d.value| < 10 ^ (d.exponent - 1)
  below : f.value n < 10 ^ d.exponent → 2 * |f.value n - d.value| < 10 ^ (d.exponent - 2)

instance (f : Format) (n : Nat) (d : Decimal) : Decidable (f.Near n d) :=
  decidable_of_iff _ (f.near_iff n d).symm

namespace Format.IsShortest

variable {f : Format} {n m j k : Nat} {d : Decimal} {i : Int}

theorem coefficient_pos (h : f.IsShortest n d) (pos : 0 < n) : 0 < d.coefficient := by
  have value : (0 : ℚ) < d.coefficient * 10 ^ d.exponent := h.rounds.pos pos
  exact Nat.cast_pos.mp (pos_of_mul_pos_left value (by positivity))

theorem exponent_le (h : f.IsShortest n d) (rounds : f.Rounds n (m * 10 ^ i)) : i ≤ d.exponent := by
  by_contra above
  exact h.coarsest m i (not_le.mp above) rounds

/-- A decimal that ends below a power of ten which the coarsest decimal reaches leaves that power
between them. The power has to be the one of the coarsest decimal. -/
theorem eq_zero_of_below (h : f.IsShortest n d) (many : 10 ^ j ≤ d.coefficient)
    (rounds : f.Rounds n (m * 10 ^ i)) (few : m < 10 ^ k) (ends : i + k ≤ d.exponent + j) :
    j = 0 ∧ m * (10 : ℚ) ^ i < 10 ^ d.exponent ∧ f.Rounds n (10 ^ d.exponent) := by
  have less : m * (10 : ℚ) ^ i < 10 ^ (d.exponent + j) := by
    calc (m : ℚ) * 10 ^ i
      _ < 10 ^ k * 10 ^ i := mul_lt_mul_of_pos_right (by exact_mod_cast few) (by positivity)
      _ = 10 ^ (i + k) := by rw [zpow_add₀ (by norm_num), zpow_natCast, mul_comm]
      _ ≤ 10 ^ (d.exponent + j) := zpow_le_zpow_right₀ (by norm_num) ends
  have least : (10 : ℚ) ^ (d.exponent + j) ≤ d.value := by
    rw [zpow_add₀ (by norm_num), zpow_natCast, mul_comm, Decimal.value]
    exact mul_le_mul_of_nonneg_right (by exact_mod_cast many) (by positivity)
  have between : f.Rounds n (10 ^ (d.exponent + j)) := rounds.between h.rounds less.le least
  have zero : j = 0 := by
    by_contra some
    refine h.coarsest 1 (d.exponent + j) (by omega) ?_
    rwa [Nat.cast_one, one_mul]
  subst zero
  rw [Nat.cast_zero, add_zero] at less between
  exact ⟨rfl, less, between⟩

/-- A decimal that rounds to the magnitude has at least as many digits as the coarsest one. -/
theorem coefficient_lt (h : f.IsShortest n d) (pos : 0 < n) (rounds : f.Rounds n (m * 10 ^ i))
    (few : m < 10 ^ k) : d.coefficient < 10 ^ k := by
  by_contra many
  obtain ⟨rfl, -, -⟩ := h.eq_zero_of_below (not_lt.mp many) rounds few
    (add_le_add_left (h.exponent_le rounds) _)
  have zero : m = 0 := by omega
  rw [zero, Nat.cast_zero, zero_mul] at rounds
  exact (rounds.pos pos).false

theorem ten_pow_le_value (h : f.IsShortest n d) (pos : 0 < n) : 10 ^ d.exponent ≤ d.value := by
  have one : ((1 : Nat) : ℚ) * 10 ^ d.exponent ≤ d.value :=
    multiple_le le_rfl (h.coefficient_pos pos)
  rwa [Nat.cast_one, one_mul] at one

/-- Below the power of ten nothing is as near as the coarsest decimal, unless the value is below it
too. -/
theorem add_lt_of_lt_ten_pow (h : f.IsShortest n d) (pos : 0 < n) {q : ℚ}
    (power : f.Rounds n (10 ^ d.exponent)) (less : q < 10 ^ d.exponent)
    (reached : d.coefficient ≠ 1 ∨ 10 ^ d.exponent ≤ f.value n) :
    d.value + q < 2 * f.value n := by
  by_cases one : d.coefficient = 1
  · have value := d.value_of_one one
    have least := reached.resolve_left (not_not.mpr one)
    linarith
  · have many : 1 < d.coefficient := by
      have some := h.coefficient_pos pos
      omega
    have greater : ((1 : Nat) : ℚ) * 10 ^ d.exponent < d.value := multiple_lt _ many
    have nearer := h.nearest 1 (by rwa [Nat.cast_one, one_mul]) (Ne.symm one)
    rw [nearer_iff_of_gt greater, Nat.cast_one, one_mul] at nearer
    rcases nearer with past | ⟨middle, -⟩ <;> linarith

/-- Of the decimals with as few digits the coarsest one is nearest, the greater one of two equally
near. A lone one has to be nearer than the nine below it. -/
theorem nearer_of_few (h : f.IsShortest n d) (pos : 0 < n) (many : 10 ^ j ≤ d.coefficient)
    (rounds : f.Rounds n (m * 10 ^ i)) (few : m < 10 ^ (j + 1)) (other : m * 10 ^ i ≠ d.value)
    (one : d.coefficient = 1 → 19 * 10 ^ (d.exponent - 1) < 2 * f.value n) :
    Nearer (f.value n) d.value (m * 10 ^ i) (m * (10 : ℚ) ^ i < d.value) := by
  rcases (h.exponent_le rounds).eq_or_lt with rfl | below
  · have differ : m ≠ d.coefficient := by
      rintro rfl
      exact other rfl
    rcases h.nearest m rounds differ with closer | ⟨same, less⟩
    · exact .inl closer
    · exact .inr ⟨same, multiple_lt _ less⟩
  · obtain ⟨rfl, less, power⟩ := h.eq_zero_of_below many rounds few (by omega)
    rw [nearer_iff_of_gt (less.trans_le (h.ten_pow_le_value pos))]
    left
    by_cases lone : d.coefficient = 1
    · have value := d.value_of_one lone
      have nine : m * (10 : ℚ) ^ i ≤ 9 * 10 ^ (d.exponent - 1) :=
        multiple_le (b := 9) (by omega) (Nat.le_of_lt_succ few)
      have ten := ten_pow_eq_ten d.exponent
      linarith [one lone]
    · exact h.add_lt_of_lt_ten_pow pos power less (.inl lone)

/-- A decimal near the value is nearer than any other of two digits. -/
theorem nearer_of_near (h : f.IsShortest n d) (pos : 0 < n) (near : f.Near n d)
    (rounds : f.Rounds n (m * 10 ^ i)) (few : m < 10 ^ 2) (other : m * 10 ^ i ≠ d.value) :
    |f.value n - d.value| < |f.value n - m * 10 ^ i| := by
  obtain ⟨near, low⟩ := near
  rcases lt_or_ge i (d.exponent - 1) with below | same
  · obtain ⟨-, less, power⟩ := h.eq_zero_of_below (j := 0) (h.coefficient_pos pos) rounds few
      (by rw [Nat.cast_ofNat, Nat.cast_zero]; omega)
    have least := h.ten_pow_le_value pos
    have sum : d.value + m * 10 ^ i < 2 * f.value n := by
      by_cases reached : 10 ^ d.exponent ≤ f.value n
      · exact h.add_lt_of_lt_ten_pow pos power less (.inr reached)
      · have hundred := ten_pow_eq_hundred d.exponent
        have most : m * (10 : ℚ) ^ i ≤ 99 * 10 ^ (d.exponent - 2) :=
          multiple_le (b := 99) (by omega) (Nat.le_of_lt_succ few)
        have within := low (not_le.mp reached)
        have distance := neg_abs_le (f.value n - d.value)
        linarith
    have nearer : Nearer (f.value n) d.value (m * 10 ^ i) False :=
      (nearer_iff_of_gt (less.trans_le least)).mpr (.inl (by linarith))
    exact nearer.resolve_right fun tie => tie.2
  · obtain ⟨a, rival⟩ := exists_multiple same m
    obtain ⟨b, own⟩ := exists_multiple (Int.sub_le_self d.exponent zero_le_one) d.coefficient
    rw [rival] at other ⊢
    rw [Decimal.value, own] at other near ⊢
    exact abs_sub_lt_of_ne near other

section Large

variable (h : f.IsShortest n d) (large : 100 < n) (full : 100 ≤ 2 ^ f.fractionBits)

include h large full

/-- A lone digit of a great magnitude is near it. -/
theorem near_of_large (few : d.coefficient < 10) : f.Near n d := by
  have within := h.rounds.mul_abs_sub_le large full
  have most : d.value ≤ 9 * 10 ^ d.exponent := multiple_le (b := 9) le_rfl (Nat.le_of_lt_succ few)
  have ten := ten_pow_eq_ten d.exponent
  have hundred := ten_pow_eq_hundred d.exponent
  have positive : (0 : ℚ) < 10 ^ (d.exponent - 1) := by positivity
  have distance := le_abs_self (f.value n - d.value)
  push_cast at within
  constructor
  · linarith
  · intro low
    linarith

/-- A power of ten is nearer to a great magnitude than nine tenths of it. -/
theorem nine_tenths_lt_of_large (one : d.coefficient = 1) :
    19 * 10 ^ (d.exponent - 1) < 2 * f.value n := by
  have within := h.rounds.mul_abs_sub_le large full
  have value := d.value_of_one one
  have ten := ten_pow_eq_ten d.exponent
  have positive : (0 : ℚ) < 10 ^ (d.exponent - 1) := by positivity
  have distance := neg_abs_le (f.value n - d.value)
  push_cast at within
  linarith

end Large

/-- Between two multiples of the power that is found the upper one is taken. -/
theorem eq_of_middle (h : f.IsShortest n d) {c : Nat} {e : Int}
    (middle : 2 * f.value n = c * 10 ^ e + (c + 1 : Nat) * 10 ^ e)
    (lower : f.Rounds n (c * 10 ^ e)) (upper : f.Rounds n ((c + 1 : Nat) * 10 ^ e))
    (coarse : ∀ m : Nat, ¬ f.Rounds n (m * 10 ^ (e + 1))) : d = ⟨c + 1, e⟩ := by
  have power : e = d.exponent := by
    refine (h.exponent_le lower).antisymm (not_lt.mp fun less => ?_)
    obtain ⟨a, own⟩ := exists_multiple (Int.add_one_le_of_lt less) d.coefficient
    exact coarse a (own ▸ h.rounds)
  subst power
  have coefficient : d.coefficient = c + 1 := by
    rcases Nat.lt_trichotomy d.coefficient (c + 1) with less | same | greater
    · have nearer := h.nearest (c + 1) upper less.ne'
      rw [Decimal.value, nearer_iff_of_lt (multiple_lt _ less)] at nearer
      have most := multiple_le (le_refl d.exponent) (Nat.le_of_lt_succ less)
      rcases nearer with below | ⟨-, above⟩
      · linarith
      · omega
    · exact same
    · have nearer := h.nearest c lower (by omega)
      rw [Decimal.value, nearer_iff_of_gt (multiple_lt _ (by omega))] at nearer
      have least := multiple_lt d.exponent greater
      rcases nearer with past | ⟨same, -⟩ <;> linarith
  rw [← coefficient]

/-- A tie that leaves an odd multiple in the upper place makes the value a halfway one. -/
theorem halfway_of_tie (h : f.IsShortest n d) (odd : ¬ Even d.coefficient)
    (less : m < d.coefficient) (rounds : f.Rounds n (m * 10 ^ d.exponent))
    (tie : |f.value n - d.value| = |f.value n - m * 10 ^ d.exponent|) : f.Halfway n := by
  obtain ⟨c, succ⟩ := Nat.exists_eq_succ_of_ne_zero (Nat.ne_zero_of_lt less)
  have lower : f.Rounds n (c * 10 ^ d.exponent) :=
    rounds.between h.rounds (multiple_le le_rfl (by omega)) (multiple_le le_rfl (by omega))
  have middle : 2 * f.value n = c * 10 ^ d.exponent + (c + 1 : Nat) * 10 ^ d.exponent := by
    have nearer := h.nearest c lower (by omega)
    rw [Decimal.value, nearer_iff_of_gt (multiple_lt _ (by omega))] at nearer
    have least : m * (10 : ℚ) ^ d.exponent ≤ c * 10 ^ d.exponent :=
      multiple_le le_rfl (by omega)
    have below := multiple_lt d.exponent less
    rw [Decimal.value] at tie
    rw [← Nat.succ_eq_add_one, ← succ]
    rcases abs_eq_abs.mp tie with same | opposite
    · linarith
    · rcases nearer with past | ⟨same, -⟩ <;> linarith
  refine ⟨c, d.exponent, ?_, middle, lower, ?_, fun m => h.coarsest m _ (by omega)⟩
  · rwa [succ, Nat.succ_eq_add_one, Nat.even_add_one, not_not] at odd
  · rw [← Nat.succ_eq_add_one, ← succ]
    exact h.rounds

/-- A halfway value is told by the coarsest decimal. -/
theorem halfway_iff (h : f.IsShortest n d) (pos : 0 < n) :
    f.Halfway n ↔ ¬ Even d.coefficient ∧
      f.Rounds n ((d.coefficient - 1 : Nat) * 10 ^ d.exponent) ∧
      2 * f.value n = (d.coefficient - 1 : Nat) * 10 ^ d.exponent + d.value := by
  constructor
  · rintro ⟨c, e, even, middle, lower, upper, coarse⟩
    obtain rfl := h.eq_of_middle middle lower upper coarse
    exact ⟨by rwa [Nat.even_add_one, not_not], lower, middle⟩
  · rintro ⟨odd, lower, middle⟩
    have less : d.coefficient - 1 < d.coefficient := Nat.sub_lt (h.coefficient_pos pos) one_pos
    exact h.halfway_of_tie odd less lower (abs_eq_abs.mpr (.inr (by linarith)))

end Format.IsShortest
end RuntimeMonitor.Number

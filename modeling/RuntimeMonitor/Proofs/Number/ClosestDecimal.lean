import Mathlib
import RuntimeMonitor.Proofs.Number.FewestDigits

/-!
# The closest decimal of a value

A decimal stands for a value if it rounds to it. How many digits it may have and which of two
equally close ones is taken is a matter of the rule. The coarsest decimal is the closest of those
with the fewest digits when the greater one of two is taken. When the one that ends in an even digit
is taken it is the closest one unless the value is halfway between an even and an odd one.
-/

namespace RuntimeMonitor.Number

/-- Whether a number has at most `k` significant digits. -/
def HasDigits (k : Nat) (q : ℚ) : Prop := ∃ (c : Nat) (e : Int), c < 10 ^ k ∧ |q| = c * 10 ^ e

/-- Whether a number is written with at most `k` digits of which the last is even. -/
def EndsEven (k : Nat) (q : ℚ) : Prop :=
  ∃ (c : Nat) (e : Int), c < 10 ^ k ∧ Even c ∧ |q| = c * 10 ^ e

/-- Whether a decimal of two digits, not a power of ten, rounds to a magnitude and is within half of
its last digit. -/
@[mk_iff]
structure Format.Tight (f : Format) (n : Nat) (r : Decimal) : Prop where
  many : 10 < r.coefficient
  few : r.coefficient < 10 ^ 2
  rounds : f.Rounds n r.value
  near : 2 * |f.value n - r.value| < 10 ^ r.exponent

instance (f : Format) (n : Nat) (r : Decimal) : Decidable (f.Tight n r) :=
  decidable_of_iff _ (f.tight_iff n r).symm

/-- A decimal within half of its second digit is nearer than any other of two digits. -/
theorem Format.Tight.nearer {f : Format} {n m : Nat} {i : Int} {r : Decimal} (h : f.Tight n r)
    (few : m < 10 ^ 2) (other : m * 10 ^ i ≠ r.value) :
    |f.value n - r.value| < |f.value n - m * 10 ^ i| := by
  have near := h.near
  rcases lt_or_ge i r.exponent with below | same
  · have least : 11 * 10 ^ r.exponent ≤ r.value := multiple_le (a := 11) le_rfl h.many
    have most : m * (10 : ℚ) ^ i ≤ 99 * 10 ^ (r.exponent - 1) :=
      multiple_le (b := 99) (by omega) (Nat.le_of_lt_succ few)
    have ten := ten_pow_eq_ten r.exponent
    have positive : (0 : ℚ) < 10 ^ (r.exponent - 1) := by positivity
    have distance := neg_abs_le (f.value n - r.value)
    have rival := le_abs_self (f.value n - m * 10 ^ i)
    linarith
  · obtain ⟨a, rival⟩ := exists_multiple same m
    rw [rival] at other ⊢
    exact abs_sub_lt_of_ne near other

/-- An odd coefficient of full length leaves no other way of writing the number. -/
theorem not_endsEven {c k : Nat} (odd : ¬ Even c) (many : 10 ^ k ≤ c) {q : ℚ} {e : Int}
    (number : |q| = c * 10 ^ e) : ¬ EndsEven (k + 1) q := by
  rintro ⟨b, i, few, even, same⟩
  rw [number] at same
  rcases lt_trichotomy i e with less | rfl | greater
  · obtain ⟨j, rfl⟩ := Int.lt.dest less
    rw [multiple_add] at same
    have long : 10 ^ (k + 1) ≤ b := by
      rw [← multiple_injective i same, Nat.pow_succ]
      exact Nat.mul_le_mul many (Nat.le_self_pow (Nat.succ_ne_zero j) 10)
    omega
  · exact odd (multiple_injective i same ▸ even)
  · obtain ⟨j, rfl⟩ := Int.lt.dest greater
    rw [multiple_add] at same
    exact odd (multiple_injective e same ▸ even.mul_right _)

namespace Floating

variable {f : Format} {x : Floating f} {d : Decimal} {k : Nat} {q r : ℚ}

/-- Whether `k` digits are needed for a decimal that rounds to the value, and enough. -/
def FewestDigits (x : Floating f) (k : Nat) : Prop :=
  IsLeast {j | ∃ r, HasDigits j r ∧ x.IsRounding r} k

/-- Whether no other decimal of at most `k` digits that rounds to the value is closer to it. An
equally close one has to leave the place to this one. -/
structure IsClosest (x : Floating f) (k : Nat) (wins : ℚ → ℚ → Prop) (q : ℚ) : Prop where
  hasDigits : HasDigits k q
  isRounding : x.IsRounding q
  nearer : ∀ r, HasDigits k r → x.IsRounding r → r ≠ q → Nearer x.value q r (wins q r)

theorem hasDigits_and_isRounding_iff (pos : 0 < x.magnitude) (finite : x.isFinite) :
    HasDigits k r ∧ x.IsRounding r ↔
      ∃ (m : Nat) (i : Int), m < 10 ^ k ∧ f.Rounds x.magnitude (m * 10 ^ i) ∧
        r = x.sign * (m * 10 ^ i) := by
  rw [isRounding_iff pos finite]
  constructor
  · rintro ⟨⟨m, i, few, size⟩, rounds⟩
    have unsigned : x.sign * r = m * 10 ^ i := by
      rw [← size, ← abs_of_nonneg rounds.nonneg, abs_sign_mul]
    refine ⟨m, i, few, unsigned ▸ rounds, ?_⟩
    rw [← unsigned, sign_mul_sign_mul]
  · rintro ⟨m, i, few, rounds, rfl⟩
    refine ⟨⟨m, i, few, ?_⟩, ?_⟩
    · rw [abs_sign_mul, abs_of_nonneg rounds.nonneg]
    · rwa [sign_mul_sign_mul]

theorem isRounding_sign_mul_iff (pos : 0 < x.magnitude) (finite : x.isFinite) :
    x.IsRounding (x.sign * q) ↔ f.Rounds x.magnitude q := by
  rw [isRounding_iff pos finite, sign_mul_sign_mul]

theorem hasDigits_sign_mul (few : d.coefficient < 10 ^ k) : HasDigits k (x.sign * d.value) := by
  refine ⟨d.coefficient, d.exponent, few, ?_⟩
  rw [abs_sign_mul, Decimal.value, abs_of_nonneg (by positivity)]

section Tight

variable {r : Decimal} (pos : 0 < x.magnitude) (finite : x.isFinite)
  (tight : f.Tight x.magnitude r)

include pos finite tight

theorem isClosest_two_of_tight (wins : ℚ → ℚ → Prop) : x.IsClosest 2 wins (x.sign * r.value) where
  hasDigits := hasDigits_sign_mul tight.few
  isRounding := (isRounding_sign_mul_iff pos finite).mpr tight.rounds
  nearer := by
    intro q digits rounding other
    obtain ⟨m, i, few, -, rfl⟩ :=
      (hasDigits_and_isRounding_iff pos finite).mp ⟨digits, rounding⟩
    rw [value_eq, nearer_sign_iff]
    exact .inl (tight.nearer few fun same => other (same ▸ rfl))

theorem not_isClosest_two_of_tight (few : d.coefficient < 10 ^ 2) (other : r.value ≠ d.value)
    (wins : ℚ → ℚ → Prop) : ¬ x.IsClosest 2 wins (x.sign * d.value) := by
  intro closest
  have less := tight.nearer (i := d.exponent) few other.symm
  have nearer := closest.nearer _ (hasDigits_sign_mul tight.few)
    ((isRounding_sign_mul_iff pos finite).mpr tight.rounds)
    ((mul_right_injective₀ x.sign_ne_zero).ne other)
  rw [value_eq, nearer_sign_iff] at nearer
  rcases nearer with more | ⟨same, -⟩
  · exact less.asymm more
  · exact less.ne' same

end Tight

section Shortest

variable (pos : 0 < x.magnitude) (finite : x.isFinite) (h : f.IsShortest x.magnitude d)

include pos finite h

/-- The coarsest decimal is closest if it is closer to the magnitude than all that round to it. -/
theorem isClosest_of_multiples {wins : ℚ → ℚ → Prop} (few : d.coefficient < 10 ^ k)
    (nearer : ∀ (m : Nat) (i : Int), m < 10 ^ k → f.Rounds x.magnitude (m * 10 ^ i) →
      m * 10 ^ i ≠ d.value →
        Nearer (f.value x.magnitude) d.value (m * 10 ^ i)
          (wins (x.sign * d.value) (x.sign * (m * 10 ^ i)))) :
    x.IsClosest k wins (x.sign * d.value) where
  hasDigits := hasDigits_sign_mul few
  isRounding := (isRounding_sign_mul_iff pos finite).mpr h.rounds
  nearer := by
    intro r digits rounding other
    obtain ⟨m, i, few, rounds, rfl⟩ :=
      (hasDigits_and_isRounding_iff pos finite).mp ⟨digits, rounding⟩
    rw [value_eq, nearer_sign_iff]
    exact nearer m i few rounds fun same => other (same ▸ rfl)

theorem fewestDigits_succ (many : 10 ^ k ≤ d.coefficient) (few : d.coefficient < 10 ^ (k + 1)) :
    x.FewestDigits (k + 1) := by
  refine ⟨⟨x.sign * d.value, hasDigits_sign_mul few, ?_⟩, ?_⟩
  · exact (isRounding_sign_mul_iff pos finite).mpr h.rounds
  · rintro j ⟨r, digits, rounding⟩
    obtain ⟨m, i, few, rounds, -⟩ :=
      (hasDigits_and_isRounding_iff pos finite).mp ⟨digits, rounding⟩
    have reached : 10 ^ k < 10 ^ j := many.trans_lt (h.coefficient_lt pos rounds few)
    exact (Nat.pow_lt_pow_iff_right (by decide)).mp reached

/-- The coarsest decimal is the closest one of the fewest digits, the greater one of two. -/
theorem isClosest_greater (many : 10 ^ k ≤ d.coefficient) (few : d.coefficient < 10 ^ (k + 1))
    (one : d.coefficient = 1 → 19 * 10 ^ (d.exponent - 1) < 2 * f.value x.magnitude) :
    x.IsClosest (k + 1) (fun q r => |r| < |q|) (x.sign * d.value) := by
  refine isClosest_of_multiples pos finite h few ?_
  intro m i few rounds other
  rw [abs_sign_mul, abs_sign_mul, abs_of_nonneg rounds.nonneg, abs_of_nonneg h.rounds.nonneg]
  exact h.nearer_of_few pos many rounds few other one

/-- The coarsest decimal of several digits is the closest one with an even last digit unless the
value is halfway between an even one and itself. -/
theorem isClosest_even_iff (many : 10 ^ (k + 1) ≤ d.coefficient)
    (few : d.coefficient < 10 ^ (k + 2)) :
    x.IsClosest (k + 2) (fun q _ => EndsEven (k + 2) q) (x.sign * d.value) ↔
      ¬ f.Halfway x.magnitude := by
  have size : |x.sign * d.value| = d.coefficient * 10 ^ d.exponent := by
    rw [abs_sign_mul, abs_of_nonneg h.rounds.nonneg, Decimal.value]
  constructor
  · rintro closest ⟨c, e, even, middle, lower, upper, coarse⟩
    obtain rfl := h.eq_of_middle middle lower upper coarse
    have less : (Decimal.mk c e).value < (Decimal.mk (c + 1) e).value :=
      multiple_lt e (Nat.lt_succ_self c)
    have nearer := closest.nearer _ (hasDigits_sign_mul (d := ⟨c, e⟩) (Nat.lt_of_succ_lt few))
      ((isRounding_sign_mul_iff pos finite).mpr lower)
      ((mul_right_injective₀ x.sign_ne_zero).ne less.ne)
    rw [value_eq, nearer_sign_iff, nearer_iff_of_gt less] at nearer
    rcases nearer with past | ⟨-, last⟩
    · rw [middle, add_comm] at past
      exact past.false
    · exact not_endsEven (by rwa [Nat.even_add_one, not_not]) many size last
  · intro noMiddle
    refine isClosest_of_multiples pos finite h few ?_
    intro m i less rounds other
    rcases (h.exponent_le rounds).eq_or_lt with rfl | below
    · have differ : m ≠ d.coefficient := by
        rintro rfl
        exact other rfl
      rcases h.nearest m rounds differ with closer | ⟨tie, lower⟩
      · exact .inl closer
      · refine .inr ⟨tie, ?_⟩
        by_cases even : Even d.coefficient
        · exact ⟨_, _, few, even, size⟩
        · exact absurd (h.halfway_of_tie even lower rounds tie) noMiddle
    · obtain ⟨none, -, -⟩ := h.eq_zero_of_below many rounds less (by omega)
      exact absurd none (Nat.succ_ne_zero k)

omit pos finite in
/-- A halfway value of a lone digit is written exactly with the digit five behind. -/
theorem not_isClosest_two_of_halfway (few : d.coefficient < 10) (halfway : f.Halfway x.magnitude)
    (wins : ℚ → ℚ → Prop) : ¬ x.IsClosest 2 wins (x.sign * d.value) := by
  obtain ⟨c, e, -, middle, lower, upper, coarse⟩ := halfway
  obtain rfl := h.eq_of_middle middle lower upper coarse
  intro closest
  have exact : f.value x.magnitude = (Decimal.mk (10 * c + 5) (e - 1)).value := by
    rw [Decimal.value]
    rw [ten_pow_eq_ten] at middle
    push_cast at middle ⊢
    linarith
  have less : f.value x.magnitude < (Decimal.mk (c + 1) e).value := by
    have step : (Decimal.mk c e).value < (Decimal.mk (c + 1) e).value :=
      multiple_lt e (Nat.lt_succ_self c)
    change 2 * f.value x.magnitude = (Decimal.mk c e).value + (Decimal.mk (c + 1) e).value at middle
    linarith
  have digits : HasDigits 2 (x.sign * f.value x.magnitude) := by
    rw [exact]
    exact hasDigits_sign_mul (by dsimp only at few ⊢; omega)
  have nearer := closest.nearer _ digits x.isRounding_value
    ((mul_right_injective₀ x.sign_ne_zero).ne less.ne)
  rw [value_eq, nearer_sign_iff, nearer_iff_of_gt less] at nearer
  rcases nearer with past | ⟨same, -⟩ <;> linarith

/-- A lone digit next to the value is closest among the decimals of two digits. -/
theorem isClosest_two_of_near (few : d.coefficient < 10)
    (near : f.Near x.magnitude d) (wins : ℚ → ℚ → Prop) :
    x.IsClosest 2 wins (x.sign * d.value) :=
  isClosest_of_multiples pos finite h (by omega) fun _ _ less rounds other =>
    .inl (h.nearer_of_near pos near rounds less other)

end Shortest

end Floating
end RuntimeMonitor.Number

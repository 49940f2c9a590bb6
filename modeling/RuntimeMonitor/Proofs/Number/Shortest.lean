import Mathlib
import RuntimeMonitor.Proofs.Number.NumeralText
import RuntimeMonitor.Proofs.Number.Reading

/-!
# The search finds the coarsest decimal

The search walks down the powers of ten and stops at the first that has a multiple among the numbers
that round to a value. Nothing is missing between those numbers and the value is one of them, so a
multiple next to the value is among them as soon as any multiple is: no multiple of a greater power
rounds to the value. Of the multiples of the power that is found the nearest one is taken, the
greater one of two equally near.
-/

namespace RuntimeMonitor.Number

namespace Roundings

variable {r : Roundings} {tie : Tie} {step c m : Nat}

/-- Whether the value lies between the two middles. -/
def Inside (r : Roundings) : Prop := r.low < 2 * r.value ∧ 2 * r.value < r.high

theorem Inside.contains_between {p q : Nat} (inside : r.Inside) (contains : r.Contains p)
    (between : p ≤ q ∧ q ≤ r.value ∨ r.value ≤ q ∧ q ≤ p) : r.Contains q := by
  obtain ⟨low, high⟩ := inside
  by_cases own : q = p
  · exact own ▸ contains
  · left
    rcases contains with within | ⟨-, edge⟩ <;> omega

/-- A multiple that rounds to the value has the neighbour of the value on its side round to it. -/
theorem Inside.contains_neighbour (inside : r.Inside) (pos : 0 < step)
    (contains : r.Contains (m * step)) :
    r.Contains (r.value / step * step) ∨ r.Contains ((r.value / step + 1) * step) := by
  have below : r.value / step * step ≤ r.value := Nat.div_mul_le_self _ _
  have above : r.value < (r.value / step + 1) * step := by
    rw [Nat.mul_comm]
    exact Nat.lt_mul_div_succ _ pos
  rcases Nat.lt_or_ge (r.value / step) m with greater | less
  · exact .inr (inside.contains_between contains
      (.inr ⟨above.le, Nat.mul_le_mul_right step greater⟩))
  · exact .inl (inside.contains_between contains (.inl ⟨Nat.mul_le_mul_right step less, below⟩))

theorem not_contains_of_multiple?_eq_none (inside : r.Inside) (pos : 0 < step)
    (nothing : r.multiple? tie step = none) : ¬ r.Contains (m * step) := by
  intro contains
  rw [multiple?.eq_def] at nothing
  simp only at nothing
  rcases inside.contains_neighbour pos contains with near | near
  · rw [if_pos near] at nothing
    cases tie <;> split_ifs at nothing
  · rw [if_pos near] at nothing
    cases tie <;> split_ifs at nothing

/-- One of the two neighbours of the value is found; the lower one only if the value is nearer to it
or the upper one is out of reach, and the other way round. -/
theorem multiple?_up_eq_some (found : r.multiple? .up step = some c) :
    c = r.value / step ∧
        (r.Contains ((r.value / step + 1) * step) → 2 * (r.value % step) < step) ∨
      c = r.value / step + 1 ∧
        (r.Contains (r.value / step * step) → step ≤ 2 * (r.value % step)) := by
  rw [multiple?.eq_def] at found
  simp only at found
  split_ifs at found with below above less greater above <;>
    simp only [Option.some_inj] at found
  · exact .inl ⟨found.symm, fun _ => less⟩
  · exact .inr ⟨found.symm, fun _ => greater.le⟩
  · exact .inr ⟨found.symm, fun _ => Nat.le_of_not_lt less⟩
  · exact .inl ⟨found.symm, fun h => absurd h above⟩
  · exact .inr ⟨found.symm, fun h => absurd h below⟩

/-- Whether `c` multiples of `step` are nearest to the value, or the greatest of two nearest: the
middle to a lesser multiple is at most the value, the middle to a greater one is above it. -/
def Nearest (r : Roundings) (step c : Nat) : Prop :=
  ∀ m, r.Contains (m * step) →
    (m < c → (m + c) * step ≤ 2 * r.value) ∧ (c < m → 2 * r.value < (m + c) * step)

theorem nearest_of_multiple?_up (pos : 0 < step) (found : r.multiple? .up step = some c) :
    r.Nearest step c := by
  intro m contains
  have whole : r.value / step * step + r.value % step = r.value := Nat.div_add_mod' _ _
  have rest : r.value % step < step := Nat.mod_lt _ pos
  have outcome := multiple?_up_eq_some found
  generalize r.value / step = b at *
  -- Two multiples on the same side of the value have their middle there.
  have lower {k : Nat} (less : k ≤ b + b) : k * step ≤ 2 * r.value := by
    have bound : k * step ≤ (b + b) * step := Nat.mul_le_mul_right step less
    rw [Nat.add_mul] at bound
    omega
  have upper {k : Nat} (greater : b + b + 2 ≤ k) : 2 * r.value < k * step := by
    have bound : (b + b + 2) * step ≤ k * step := Nat.mul_le_mul_right step greater
    rw [Nat.add_mul, Nat.add_mul] at bound
    omega
  have middle : (b + b + 1) * step = 2 * (b * step) + step := by ring
  rcases outcome with ⟨rfl, reach⟩ | ⟨rfl, reach⟩
  · refine ⟨fun less => lower (by omega), fun greater => ?_⟩
    rcases Nat.eq_or_lt_of_le greater with rfl | beyond
    · have nearer := reach contains
      rw [Nat.succ_add, middle]
      omega
    · exact upper (by omega)
  · refine ⟨fun less => ?_, fun greater => upper (by omega)⟩
    rcases Nat.eq_or_lt_of_le (Nat.le_of_lt_succ less) with rfl | beyond
    · have nearer := reach contains
      rw [← Nat.add_assoc, middle]
      omega
    · exact lower (by omega)

theorem Nearest.nearer {unit : ℚ} (nearest : r.Nearest step c) (stepPos : 0 < step)
    (unitPos : 0 < unit) (contains : r.Contains (m * step)) (other : m ≠ c) :
    Nearer (r.value * unit) ((c * step : Nat) * unit) ((m * step : Nat) * unit) (m < c) := by
  obtain ⟨lower, upper⟩ := nearest m contains
  have ordered {a b : Nat} (less : a < b) :
      ((a * step : Nat) : ℚ) * unit < (b * step : Nat) * unit :=
    mul_lt_mul_of_pos_right (Nat.cast_lt.mpr (Nat.mul_lt_mul_of_pos_right less stepPos)) unitPos
  have middle : ((c * step : Nat) : ℚ) * unit + (m * step : Nat) * unit =
      ((m + c) * step : Nat) * unit := by
    push_cast
    ring
  have twice : 2 * ((r.value : ℚ) * unit) = (2 * r.value : Nat) * unit := by
    push_cast
    ring
  rcases Nat.lt_or_gt_of_ne other with less | greater
  · rw [nearer_iff_of_gt (ordered less), middle, twice]
    simp only [mul_lt_mul_iff_left₀ unitPos, mul_left_inj' unitPos.ne', Nat.cast_lt, Nat.cast_inj]
    have bound := lower less
    omega
  · rw [nearer_iff_of_lt (ordered greater), middle, twice]
    simp only [mul_lt_mul_iff_left₀ unitPos, Nat.cast_lt]
    exact .inl (upper greater)

theorem nearest_coarsest (power : Nat) :
    r.Nearest (10 ^ (r.coarsest .up power).2) (r.coarsest .up power).1 := by
  induction power with
  | zero =>
    intro m _
    simp only [coarsest, Nat.pow_zero, Nat.mul_one]
    omega
  | succ power ih =>
    rw [coarsest]
    split
    · next c found => exact nearest_of_multiple?_up (Nat.pow_pos (by decide)) found
    · exact ih

theorem not_contains_above_coarsest (inside : r.Inside) {power j : Nat}
    (above : (r.coarsest tie power).2 < j) (reached : j ≤ power) : ¬ r.Contains (m * 10 ^ j) := by
  induction power with
  | zero => exact absurd (above.trans_le reached) (Nat.not_lt_zero _)
  | succ power ih =>
    rw [coarsest] at above
    split at above
    · exact absurd reached (Nat.not_le.mpr above)
    · next nothing =>
      rcases Nat.eq_or_lt_of_le reached with rfl | less
      · exact not_contains_of_multiple?_eq_none inside (Nat.pow_pos (by decide)) nothing
      · exact ih above (Nat.le_of_lt_succ less)

end Roundings

namespace Format

variable {f : Format} {n : Nat}

theorem two_pow_lt_ten_pow {a b x power : Nat} (powers : 2 ^ b < 10 ^ a) (some : x ≠ 0)
    (enough : a * x ≤ power * b) : 2 ^ x < 10 ^ power := by
  refine lt_of_pow_lt_pow_left₀ b (Nat.zero_le _) ?_
  calc (2 ^ x) ^ b
    _ = (2 ^ b) ^ x := pow_right_comm 2 _ _
    _ < (10 ^ a) ^ x := Nat.pow_lt_pow_left powers some
    _ = 10 ^ (a * x) := (pow_mul 10 _ _).symm
    _ ≤ 10 ^ (power * b) := Nat.pow_le_pow_right (by decide) enough
    _ = (10 ^ power) ^ b := pow_mul 10 _ _

/-- The first power of ten that is tried is above the value. -/
theorem lt_ten_pow_powerAbove (v : Nat) : v < 10 ^ powerAbove v := by
  have enough : 1234 * (v.log2 + 1) ≤ powerAbove v * 4099 := by
    rw [powerAbove]
    omega
  exact Nat.lt_log2_self.trans
    (two_pow_lt_ten_pow (by decide +kernel) (Nat.succ_ne_zero _) enough)

theorem inside_roundings (pos : 0 < n) : (f.roundings n).Inside := by
  have below : f.decimalUnits (n - 1) < f.decimalUnits n := f.decimalUnits_strictMono (by omega)
  have above : f.decimalUnits n < f.decimalUnits (n + 1) := f.decimalUnits_strictMono (by omega)
  simp only [Roundings.Inside, roundings]
  omega

theorem not_contains_beyond_powerAbove (pos : 0 < n) {m j : Nat}
    (beyond : powerAbove (f.roundings n).value < j) : ¬ (f.roundings n).Contains (m * 10 ^ j) := by
  intro contains
  obtain ⟨low, high, -⟩ := f.bounds_of_contains contains
  have own : 0 < f.decimalUnits n := f.decimalUnits_zero ▸ f.decimalUnits_strictMono pos
  have double : f.decimalUnits (n + 1) ≤ 2 * f.decimalUnits n := by
    have units := f.mul_units_succ_le pos (Nat.two_pow_pos _)
    rw [decimalUnits, decimalUnits, ← Nat.mul_assoc]
    exact Nat.mul_le_mul_right _ (by omega)
  have least : 10 ^ j ≤ m * 10 ^ j := by
    refine Nat.le_mul_of_pos_left _ (Nat.pos_of_ne_zero ?_)
    rintro rfl
    omega
  have great : f.decimalUnits n * 10 < 10 ^ j := by
    calc f.decimalUnits n * 10
      _ < 10 ^ (powerAbove (f.roundings n).value + 1) :=
        Nat.mul_lt_mul_of_pos_right (lt_ten_pow_powerAbove _) (by decide)
      _ ≤ 10 ^ j := Nat.pow_le_pow_right (by decide) beyond
  omega

/-- Whether a decimal has the greatest power of ten with a multiple that rounds to a magnitude, and
is the multiple of it that is nearest to the magnitude, the greater one of two equally near. -/
structure IsShortest (f : Format) (n : Nat) (d : Decimal) : Prop where
  rounds : f.Rounds n d.value
  coarsest : ∀ (m : Nat) (i : Int), d.exponent < i → ¬ f.Rounds n (m * 10 ^ i)
  nearest : ∀ m : Nat, f.Rounds n (m * 10 ^ d.exponent) → m ≠ d.coefficient →
    Nearer (f.value n) d.value (m * 10 ^ d.exponent) (m < d.coefficient)

theorem value_multiple (m j : Nat) :
    (m : ℚ) * 10 ^ ((j : Int) - f.scale) = (m * 10 ^ j : Nat) * (1 / 10 ^ f.scale) := by
  rw [mul_one_div]
  exact eq_div_of_mul_eq (by positivity) (Decimal.value_mul_scale m j f.scale)

/-- The multiples that the search accepts are those that round to the magnitude. -/
theorem contains_iff_rounds_multiple (pos : 0 < n) (m j : Nat) :
    (f.roundings n).Contains (m * 10 ^ j) ↔ f.Rounds n (m * 10 ^ ((j : Int) - f.scale)) := by
  rw [value_multiple, mul_one_div]
  exact contains_iff_rounds pos _

/-- The shortest decimal of a magnitude rounds to it. -/
theorem rounds_shortest (tie : Tie) (pos : 0 < n) : f.Rounds n (f.shortest tie n).value := by
  obtain ⟨c, power, shortest, contains⟩ := f.exists_shortest tie pos
  rw [shortest]
  exact (contains_iff_rounds_multiple pos c power).mp contains

theorem isShortest_shortest (pos : 0 < n) : f.IsShortest n (f.shortest .up n) := by
  obtain ⟨c, power, found⟩ : ∃ c power,
      (f.roundings n).coarsest .up (powerAbove (f.roundings n).value) = (c, power) := ⟨_, _, rfl⟩
  have shortest : f.shortest .up n = ⟨c, power - f.scale⟩ := by rw [Format.shortest, found]
  have rounds := f.rounds_shortest .up pos
  rw [shortest] at rounds ⊢
  refine ⟨rounds, ?_, ?_⟩
  · intro m i above
    dsimp only at above
    obtain ⟨j, rfl⟩ : ∃ j : Nat, i = j - f.scale := ⟨(i + f.scale).toNat, by omega⟩
    rw [← contains_iff_rounds_multiple pos]
    rcases Nat.lt_or_ge (powerAbove (f.roundings n).value) j with beyond | reached
    · exact not_contains_beyond_powerAbove pos beyond
    · exact Roundings.not_contains_above_coarsest (inside_roundings pos)
        (by rw [found]; omega) reached
  · intro m contains other
    have nearest := (f.roundings n).nearest_coarsest (powerAbove (f.roundings n).value)
    rw [found] at nearest
    rw [← contains_iff_rounds_multiple pos] at contains
    rw [Decimal.value, value_multiple, value_multiple, value_eq_decimalUnits, ← mul_one_div]
    exact nearest.nearer (Nat.pow_pos (by decide)) (by positivity) contains other

end Format
end RuntimeMonitor.Number

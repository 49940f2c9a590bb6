import Mathlib
import RuntimeMonitor.Number.Shortest

/-!
# Rounding to a magnitude

Greater magnitudes stand for greater numbers. A number is between two neighbours, and the nearer one
is taken for it. The numbers that round to different magnitudes keep apart: two neighbours share the
middle between them, and it belongs to the even one alone. The shortest decimal of a magnitude is
one of the numbers that round to it. So the magnitude is told by the decimal.
-/

namespace RuntimeMonitor.Number

/-- The nearer one of two neighbours is nearest to a number between them. -/
theorem abs_sub_le_of_neighbours {p low high other : Int} (below : low ≤ p) (above : p < high)
    (outside : other ≤ low ∨ high ≤ other) :
    (2 * p ≤ low + high → |p - low| ≤ |p - other|) ∧
      (low + high ≤ 2 * p → |p - high| ≤ |p - other|) := by
  rw [abs_of_nonneg (Int.sub_nonneg.mpr below), abs_of_neg (Int.sub_neg_of_lt above)]
  rcases outside with less | greater
  · rw [abs_of_nonneg (by omega)]
    omega
  · rw [abs_of_neg (by omega)]
    omega

namespace Format

variable (f : Format)

theorem units_of_parts {exponent fraction : Nat} (small : fraction < 2 ^ f.fractionBits) :
    f.units (2 ^ f.fractionBits * exponent + fraction) =
      if exponent = 0 then fraction else (2 ^ f.fractionBits + fraction) * 2 ^ (exponent - 1) := by
  have high : (2 ^ f.fractionBits * exponent + fraction) / 2 ^ f.fractionBits = exponent := by
    rw [Nat.mul_add_div (Nat.two_pow_pos _), Nat.div_eq_of_lt small, Nat.add_zero]
  have low : (2 ^ f.fractionBits * exponent + fraction) % 2 ^ f.fractionBits = fraction := by
    rw [Nat.mul_add_mod, Nat.mod_eq_of_lt small]
  simp only [units, high, low]
  split
  · next zero => rw [zero, Nat.mul_zero, Nat.zero_add]
  · rfl

/-- A significand of full length counts units of its own exponent, also where it carries over. -/
theorem units_of_significand {excess significand : Nat} (low : 2 ^ f.fractionBits ≤ significand)
    (high : significand ≤ 2 ^ (f.fractionBits + 1)) :
    f.units (excess * 2 ^ f.fractionBits + significand) = significand * 2 ^ excess := by
  obtain ⟨fraction, rfl⟩ := Nat.exists_eq_add_of_le low
  rw [Nat.pow_succ] at high
  by_cases full : fraction = 2 ^ f.fractionBits
  · have next : excess * 2 ^ f.fractionBits + (2 ^ f.fractionBits + fraction) =
        2 ^ f.fractionBits * (excess + 2) + 0 := by rw [full]; ring
    rw [next, f.units_of_parts (Nat.two_pow_pos _), if_neg (by omega), full]
    simp only [Nat.add_zero, Nat.add_succ_sub_one]
    ring
  · have parts : excess * 2 ^ f.fractionBits + (2 ^ f.fractionBits + fraction) =
        2 ^ f.fractionBits * (excess + 1) + fraction := by ring
    rw [parts, f.units_of_parts (by omega), if_neg (Nat.succ_ne_zero excess), Nat.add_sub_cancel]

/-- The magnitudes below the least full significand, and that one, count units. -/
theorem units_of_le {n : Nat} (le : n ≤ 2 ^ f.fractionBits) : f.units n = n := by
  rcases Nat.eq_or_lt_of_le le with full | small
  · have most : n ≤ 2 ^ (f.fractionBits + 1) :=
      le.trans (Nat.pow_le_pow_right (by decide) (Nat.le_succ _))
    have carry : f.units (0 * 2 ^ f.fractionBits + n) = n * 2 ^ 0 :=
      f.units_of_significand full.ge most
    rwa [Nat.zero_mul, Nat.zero_add, Nat.pow_zero, Nat.mul_one] at carry
  · simp [units, Nat.div_eq_of_lt small]

/-- A magnitude and the next one count units of the same exponent. The significand has full length
unless the unit is the least one. -/
theorem exists_significand (n : Nat) :
    ∃ excess significand, n = excess * 2 ^ f.fractionBits + significand ∧
      (excess = 0 ∨ 2 ^ f.fractionBits ≤ significand) ∧
      f.units n = significand * 2 ^ excess ∧
      f.units (n + 1) = (significand + 1) * 2 ^ excess := by
  rcases Nat.lt_or_ge n (2 ^ f.fractionBits) with small | normal
  · refine ⟨0, n, ?_, .inl rfl, ?_, ?_⟩
    · rw [Nat.zero_mul, Nat.zero_add]
    · rw [f.units_of_le small.le, Nat.pow_zero, Nat.mul_one]
    · rw [f.units_of_le small, Nat.pow_zero, Nat.mul_one]
  · obtain ⟨rest, rfl⟩ := Nat.exists_eq_add_of_le normal
    have parts : 2 ^ f.fractionBits + rest = rest / 2 ^ f.fractionBits * 2 ^ f.fractionBits +
        (2 ^ f.fractionBits + rest % 2 ^ f.fractionBits) := by
      have whole := Nat.div_add_mod' rest (2 ^ f.fractionBits)
      omega
    have full : 2 ^ f.fractionBits ≤ 2 ^ f.fractionBits + rest % 2 ^ f.fractionBits :=
      Nat.le_add_right _ _
    have bound : rest % 2 ^ f.fractionBits < 2 ^ f.fractionBits := Nat.mod_lt _ (Nat.two_pow_pos _)
    refine ⟨_, _, parts, .inr full, ?_, ?_⟩
    · rw [parts]
      exact f.units_of_significand full (by omega)
    · rw [parts, Nat.add_assoc]
      exact f.units_of_significand (by omega) (by omega)

theorem units_lt_units_succ (n : Nat) : f.units n < f.units (n + 1) := by
  obtain ⟨excess, significand, -, -, own, next⟩ := f.exists_significand n
  rw [own, next]
  exact Nat.mul_lt_mul_of_pos_right (Nat.lt_succ_self _) (Nat.two_pow_pos _)

theorem units_strictMono : StrictMono f.units := strictMono_nat_of_lt_succ f.units_lt_units_succ

/-- A magnitude of at least `k` is at least `k` times as great as the step to the next one. -/
theorem mul_units_succ_le {k n : Nat} (least : k ≤ n) (full : k ≤ 2 ^ f.fractionBits) :
    k * f.units (n + 1) ≤ (k + 1) * f.units n := by
  obtain ⟨excess, significand, parts, long, own, next⟩ := f.exists_significand n
  have enough : k ≤ significand := by
    rcases long with rfl | long
    · rwa [parts, Nat.zero_mul, Nat.zero_add] at least
    · exact full.trans long
  rw [own, next]
  calc k * ((significand + 1) * 2 ^ excess)
    _ = (k * significand + k) * 2 ^ excess := by ring
    _ ≤ (k * significand + significand) * 2 ^ excess := Nat.mul_le_mul_right _ (by omega)
    _ = (k + 1) * (significand * 2 ^ excess) := by ring

/-- A number lies between its greatest magnitude and the next one. -/
theorem units_floor_le_and_lt (q : Nat) :
    f.units (f.floor q) ≤ q ∧ q < f.units (f.floor q + 1) := by
  by_cases small : q < 2 ^ f.fractionBits
  · have same : f.units q = q := f.units_of_le small.le
    have next : f.units q < f.units (q + 1) := f.units_lt_units_succ q
    rw [same] at next
    rw [floor, if_pos small]
    exact ⟨same.le, next⟩
  · have positive : q ≠ 0 := by
      have := Nat.two_pow_pos f.fractionBits
      omega
    have bits : f.fractionBits ≤ q.log2 := (Nat.le_log2 positive).mpr (Nat.not_lt.mp small)
    obtain ⟨excess, length⟩ := Nat.exists_eq_add_of_le bits
    have least : 2 ^ f.fractionBits ≤ q / 2 ^ excess := by
      rw [Nat.le_div_iff_mul_le (Nat.two_pow_pos _), ← Nat.pow_add, ← length]
      exact Nat.log2_self_le positive
    have greatest : q / 2 ^ excess < 2 ^ (f.fractionBits + 1) := by
      rw [Nat.div_lt_iff_lt_mul (Nat.two_pow_pos _), ← Nat.pow_add, Nat.add_right_comm, ← length]
      exact Nat.lt_log2_self
    have parts : f.floor q = excess * 2 ^ f.fractionBits + q / 2 ^ excess := by
      rw [floor, if_neg small, length, Nat.add_sub_cancel_left]
    rw [parts, Nat.add_assoc, f.units_of_significand least greatest.le,
      f.units_of_significand (by omega) greatest]
    refine ⟨Nat.div_mul_le_self q _, ?_⟩
    rw [Nat.mul_comm]
    exact Nat.lt_mul_div_succ q (Nat.two_pow_pos _)

/-- No magnitude is nearer to a number than the one that is taken for it. -/
theorem nearest_closest {num den : Nat} (pos : 0 < den) (finite : num / den < f.units f.infinity)
    (m : Nat) :
    |(num : Int) - (f.units (f.nearest num den) * den : Nat)| ≤
      |(num : Int) - (f.units m * den : Nat)| := by
  obtain ⟨below, above⟩ := f.units_floor_le_and_lt (num / den)
  have less : f.floor (num / den) < f.infinity :=
    f.units_strictMono.lt_iff_lt.mp (below.trans_lt finite)
  rw [nearest.eq_def]
  simp only
  generalize f.floor (num / den) = n at *
  rw [Nat.le_div_iff_mul_le pos] at below
  rw [Nat.div_lt_iff_lt_mul pos] at above
  have outside : f.units m * den ≤ f.units n * den ∨ f.units (n + 1) * den ≤ f.units m * den := by
    rcases Nat.lt_or_ge n m with greater | least
    · exact .inr (Nat.mul_le_mul_right den (f.units_strictMono.monotone greater))
    · exact .inl (Nat.mul_le_mul_right den (f.units_strictMono.monotone least))
  rw [Nat.add_mul]
  obtain ⟨own, next⟩ := abs_sub_le_of_neighbours (Int.ofNat_le.mpr below) (Int.ofNat_lt.mpr above)
    (outside.imp Int.ofNat_le.mpr Int.ofNat_le.mpr)
  split_ifs with lower
  · rw [min_eq_right less.le]
    exact own (by omega)
  · rw [min_eq_right less]
    exact next (by omega)

theorem nearest_lt_infinity {num den : Nat} (finite : num / den < f.units (f.infinity - 1)) :
    f.nearest num den < f.infinity := by
  have less : f.floor (num / den) < f.infinity - 1 :=
    f.units_strictMono.lt_iff_lt.mp ((f.units_floor_le_and_lt _).1.trans_lt finite)
  rw [nearest.eq_def]
  simp only
  split_ifs <;> omega

theorem decimalUnits_strictMono : StrictMono f.decimalUnits := by
  intro m n less
  exact Nat.mul_lt_mul_of_pos_right (f.units_strictMono less) (Nat.pow_pos (by decide))

end Format

namespace Roundings

variable {r : Roundings} {tie : Tie}

theorem contains_of_multiple? {step c : Nat} (found : r.multiple? tie step = some c) :
    r.Contains (c * step) := by
  rw [multiple?.eq_def] at found
  simp only at found
  by_cases below : r.Contains (r.value / step * step)
  · rw [if_pos below] at found
    by_cases above : r.Contains ((r.value / step + 1) * step)
    · -- Both neighbours are in reach, so it does not matter which of them is taken.
      have either : c = r.value / step ∨ c = r.value / step + 1 := by
        rw [if_pos above] at found
        cases tie <;> (split_ifs at found <;> simp only [Option.some_inj] at found <;> omega)
      rcases either with rfl | rfl
      · exact below
      · exact above
    · rw [if_neg above, Option.some_inj] at found
      exact found ▸ below
  · rw [if_neg below] at found
    split_ifs at found with above
    exact (Option.some_inj.mp found) ▸ above

theorem contains_coarsest (own : r.Contains r.value) (power : Nat) :
    r.Contains ((r.coarsest tie power).1 * 10 ^ (r.coarsest tie power).2) := by
  induction power with
  | zero => simpa [coarsest] using own
  | succ power ih =>
    rw [coarsest]
    split
    · next c found => exact contains_of_multiple? found
    · exact ih

end Roundings

namespace Format

variable (f : Format)

theorem decimalUnits_zero : f.decimalUnits 0 = 0 := by
  have zero : f.units 0 = 0 := by simp [units]
  rw [decimalUnits, zero, Nat.zero_mul]

theorem contains_zero : (f.roundings 0).Contains 0 := by
  right
  simp [roundings, decimalUnits_zero]

theorem contains_value {n : Nat} (pos : 0 < n) :
    (f.roundings n).Contains (f.roundings n).value := by
  have below : f.decimalUnits (n - 1) < f.decimalUnits n := f.decimalUnits_strictMono (by omega)
  have above : f.decimalUnits n < f.decimalUnits (n + 1) := f.decimalUnits_strictMono (by omega)
  left
  simp only [roundings]
  omega

/-- A number that rounds to a magnitude is one of the middles only if the magnitude is even. -/
theorem bounds_of_contains {n p : Nat} (rounds : (f.roundings n).Contains p) :
    f.decimalUnits (n - 1) + f.decimalUnits n ≤ 2 * p ∧
      2 * p ≤ f.decimalUnits n + f.decimalUnits (n + 1) ∧
      (n % 2 = 0 ∨ f.decimalUnits (n - 1) + f.decimalUnits n < 2 * p ∧
        2 * p < f.decimalUnits n + f.decimalUnits (n + 1)) := by
  have below : f.decimalUnits (n - 1) ≤ f.decimalUnits n :=
    f.decimalUnits_strictMono.monotone (by omega)
  have above : f.decimalUnits n ≤ f.decimalUnits (n + 1) :=
    f.decimalUnits_strictMono.monotone (by omega)
  simp only [Roundings.Contains, roundings, decide_eq_true_eq] at rounds
  omega

theorem roundings_disjoint {m n p : Nat} (hm : (f.roundings m).Contains p)
    (hn : (f.roundings n).Contains p) : m = n := by
  wlog ordered : m ≤ n generalizing m n
  · exact (this hn hm (Nat.le_of_not_le ordered)).symm
  by_contra different
  obtain ⟨-, high, openM⟩ := f.bounds_of_contains hm
  obtain ⟨low, -, openN⟩ := f.bounds_of_contains hn
  have left : f.decimalUnits m ≤ f.decimalUnits (n - 1) :=
    f.decimalUnits_strictMono.monotone (by omega)
  have right : f.decimalUnits (m + 1) ≤ f.decimalUnits n :=
    f.decimalUnits_strictMono.monotone (by omega)
  -- Only the middle between neighbours is left, and one of the neighbours is odd.
  have neighbours : m + 1 = n := f.decimalUnits_strictMono.injective (by omega)
  omega

/-- The shortest decimal of a magnitude is a whole number of decimal units that rounds to it. -/
theorem exists_shortest (tie : Tie) {n : Nat} (pos : 0 < n) :
    ∃ c power : Nat, f.shortest tie n = ⟨c, power - f.scale⟩ ∧
      (f.roundings n).Contains (c * 10 ^ power) := by
  let found := (f.roundings n).coarsest tie (powerAbove (f.roundings n).value)
  exact ⟨found.1, found.2, rfl, Roundings.contains_coarsest (f.contains_value pos) _⟩

end Format
end RuntimeMonitor.Number

import Mathlib
import RuntimeMonitor.Proofs.Identity.FloatNumeral
import RuntimeMonitor.Proofs.Number.ClosestDecimal

/-!
# Against the decimals of the monitored runtime

The runtime writes two digits if the second one makes a decimal closer, and of two equally close
decimals it takes the one with the even last digit. Floating point arguments are written with the
fewest digits, and of two equally close decimals the greater one is taken. The texts agree unless
one digit is enough and two are closer, which happens for a few of the least values of either format
only, or the value is halfway between an even and an odd last digit.
-/

namespace RuntimeMonitor.Identity

open Number

variable {f : Format} {x : Floating f} {n k : Nat} {q : ℚ}

/-- The rule of the runtime: as few digits as round to the value, but at least two, and of those
decimals the closest one, with the even last digit if two are. -/
def IsRuntimeDecimal (x : Floating f) (q : ℚ) : Prop :=
  ∃ k, x.FewestDigits k ∧ x.IsClosest (max k 2) (fun q _ => EndsEven (max k 2) q) q

theorem isRuntimeDecimal_iff (fewest : x.FewestDigits k) :
    IsRuntimeDecimal x q ↔ x.IsClosest (max k 2) (fun q _ => EndsEven (max k 2) q) q := by
  constructor
  · rintro ⟨j, least, closest⟩
    rwa [least.unique fewest] at closest
  · intro closest
    exact ⟨k, fewest, closest⟩

/-- The magnitudes that one digit is enough for though two digits are closer, with the decimal of
two digits that the runtime writes. -/
def secondDigits (f : Format) : List (Nat × Decimal) :=
  if f = .binary64 then
    [(1, ⟨49, -325⟩), (2, ⟨99, -325⟩), (10, ⟨49, -324⟩), (12, ⟨59, -324⟩), (14, ⟨69, -324⟩),
      (16, ⟨79, -324⟩), (18, ⟨89, -324⟩), (20, ⟨99, -324⟩)]
  else
    [(1, ⟨14, -46⟩), (2, ⟨28, -46⟩), (3, ⟨42, -46⟩), (4, ⟨56, -46⟩), (6, ⟨84, -46⟩),
      (7, ⟨98, -46⟩), (21, ⟨29, -45⟩), (29, ⟨41, -45⟩), (71, ⟨99, -45⟩)]

theorem tight_of_mem_secondDigits (known : Known f) :
    ∀ p ∈ secondDigits f, f.Tight p.1 p.2 ∧ (f.shortest .up p.1).coefficient < 10 ∧
      p.2.value ≠ (f.shortest .up p.1).value := by
  rcases known with rfl | rfl <;> decide +kernel

/-- A single digit is near a small magnitude unless two digits are closer, and a power of ten is
nearer than nine tenths of it. Great magnitudes need no check: the step between neighbours is less
than a hundredth of them. -/
theorem small_magnitudes (known : Known f) :
    ∀ n < 101, 0 < n →
      ((f.shortest .up n).coefficient < 10 → n ∉ (secondDigits f).map Prod.fst →
        f.Near n (f.shortest .up n)) ∧
      ((f.shortest .up n).coefficient = 1 →
        19 * 10 ^ ((f.shortest .up n).exponent - 1) < 2 * f.value n) := by
  rcases known with rfl | rfl <;> decide +kernel

theorem hundred_le_of_known (known : Known f) : 100 ≤ 2 ^ f.fractionBits := by
  rcases known with rfl | rfl <;> decide

theorem near_shortest (known : Known f) (pos : 0 < n) (few : (f.shortest .up n).coefficient < 10)
    (apart : n ∉ (secondDigits f).map Prod.fst) : f.Near n (f.shortest .up n) := by
  rcases Nat.lt_or_ge n 101 with small | large
  · exact (small_magnitudes known n small pos).1 few apart
  · exact (Format.isShortest_shortest pos).near_of_large large (hundred_le_of_known known) few

theorem nine_tenths_lt_of_shortest (known : Known f) (pos : 0 < n)
    (one : (f.shortest .up n).coefficient = 1) :
    19 * 10 ^ ((f.shortest .up n).exponent - 1) < 2 * f.value n := by
  rcases Nat.lt_or_ge n 101 with small | large
  · exact (small_magnitudes known n small pos).2 one
  · exact (Format.isShortest_shortest pos).nine_tenths_lt_of_large large
      (hundred_le_of_known known) one

theorem fewestDigits_one (pos : 0 < x.magnitude) (finite : x.isFinite)
    (lone : (f.shortest .up x.magnitude).coefficient < 10) : x.FewestDigits 1 := by
  have shortest : f.IsShortest x.magnitude (f.shortest .up x.magnitude) :=
    Format.isShortest_shortest pos
  exact Floating.fewestDigits_succ (k := 0) pos finite shortest (shortest.coefficient_pos pos) lone

section Finite

variable (known : Known f) (pos : 0 < x.magnitude) (finite : x.isFinite)

include known pos finite

theorem isRuntimeDecimal_second {r : Decimal} (mem : (x.magnitude, r) ∈ secondDigits f) :
    IsRuntimeDecimal x (x.sign * r.value) := by
  obtain ⟨tight, lone, -⟩ := tight_of_mem_secondDigits known _ mem
  rw [isRuntimeDecimal_iff (fewestDigits_one pos finite lone)]
  exact Floating.isClosest_two_of_tight pos finite tight _

theorem isRuntimeDecimal_shortest_of_lone (lone : (f.shortest .up x.magnitude).coefficient < 10) :
    IsRuntimeDecimal x (x.sign * (f.shortest .up x.magnitude).value) ↔
      x.magnitude ∉ (secondDigits f).map Prod.fst ∧ ¬ f.Halfway x.magnitude := by
  have shortest : f.IsShortest x.magnitude (f.shortest .up x.magnitude) :=
    Format.isShortest_shortest pos
  rw [isRuntimeDecimal_iff (fewestDigits_one pos finite lone)]
  constructor
  · intro closest
    constructor
    · intro mem
      obtain ⟨⟨_, r⟩, mem, rfl⟩ := List.mem_map.mp mem
      obtain ⟨tight, -, other⟩ := tight_of_mem_secondDigits known _ mem
      exact Floating.not_isClosest_two_of_tight pos finite tight (lone.trans (by decide)) other _
        closest
    · intro halfway
      exact Floating.not_isClosest_two_of_halfway shortest lone halfway _ closest
  · rintro ⟨apart, -⟩
    exact Floating.isClosest_two_of_near pos finite shortest lone
      (near_shortest known pos lone apart) _

theorem isRuntimeDecimal_shortest_of_many {k : Nat}
    (many : 10 ^ (k + 1) ≤ (f.shortest .up x.magnitude).coefficient)
    (few : (f.shortest .up x.magnitude).coefficient < 10 ^ (k + 2)) :
    IsRuntimeDecimal x (x.sign * (f.shortest .up x.magnitude).value) ↔
      x.magnitude ∉ (secondDigits f).map Prod.fst ∧ ¬ f.Halfway x.magnitude := by
  have shortest : f.IsShortest x.magnitude (f.shortest .up x.magnitude) :=
    Format.isShortest_shortest pos
  have apart : x.magnitude ∉ (secondDigits f).map Prod.fst := by
    intro mem
    obtain ⟨p, mem, same⟩ := List.mem_map.mp mem
    have lone := (tight_of_mem_secondDigits known p mem).2.1
    have ten : 10 ≤ 10 ^ (k + 1) := Nat.le_self_pow (Nat.succ_ne_zero k) 10
    rw [same] at lone
    omega
  rw [isRuntimeDecimal_iff (Floating.fewestDigits_succ pos finite shortest many few),
    max_eq_left (by omega), Floating.isClosest_even_iff pos finite shortest many few]
  exact (and_iff_right apart).symm

end Finite

/-- The least double. -/
theorem floatText_least :
    let x : Double := ⟨1⟩
    x.isFinite = true ∧ x.value ≠ 0 ∧ floatText x = "5.0E-324" ∧
      ¬ IsRuntimeDecimal x (readNumber (floatText x).toList) ∧
      IsRuntimeDecimal x (49 / 10 ^ 325) := by
  intro x
  have known : Known .binary64 := .inl rfl
  have pos : 0 < x.magnitude := by decide
  have finite : x.isFinite = true := by decide
  refine ⟨finite, Floating.value_ne_zero_iff.mpr pos, by decide +kernel, ?_, ?_⟩
  · rw [readNumber_floatText_of_pos finite pos,
      isRuntimeDecimal_shortest_of_lone known pos finite (by decide +kernel)]
    intro apart
    exact apart.1 (by decide +kernel)
  · have second := isRuntimeDecimal_second known pos finite (r := ⟨49, -325⟩) (by decide +kernel)
    have number : x.sign * (Decimal.mk 49 (-325)).value = 49 / 10 ^ 325 := by decide +kernel
    rwa [number] at second

/-- The number in the text of a value has the fewest digits that round to the value, and is the
closest of those, the greater one of two. It is the runtime's number unless one digit is enough and
two are closer, where the runtime has two, or the value is halfway to it from an even digit. -/
theorem float_texts_against_runtime (known : Known f) (finite : x.isFinite) (some : x.value ≠ 0) :
    (∃ k, x.FewestDigits k ∧
      x.IsClosest k (fun q r => |r| < |q|) (readNumber (floatText x).toList)) ∧
    (IsRuntimeDecimal x (readNumber (floatText x).toList) ↔
      x.magnitude ∉ (secondDigits f).map Prod.fst ∧ ¬ f.Halfway x.magnitude) ∧
    ∀ r, (x.magnitude, r) ∈ secondDigits f → IsRuntimeDecimal x (x.sign * r.value) := by
  have pos : 0 < x.magnitude := Floating.value_ne_zero_iff.mp some
  have shortest : f.IsShortest x.magnitude (f.shortest .up x.magnitude) :=
    Format.isShortest_shortest pos
  obtain ⟨k, many, few⟩ : ∃ k, 10 ^ k ≤ (f.shortest .up x.magnitude).coefficient ∧
      (f.shortest .up x.magnitude).coefficient < 10 ^ (k + 1) :=
    ⟨_, Nat.pow_log_le_self 10 (shortest.coefficient_pos pos).ne',
      Nat.lt_pow_succ_log_self (by decide) _⟩
  rw [readNumber_floatText_of_pos finite pos]
  refine ⟨⟨k + 1, Floating.fewestDigits_succ pos finite shortest many few, ?_⟩, ?_, ?_⟩
  · exact Floating.isClosest_greater pos finite shortest many few
      (nine_tenths_lt_of_shortest known pos)
  · cases k with
    | zero => exact isRuntimeDecimal_shortest_of_lone known pos finite few
    | succ k => exact isRuntimeDecimal_shortest_of_many known pos finite many few
  · exact fun r => isRuntimeDecimal_second known pos finite

/-- A value with two digits at the runtime, one that is halfway, and one that is written alike. -/
theorem float_texts_against_runtime_edges :
    let x : Double := ⟨20⟩
    let y : Single := ⟨0x49800002⟩
    let z : Double := ⟨0xbfd3333333333333⟩
    (Known .binary64 ∧ Known .binary32) ∧
      (floatText x = "1.0E-322" ∧ ¬ IsRuntimeDecimal x (1 / 10 ^ 322) ∧
        IsRuntimeDecimal x (99 / 10 ^ 324)) ∧
      (floatText y = "1048576.3" ∧ ¬ IsRuntimeDecimal y (10485763 / 10)) ∧
      floatText z = "-0.3" ∧ IsRuntimeDecimal z (-3 / 10) := by
  intro x y z
  have long : Known .binary64 := .inl rfl
  have short : Known .binary32 := .inr rfl
  have textX : floatText x = "1.0E-322" := by decide +kernel
  have textY : floatText y = "1048576.3" := by decide +kernel
  have textZ : floatText z = "-0.3" := by decide +kernel
  have numberX : readNumber (floatText x).toList = 1 / 10 ^ 322 := by
    rw [textX]
    decide +kernel
  have numberY : readNumber (floatText y).toList = 10485763 / 10 := by
    rw [textY]
    decide +kernel
  have numberZ : readNumber (floatText z).toList = -3 / 10 := by
    rw [textZ]
    decide +kernel
  obtain ⟨-, ownX, secondX⟩ := float_texts_against_runtime long (x := x) (by decide)
    (by decide +kernel)
  obtain ⟨-, ownY, -⟩ := float_texts_against_runtime short (x := y) (by decide) (by decide +kernel)
  obtain ⟨-, ownZ, -⟩ := float_texts_against_runtime long (x := z) (by decide) (by decide +kernel)
  have shortestY := Format.isShortest_shortest (f := .binary32) (n := y.magnitude) (by decide)
  have shortestZ := Format.isShortest_shortest (f := .binary64) (n := z.magnitude) (by decide)
  rw [numberX] at ownX
  rw [numberY, shortestY.halfway_iff (by decide)] at ownY
  rw [numberZ, shortestZ.halfway_iff (by decide)] at ownZ
  refine ⟨⟨long, short⟩, ⟨textX, ?_, ?_⟩, ⟨textY, ?_⟩, textZ, ?_⟩
  · exact fun own => (ownX.mp own).1 (by decide +kernel)
  · have second := secondX ⟨99, -324⟩ (by decide +kernel)
    have number : x.sign * (Decimal.mk 99 (-324)).value = 99 / 10 ^ 324 := by decide +kernel
    rwa [number] at second
  · exact fun own => (ownY.mp own).2 (by decide +kernel)
  · exact ownZ.mpr (by decide +kernel)

end RuntimeMonitor.Identity

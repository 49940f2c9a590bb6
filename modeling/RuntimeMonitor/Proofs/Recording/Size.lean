import Mathlib
import RuntimeMonitor.Proofs.Recording.Quantity

/-!
# Sizes

A unit of size is a power of two. A size is read exactly if so many units are a number below
`2 ^ 64`; the others are errors that name the number or the whole text.
-/

namespace RuntimeMonitor.Recording

open Text Number

/-- The units of size by their names in lower case, as powers of two. A bare number counts bytes. -/
inductive PowerNamed : List Char → Nat → Prop
  | bare : PowerNamed "".toList 0
  | byte : PowerNamed "b".toList 0
  | kilo : PowerNamed "k".toList 10
  | kilobyte : PowerNamed "kb".toList 10
  | mega : PowerNamed "m".toList 20
  | megabyte : PowerNamed "mb".toList 20
  | giga : PowerNamed "g".toList 30
  | gigabyte : PowerNamed "gb".toList 30
  | tera : PowerNamed "t".toList 40
  | terabyte : PowerNamed "tb".toList 40

variable {raw : String} {ds unit : List Char} {power : Nat}

theorem PowerNamed.letters (named : PowerNamed unit power) : ∀ c ∈ unit, c.isAlpha := by
  cases named <;> simp

theorem lookup_sizeUnits {k : Nat} :
    sizeUnits.lookup unit = some k ↔ ∃ power, PowerNamed unit power ∧ 2 ^ power = k := by
  constructor
  · intro found
    have listed := mem_of_lookup found
    simp only [sizeUnits, List.mem_cons, Prod.mk.injEq, List.not_mem_nil, or_false] at listed
    rcases listed with ⟨rfl, rfl⟩ | ⟨rfl, rfl⟩ | ⟨rfl, rfl⟩ | ⟨rfl, rfl⟩ | ⟨rfl, rfl⟩ | ⟨rfl, rfl⟩ |
      ⟨rfl, rfl⟩ | ⟨rfl, rfl⟩ | ⟨rfl, rfl⟩ | ⟨rfl, rfl⟩
    · exact ⟨_, .bare, rfl⟩
    · exact ⟨_, .byte, rfl⟩
    · exact ⟨_, .kilo, rfl⟩
    · exact ⟨_, .kilobyte, rfl⟩
    · exact ⟨_, .mega, rfl⟩
    · exact ⟨_, .megabyte, rfl⟩
    · exact ⟨_, .giga, rfl⟩
    · exact ⟨_, .gigabyte, rfl⟩
    · exact ⟨_, .tera, rfl⟩
    · exact ⟨_, .terabyte, rfl⟩
  · rintro ⟨power, named, rfl⟩
    cases named <;> rfl

theorem readSize_eq (raw : String) :
    readSize raw = readListed sizeUnits .unknownSizeUnit (fun n worth =>
      if n * worth < wordLimit then .ok (n * worth) else .error (.greatSize (trim raw))) raw := rfl

theorem readSize_of_written (written : Written raw.toList ds unit) (named : PowerNamed unit power) :
    readSize raw =
      if wordLimit ≤ ofDigits ds then .error (.greatNumber (String.ofList ds))
      else if ofDigits ds * 2 ^ power < wordLimit then .ok (ofDigits ds * 2 ^ power)
      else .error (.greatSize (trim raw)) := by
  rw [readSize_eq, readListed_of_written written named.letters
    (lookup_sizeUnits.mpr ⟨power, named, rfl⟩)]

theorem readSize_eq_ok_iff {n : Nat} :
    readSize raw = .ok n ↔ ∃ ds unit power, Written raw.toList ds unit ∧ PowerNamed unit power ∧
      ofDigits ds < wordLimit ∧ ofDigits ds * 2 ^ power < wordLimit ∧
      n = ofDigits ds * 2 ^ power := by
  constructor
  · intro h
    have listed := h
    rw [readSize_eq] at listed
    obtain ⟨ds, unit, _, written, listed⟩ := exists_written_of_readListed listed
    obtain ⟨power, named, -⟩ := lookup_sizeUnits.mp listed
    rw [readSize_of_written written named] at h
    split at h
    · cases h
    · next small =>
      split at h
      · next fits =>
        cases h
        exact ⟨ds, unit, power, written, named, Nat.lt_of_not_le small, fits, rfl⟩
      · cases h
  · rintro ⟨ds, unit, power, written, named, small, fits, rfl⟩
    rw [readSize_of_written written named, if_neg (Nat.not_le_of_lt small), if_pos fits]

/-- The greatest size is accepted exactly if it is written with digits for a number below `2 ^ 64`, a
unit of size or none behind them, and blanks around the two, so that as many units are below
`2 ^ 64` as well. The size read is that many units. Where they are more, there is an error, about the
number if it does not fit itself and about the whole text else. -/
theorem read_size_accepts_grammar (raw : String) :
    (∀ v, Key.maxSize.read raw = .ok v ↔ ∃ ds unit power,
        Written raw.toList ds unit ∧ PowerNamed unit power ∧ ofDigits ds < 2 ^ 64 ∧
          ofDigits ds * 2 ^ power < 2 ^ 64 ∧ v = .size (ofDigits ds * 2 ^ power)) ∧
      ∀ ds unit power, Written raw.toList ds unit → PowerNamed unit power →
        2 ^ 64 ≤ ofDigits ds * 2 ^ power →
        Key.maxSize.read raw = .error
          (if 2 ^ 64 ≤ ofDigits ds then .greatNumber (String.ofList ds)
          else .greatSize (trim raw)) := by
  constructor
  · intro v
    rw [Key.read, Key.domain, Domain.read, map_eq_ok_iff]
    constructor
    · rintro ⟨n, h, rfl⟩
      obtain ⟨ds, unit, power, written, named, small, fits, rfl⟩ := readSize_eq_ok_iff.mp h
      exact ⟨ds, unit, power, written, named, small, fits, rfl⟩
    · rintro ⟨ds, unit, power, written, named, small, fits, rfl⟩
      exact ⟨_, readSize_eq_ok_iff.mpr ⟨ds, unit, power, written, named, small, fits, rfl⟩, rfl⟩
  · intro ds unit power written named great
    have long : ¬ ofDigits ds * 2 ^ power < wordLimit := Nat.not_lt_of_le great
    rw [Key.read, Key.domain, Domain.read, readSize_of_written written named, if_neg long]
    by_cases huge : wordLimit ≤ ofDigits ds
    · rw [if_pos huge, if_pos (show 2 ^ 64 ≤ _ from huge)]
      rfl
    · rw [if_neg huge, if_neg (show ¬ 2 ^ 64 ≤ _ from huge)]
      rfl

/-- As many gigabytes as a word has room for, with zeros in front, blanks of several kinds and a
capital. One gigabyte more is too much, though its number is small. -/
theorem read_size_accepts_grammar_gigabytes :
    let greatest := " " ++ "0017179869183" ++ "\u00a0" ++ "Gb" ++ "\n"
    let beyond := "\u2003" ++ "17179869184" ++ "\t" ++ "g" ++ " "
    Written greatest.toList "0017179869183".toList "gb".toList ∧
      Key.maxSize.read greatest = .ok (.size 18446744072635809792) ∧
      Written beyond.toList "17179869184".toList "g".toList ∧
      2 ^ 64 ≤ ofDigits "17179869184".toList * 2 ^ 30 ∧
      Key.maxSize.read beyond = .error (.greatSize (trim beyond)) := by
  intro greatest beyond
  have blank : ∀ c ∈ ['\u2003', '\u00a0', '\n', ' ', '\t'], isBlank c := by
    simp [isBlank, Span.covers, blankSpans, Span.Contains]
  have written : Written greatest.toList "0017179869183".toList "gb".toList := by
    simp only [greatest, String.toList_append]
    exact .quantity (by simp [blank]) (by simp) (by simp) (by simp [blank]) (by simp [blank])
  have written' : Written beyond.toList "17179869184".toList "g".toList := by
    simp only [beyond, String.toList_append]
    exact .quantity (by simp [blank]) (by simp) (by simp) (by simp [blank]) (by simp [blank])
  have value : ofDigits "0017179869183".toList = 17179869183 := by cbv
  have value' : ofDigits "17179869184".toList = 17179869184 := by cbv
  have great : 2 ^ 64 ≤ ofDigits "17179869184".toList * 2 ^ 30 := by
    rw [value']
    decide
  refine ⟨written, ?_, written', great, ?_⟩
  · refine ((read_size_accepts_grammar greatest).1 _).mpr ⟨_, _, 30, written, .gigabyte, ?_, ?_, ?_⟩
    · rw [value]
      decide
    · rw [value]
      decide
    · rw [value]
      rfl
  · rw [(read_size_accepts_grammar beyond).2 _ _ 30 written' .giga great, value']
    rfl

end RuntimeMonitor.Recording

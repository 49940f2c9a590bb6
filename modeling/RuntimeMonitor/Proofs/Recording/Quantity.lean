import Mathlib
import RuntimeMonitor.Proofs.Text.Trim
import RuntimeMonitor.Recording.Value

/-!
# Quantities

A quantity is a run of digits and a unit behind it. Blanks may stand at its ends and before the
unit, and the unit is written in any case. Letters are neither blanks nor digits, so digits and unit
are found again by trimming, by scanning for digits and by trimming what is left. What is read of a
quantity then depends on its number and on what its unit is worth alone.
-/

namespace RuntimeMonitor.Recording

open Text Number

theorem not_isBlank_of_toNat {c : Char} (low : 0x20 < c.toNat) (high : c.toNat < 0x85) :
    ¬ isBlank c := by
  intro blank
  obtain ⟨s, listed, first, last⟩ := Span.covers_iff.mp blank
  have outside : ∀ s ∈ blankSpans, s.last ≤ 0x20 ∨ 0x85 ≤ s.first := by decide
  have := outside s listed
  omega

theorem toNat_of_isAlpha {c : Char} (letter : c.isAlpha) : 65 ≤ c.toNat ∧ c.toNat ≤ 122 := by
  simp only [Char.isAlpha, Char.isUpper, Char.isLower, Bool.or_eq_true, Bool.and_eq_true,
    decide_eq_true_eq, ge_iff_le, UInt32.le_iff_toNat_le] at letter
  change (65 ≤ c.toNat ∧ c.toNat ≤ 90) ∨ (97 ≤ c.toNat ∧ c.toNat ≤ 122) at letter
  omega

theorem not_isBlank_of_isDigit {c : Char} (digit : c.isDigit) : ¬ isBlank c := by
  have bounds : 48 ≤ c.toNat ∧ c.toNat ≤ 57 := Char.isDigit_iff_toNat.mp digit
  exact not_isBlank_of_toNat (by omega) (by omega)

theorem not_isBlank_of_isAlpha {c : Char} (letter : c.isAlpha) : ¬ isBlank c := by
  have bounds := toNat_of_isAlpha letter
  exact not_isBlank_of_toNat (by omega) (by omega)

theorem not_isDigit_of_isAlpha {c : Char} (letter : c.isAlpha) : ¬ c.isDigit := by
  intro digit
  have low := (toNat_of_isAlpha letter).1
  have high : c.toNat ≤ 57 := (Char.isDigit_iff_toNat.mp digit).2
  omega

/-- A text of digits and a unit, which is named in lower case. -/
inductive Written : List Char → List Char → List Char → Prop
  | quantity {left ds between unit right : List Char} :
      (∀ c ∈ left, isBlank c) → ds ≠ [] → (∀ d ∈ ds, d.isDigit) → (∀ c ∈ between, isBlank c) →
      (∀ c ∈ right, isBlank c) →
      Written (left ++ ds ++ between ++ unit ++ right) ds (unit.map Char.toLower)

variable {text ds unit rest : List Char} {raw : String} {n : Nat}

/-- What the scan for digits makes of a text: the digits, and a rest that does not go on with one. -/
structure Scans (text ds rest : List Char) : Prop where
  trimmed : trimChars text = ds ++ rest
  isDigit : ∀ d ∈ ds, d.isDigit
  stop : ∀ c ∈ rest.head?, ¬ c.isDigit

namespace Scans

theorem takeWhile (h : Scans text ds rest) : (trimChars text).takeWhile Char.isDigit = ds := by
  rw [h.trimmed, List.takeWhile_append_of_pos h.isDigit]
  cases rest with
  | nil => simp
  | cons c rest => rw [List.takeWhile_cons_of_neg (h.stop c rfl), List.append_nil]

theorem dropWhile (h : Scans text ds rest) : (trimChars text).dropWhile Char.isDigit = rest := by
  rw [h.trimmed, List.dropWhile_append_of_pos h.isDigit]
  cases rest with
  | nil => rfl
  | cons c rest => exact List.dropWhile_cons_of_neg (h.stop c rfl)

end Scans

/-- The reader finds the digits and the unit of a text that is written of them. -/
theorem Written.exists_scans (written : Written text ds unit) (letters : ∀ c ∈ unit, c.isAlpha) :
    ds ≠ [] ∧ ∃ rest, Scans text ds rest ∧ lower (trimChars rest) = unit := by
  obtain @⟨left, ds, between, unit, right, blankLeft, nonempty, digits, blankBetween, blankRight⟩ :=
    written
  have letter : ∀ c ∈ unit, c.isAlpha := by
    intro c hc
    rw [← Char.isAlpha_toLower_eq_isAlpha]
    exact letters _ (List.mem_map_of_mem hc)
  have solid : ∀ d ∈ ds, ¬ isBlank d := fun d hd => not_isBlank_of_isDigit (digits d hd)
  refine ⟨nonempty, ?_⟩
  cases unit with
  | nil =>
    -- Without a unit, the blanks before it and those behind it are one run.
    refine ⟨[], ⟨trims_iff.mp ⟨⟨left, between ++ right, by simp, blankLeft, ?_⟩, ?_, ?_⟩, digits,
      nofun⟩, rfl⟩
    · exact List.forall_mem_append.mpr ⟨blankBetween, blankRight⟩
    · exact fun c hc => solid c (List.mem_of_mem_head? (by simpa using hc))
    · exact fun c hc => solid c (List.mem_of_mem_getLast? (by simpa using hc))
  | cons c unit =>
    have edge : ∀ d ∈ (c :: unit).getLast?, ¬ isBlank d := fun d hd =>
      not_isBlank_of_isAlpha (letter d (List.mem_of_mem_getLast? hd))
    have head : ∀ d ∈ (c :: unit).head?, ¬ isBlank d := fun d hd =>
      not_isBlank_of_isAlpha (letter d (List.mem_of_mem_head? hd))
    refine ⟨between ++ (c :: unit), ⟨trims_iff.mp ⟨⟨left, right, by simp, blankLeft, blankRight⟩,
      ?_, ?_⟩, digits, ?_⟩, ?_⟩
    · intro d hd
      rw [List.head?_append_of_ne_nil _ nonempty] at hd
      exact solid d (List.mem_of_mem_head? hd)
    · intro d hd
      rw [List.getLast?_append_of_ne_nil _ (by simp), List.getLast?_append_of_ne_nil _ (by simp)] at hd
      exact edge d hd
    · intro d hd digit
      cases between with
      | nil => exact not_isDigit_of_isAlpha (letter d (List.mem_of_mem_head? hd)) digit
      | cons b between =>
        obtain rfl : b = d := by simpa using hd
        exact not_isBlank_of_isDigit digit (blankBetween b List.mem_cons_self)
    · rw [trims_iff.mp ⟨⟨between, [], by simp, blankBetween, nofun⟩, head, edge⟩]
      rfl

/-- Digits that stand at the start of a trimmed text make it a quantity of some unit. -/
theorem written_of_ne_nil (nonempty : (trimChars text).takeWhile Char.isDigit ≠ []) :
    Written text ((trimChars text).takeWhile Char.isDigit)
      (lower (trimChars ((trimChars text).dropWhile Char.isDigit))) := by
  obtain ⟨⟨left, right, outer, blankLeft, blankRight⟩, -, -⟩ := trims_trimChars text
  obtain ⟨⟨between, after, inner, blankBetween, blankAfter⟩, -, -⟩ :=
    trims_trimChars ((trimChars text).dropWhile Char.isDigit)
  have split : text = left ++ (trimChars text).takeWhile Char.isDigit ++ between ++
      trimChars ((trimChars text).dropWhile Char.isDigit) ++ (after ++ right) := by
    calc text
      _ = left ++ trimChars text ++ right := outer
      _ = left ++ ((trimChars text).takeWhile Char.isDigit ++
            (trimChars text).dropWhile Char.isDigit) ++ right := by
          rw [List.takeWhile_append_dropWhile]
      _ = left ++ ((trimChars text).takeWhile Char.isDigit ++ (between ++
            trimChars ((trimChars text).dropWhile Char.isDigit) ++ after)) ++ right := by
          rw [← inner]
      _ = _ := by simp only [List.append_assoc]
  have written := @Written.quantity left _ between
    (trimChars ((trimChars text).dropWhile Char.isDigit)) (after ++ right) blankLeft nonempty
    (fun _ => List.mem_takeWhile_imp) blankBetween
    (List.forall_mem_append.mpr ⟨blankAfter, blankRight⟩)
  rw [← split] at written
  exact written

theorem readQuantity_of_written (written : Written raw.toList ds unit)
    (letters : ∀ c ∈ unit, c.isAlpha) :
    readQuantity raw =
      if wordLimit ≤ ofDigits ds then .error (.greatNumber (String.ofList ds))
      else .ok (ofDigits ds, unit) := by
  obtain ⟨nonempty, rest, scans, named⟩ := written.exists_scans letters
  rw [readQuantity, scans.takeWhile, scans.dropWhile, named, if_neg nonempty]

theorem exists_written_of_readQuantity (read : readQuantity raw = .ok (n, unit)) :
    ∃ ds, Written raw.toList ds unit := by
  simp only [readQuantity] at read
  split at read
  · cases read
  · next nonempty =>
    split at read
    · cases read
    · cases read
      exact ⟨_, written_of_ne_nil nonempty⟩

section Listed

variable {α β : Type}

theorem mem_of_lookup [BEq α] [LawfulBEq α] {table : List (α × β)} {a : α} {b : β}
    (listed : table.lookup a = some b) : (a, b) ∈ table := by
  obtain ⟨before, after, rfl, -⟩ := List.lookup_eq_some_iff.mp listed
  exact List.mem_append_right before List.mem_cons_self

theorem map_eq_ok_iff {x : Except ValueError α} {f : α → β} {b : β} :
    x.map f = .ok b ↔ ∃ a, x = .ok a ∧ f a = b := by
  cases x with
  | error e => simp [Except.map]
  | ok a => simp [Except.map]

/-- Reads a quantity whose unit is listed in a table, as what the number and the worth of the unit
make together. -/
def readListed (units : List (List Char × Nat)) (unknown : String → ValueError)
    (make : Nat → Nat → Except ValueError α) (raw : String) : Except ValueError α := do
  let (n, unit) ← readQuantity raw
  match units.lookup unit with
  | none => .error (unknown (String.ofList unit))
  | some worth => make n worth

variable {units : List (List Char × Nat)} {unknown : String → ValueError}
  {make : Nat → Nat → Except ValueError α} {worth : Nat}

theorem readListed_of_written (written : Written raw.toList ds unit)
    (letters : ∀ c ∈ unit, c.isAlpha) (listed : units.lookup unit = some worth) :
    readListed units unknown make raw =
      if wordLimit ≤ ofDigits ds then .error (.greatNumber (String.ofList ds))
      else make (ofDigits ds) worth := by
  rw [readListed, readQuantity_of_written written letters]
  split
  · rfl
  · simp only [bind, Except.bind, listed]

theorem exists_written_of_readListed {a : α} (h : readListed units unknown make raw = .ok a) :
    ∃ ds unit worth, Written raw.toList ds unit ∧ units.lookup unit = some worth := by
  cases read : readQuantity raw with
  | error e => simp [readListed, read, bind, Except.bind] at h
  | ok quantity =>
    obtain ⟨n, unit⟩ := quantity
    obtain ⟨ds, written⟩ := exists_written_of_readQuantity read
    cases listed : units.lookup unit with
    | none => simp [readListed, read, bind, Except.bind, listed] at h
    | some worth => exact ⟨ds, unit, worth, written, listed⟩

end Listed

end RuntimeMonitor.Recording

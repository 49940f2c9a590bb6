import Mathlib.Data.List.Basic
import Mathlib.Data.List.Induction
import RuntimeMonitor.Number.Decimal

/-!
# Canonical numerals

A run of digits is canonical when it has no superfluous zero in front. Such a run is the only one
that is written for its number, so that no numeral is lost when it is read as a number.
-/

namespace RuntimeMonitor.Number

/-- A run of digits without superfluous zeros. -/
structure Canonical (ds : List Char) : Prop where
  ne_nil : ds ≠ []
  isDigit : ∀ d ∈ ds, d.isDigit = true
  noZero : ds = ['0'] ∨ ds.head? ≠ some '0'

theorem digits_eq (n : Nat) :
    digits n = if n < 10 then [n.digitChar] else digits (n / 10) ++ [(n % 10).digitChar] :=
  Nat.toDigits_eq_if (by decide)

theorem digits_ne_nil (n : Nat) : digits n ≠ [] := Nat.toDigits_ne_nil

theorem isDigit_of_mem_digits {n : Nat} {d : Char} (h : d ∈ digits n) : d.isDigit = true :=
  Nat.isDigit_of_mem_toDigits (by decide) (by decide) h

theorem head?_digits_of_pos {n : Nat} (pos : 0 < n) : (digits n).head? ≠ some '0' := by
  induction n using Nat.strongRecOn with
  | ind n ih =>
    rw [digits_eq]
    split
    · simpa using Nat.pos_iff_ne_zero.mp pos
    · rw [List.head?_append_of_ne_nil _ (digits_ne_nil _)]
      exact ih (n / 10) (by omega) (by omega)

theorem canonical_digits (n : Nat) : Canonical (digits n) where
  ne_nil := digits_ne_nil n
  isDigit _ := isDigit_of_mem_digits
  noZero := by
    rcases Nat.eq_zero_or_pos n with rfl | pos
    · exact .inl rfl
    · exact .inr (head?_digits_of_pos pos)

theorem ofDigits_append_singleton (ds : List Char) (d : Char) :
    ofDigits (ds ++ [d]) = 10 * ofDigits ds + (d.toNat - '0'.toNat) := by
  simp [ofDigits, Nat.ofDigitChars_append, Nat.ofDigitChars_cons]

/-- The value of a digit gives the digit back. -/
theorem digitChar_sub {d : Char} (h : d.isDigit = true) :
    d.toNat - '0'.toNat < 10 ∧ (d.toNat - '0'.toNat).digitChar = d := by
  have bounds : 48 ≤ d.toNat ∧ d.toNat ≤ 57 := Char.isDigit_iff_toNat.mp h
  have small : d.toNat - '0'.toNat < 10 := by simp; omega
  refine ⟨small, Char.toNat_inj.mp ?_⟩
  rw [Nat.toNat_digitChar_of_lt_ten small]
  simp
  omega

/-- A prefix of a canonical run is canonical, unless it is empty. -/
theorem Canonical.dropLast {ds : List Char} {d : Char} (h : Canonical (ds ++ [d]))
    (ne : ds ≠ []) : Canonical ds ∧ ds ≠ ['0'] := by
  have head : ds.head? ≠ some '0' := by
    rcases h.noZero with single | head
    · have := congrArg List.length single
      simp [ne] at this
    · rwa [List.head?_append_of_ne_nil _ ne] at head
  exact ⟨⟨ne, fun c hc => h.isDigit c (by simp [hc]), .inr head⟩, by rintro rfl; simp at head⟩

theorem digits_ofDigits {ds : List Char} (h : Canonical ds) : digits (ofDigits ds) = ds := by
  induction ds using List.reverseRecOn with
  | nil => exact absurd rfl h.ne_nil
  | append_singleton ds d ih =>
    obtain ⟨small, back⟩ := digitChar_sub (h.isDigit d (by simp))
    rw [ofDigits_append_singleton, digits_eq]
    by_cases empty : ds = []
    · subst empty
      have alone : 10 * ofDigits [] + (d.toNat - '0'.toNat) = d.toNat - '0'.toNat := by simp [ofDigits]
      rw [alone, if_pos small, back, List.nil_append]
    · obtain ⟨canonical, nonzero⟩ := h.dropLast empty
      have shorter := ih canonical
      have pos : ofDigits ds ≠ 0 := fun zero => nonzero (by rw [← shorter, zero]; rfl)
      rw [if_neg (by omega), Nat.mul_add_div (by decide), Nat.mul_add_mod,
        Nat.div_eq_of_lt small, Nat.mod_eq_of_lt small, back, Nat.add_zero, shorter]

theorem toString_eq_ofList_digits (n : Nat) : toString n = String.ofList (digits n) :=
  Nat.toString_eq_ofList_toDigits

theorem digits_injective : Function.Injective digits := by
  intro m n same
  rw [← ofDigits_digits m, same, ofDigits_digits]

theorem minus_not_mem_digits (n : Nat) : '-' ∉ digits n :=
  fun minus => absurd (isDigit_of_mem_digits minus) (by decide)

theorem toList_integerText (n : Int) :
    (integerText n).toList = (if n < 0 then ['-'] else []) ++ digits n.natAbs := by
  rw [integerText, String.toList_ofList]
  split <;> rfl

/-- The sign and the digits are told apart. -/
theorem integerText_injective : Function.Injective integerText := by
  intro m n same
  have texts := congrArg String.toList same
  rw [toList_integerText, toList_integerText] at texts
  by_cases hm : m < 0
  · by_cases hn : n < 0
    · rw [if_pos hm, if_pos hn] at texts
      have sizes := digits_injective (List.append_cancel_left texts)
      omega
    · rw [if_pos hm, if_neg hn] at texts
      refine absurd ?_ (minus_not_mem_digits n.natAbs)
      rw [← List.nil_append (digits _), ← texts]
      exact List.mem_cons_self
  · by_cases hn : n < 0
    · rw [if_neg hm, if_pos hn] at texts
      refine absurd ?_ (minus_not_mem_digits m.natAbs)
      rw [← List.nil_append (digits _), texts]
      exact List.mem_cons_self
    · rw [if_neg hm, if_neg hn] at texts
      have sizes := digits_injective (List.append_cancel_left texts)
      omega

theorem space_not_mem_integerText (n : Int) : ' ' ∉ (integerText n).toList := by
  rw [toList_integerText, List.mem_append, not_or]
  constructor
  · split <;> decide
  · exact fun space => absurd (isDigit_of_mem_digits space) (by decide)

end RuntimeMonitor.Number

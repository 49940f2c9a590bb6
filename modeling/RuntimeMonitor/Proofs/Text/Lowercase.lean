import Mathlib.Data.Set.Finite.Basic
import RuntimeMonitor.Text.Lowercase

/-!
# Texts that are in lower case already

ASCII texts without capitals are their own lower case. There are infinitely many of them, so that
no finite number of names uses up all that a text can become.
-/

namespace RuntimeMonitor.Text

/-- An ASCII character that is no capital. -/
def IsSmall (c : Char) : Prop := c.toNat < 0x80 ∧ c.toLower = c

instance (c : Char) : Decidable (IsSmall c) := inferInstanceAs (Decidable (_ ∧ _))

theorem lowerChar_of_isSmall {c : Char} (small : IsSmall c) : lowerChar c = [c] := by
  rw [lowerChar, if_pos small.1, small.2]

theorem lowerFrom_of_isSmall {s : List Char} (small : ∀ c ∈ s, IsSmall c) (inWord : Bool) :
    lowerFrom inWord s = s := by
  induction s generalizing inWord with
  | nil => rfl
  | cons c rest ih =>
    obtain ⟨first, later⟩ := List.forall_mem_cons.mp small
    have other : c ≠ 'Σ' := by
      rintro rfl
      exact absurd first (by decide)
    rw [lowerFrom, if_neg fun sigma => other sigma.1, lowerChar_of_isSmall first, ih later]
    rfl

theorem lowercase_of_isSmall {s : String} (small : ∀ c ∈ s.toList, IsSmall c) :
    lowercase s = s := by
  rw [lowercase, lowerFrom_of_isSmall small, String.ofList_toList]

theorem infinite_range_lowercase : (Set.range lowercase).Infinite := by
  have run (n : ℕ) : String.ofList (List.replicate n 'a') ∈ Set.range lowercase := by
    refine ⟨_, lowercase_of_isSmall ?_⟩
    intro c mem
    rw [String.toList_ofList] at mem
    rw [List.eq_of_mem_replicate mem]
    decide
  refine Set.infinite_of_injective_forall_mem ?_ run
  intro m n same
  exact List.replicate_left_injective 'a' (String.ofList_inj.mp same)

/-- There is a text whose lower case is none of the names. -/
theorem exists_lowercase_notMem (names : List String) : ∃ s, lowercase s ∉ names := by
  obtain ⟨-, ⟨s, rfl⟩, fresh⟩ := infinite_range_lowercase.exists_notMem_finset names.toFinset
  exact ⟨s, mt List.mem_toFinset.mpr fresh⟩

end RuntimeMonitor.Text

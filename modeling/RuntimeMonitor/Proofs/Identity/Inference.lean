import Mathlib
import RuntimeMonitor.Proofs.Identity.ElementType

/-!
# The type of an array of arguments

The type of an array depends on which elements there are and not on where they stand: an element
that a type refuses is refused wherever it is moved to.
-/

namespace RuntimeMonitor.Identity

section Lists

variable {α β : Type}

/-- The elements at some positions, in the order of the positions. -/
def pick (positions : List Nat) (xs : List α) : List α := positions.filterMap (xs[·]?)

theorem pick_eq_of_forall₂ {xs ys : List α} {positions : List Nat}
    (found : List.Forall₂ (fun i y => xs[i]? = some y) positions ys) : pick positions xs = ys := by
  induction found with
  | nil => rfl
  | cons head _ ih => rw [pick, List.filterMap_cons_some head, ← pick, ih]

theorem forall₂_range (xs : List α) :
    List.Forall₂ (fun i x => xs[i]? = some x) (List.range xs.length) xs := by
  refine List.forall₂_iff_get.mpr ⟨List.length_range, ?_⟩
  intro i _ inside
  simp [inside]

theorem pick_perm {positions : List Nat} {xs : List α}
    (perm : positions.Perm (List.range xs.length)) : (pick positions xs).Perm xs := by
  have moved : (pick positions xs).Perm (pick (List.range xs.length) xs) := perm.filterMap _
  rwa [pick_eq_of_forall₂ (forall₂_range xs)] at moved

theorem exists_pick_of_perm {xs ys : List α} (perm : ys.Perm xs) :
    ∃ positions, positions.Perm (List.range xs.length) ∧ ys = pick positions xs := by
  obtain ⟨positions, found, moved⟩ := List.perm_comp_forall₂ perm (forall₂_range xs).flip
  exact ⟨positions, moved, (pick_eq_of_forall₂ found.flip).symm⟩

theorem pick_map (positions : List Nat) (f : α → β) (xs : List α) :
    pick positions (xs.map f) = (pick positions xs).map f := by
  simp [pick, List.map_filterMap]

theorem forall₂_pick {R : α → β → Prop} {xs : List α} {ys : List β} (each : List.Forall₂ R xs ys)
    (positions : List Nat) : List.Forall₂ R (pick positions xs) (pick positions ys) := by
  have length := each.length_eq
  induction positions with
  | nil => exact .nil
  | cons i positions ih =>
    by_cases inside : i < xs.length
    · have left : xs[i]? = some xs[i] := List.getElem?_eq_getElem inside
      have right : ys[i]? = some ys[i] := List.getElem?_eq_getElem (length ▸ inside)
      rw [pick, pick, List.filterMap_cons_some left, List.filterMap_cons_some right]
      exact .cons (each.get inside (length ▸ inside)) ih
    · have left : xs[i]? = none := List.getElem?_eq_none (by omega)
      have right : ys[i]? = none := List.getElem?_eq_none (by omega)
      rw [pick, pick, List.filterMap_cons_none left, List.filterMap_cons_none right]
      exact ih

end Lists

namespace Arguments

variable {elements : List Json} {a : Arguments}

theorem exists_error_ofJson_iff {j : Json} :
    (∃ e, ofJson j = .error e) ↔
      (j ≠ .null ∧ ∀ elements, j ≠ .array elements) ∨
        ∃ elements, j = .array elements ∧ ∃ k ∈ elements, Nested k := by
  cases j with
  | null => simp [ofJson]
  | array elements => simpa [ofJson] using exists_error_ofItems_iff
  | _ => simp [ofJson]

/-- The items at some positions, of the same type. -/
def rearrange (positions : List Nat) : Arguments → Arguments
  | strings xs => strings (pick positions xs)
  | booleans xs => booleans (pick positions xs)
  | bytes xs => bytes (pick positions xs)
  | chars xs => chars (pick positions xs)
  | shorts xs => shorts (pick positions xs)
  | ints xs => ints (pick positions xs)
  | longs xs => longs (pick positions xs)
  | floats xs => floats (pick positions xs)
  | doubles xs => doubles (pick positions xs)
  | objects xs => objects (pick positions xs)

theorem texts_rearrange (positions : List Nat) (a : Arguments) :
    (a.rearrange positions).texts = pick positions a.texts := by
  cases a with
  | strings xs => rfl
  | _ => exact (pick_map positions _ _).symm

theorem ctorIdx_rearrange (positions : List Nat) (a : Arguments) :
    (a.rearrange positions).ctorIdx = a.ctorIdx := by
  cases a <;> rfl

theorem Refused.rearrange {α : Type} {read : Json → Option α} {positions : List Nat}
    (refused : Refused read elements) (perm : positions.Perm (List.range elements.length)) :
    Refused read (pick positions elements) := by
  obtain ⟨j, mem, none⟩ := refused
  exact ⟨j, (pick_perm perm).mem_iff.mpr mem, none⟩

/-- Wherever its elements are moved to, an array keeps its type, and the items move along. -/
theorem ReadAs.rearrange {positions : List Nat} (typed : ReadAs elements a)
    (perm : positions.Perm (List.range elements.length)) :
    ReadAs (pick positions elements) (a.rearrange positions) := by
  cases typed with
  | strings each => exact .strings (forall₂_pick each positions)
  | booleans noStrings each =>
    exact .booleans (noStrings.rearrange perm) (forall₂_pick each positions)
  | longs noStrings noBooleans each =>
    exact .longs (noStrings.rearrange perm) (noBooleans.rearrange perm)
      (forall₂_pick each positions)
  | doubles noStrings noBooleans noLongs each =>
    exact .doubles (noStrings.rearrange perm) (noBooleans.rearrange perm) (noLongs.rearrange perm)
      (forall₂_pick each positions)
  | objects noStrings noBooleans noLongs noDoubles each =>
    exact .objects (noStrings.rearrange perm) (noBooleans.rearrange perm) (noLongs.rearrange perm)
      (noDoubles.rearrange perm) (forall₂_pick each positions)

theorem ReadAs.size_eq (typed : ReadAs elements a) : a.size = elements.length := by
  cases typed with
  | strings each => exact each.length_eq.symm
  | booleans _ each => exact (List.length_map _).trans each.length_eq.symm
  | longs _ _ each => exact (List.length_map _).trans each.length_eq.symm
  | doubles _ _ _ each => exact (List.length_map _).trans each.length_eq.symm
  | objects _ _ _ _ each => exact (List.length_map _).trans each.length_eq.symm

/-- Only `null` and arrays without nested values are read. An array is read as items of the first
type that all its elements have, one for each of them in their order. In whatever order the
elements stand, the type is the same and the items stand in that order too. -/
theorem ofJson_infers_type :
    (∀ j, (∃ e, ofJson j = .error e) ↔
      (j ≠ .null ∧ ∀ elements, j ≠ .array elements) ∨
        ∃ elements, j = .array elements ∧ ∃ k ∈ elements, Nested k) ∧
    ofJson .null = .ok (strings []) ∧
    (∀ elements a, ofJson (.array elements) = .ok a ↔
      ReadAs elements a ∧ a.size = elements.length) ∧
    ∀ elements a, ofJson (.array elements) = .ok a →
      (∀ others, others.Perm elements → ∃ positions,
        positions.Perm (List.range elements.length) ∧ others = pick positions elements) ∧
      ∀ positions, positions.Perm (List.range elements.length) →
        ofJson (.array (pick positions elements)) = .ok (a.rearrange positions) ∧
        (a.rearrange positions).ctorIdx = a.ctorIdx ∧
        (a.rearrange positions).render = bracketed (pick positions a.texts) := by
  refine ⟨fun j => exists_error_ofJson_iff, rfl, ?_, ?_⟩
  · intro elements a
    constructor
    · intro read
      have typed : ReadAs elements a := ofItems_eq_ok_iff.mp read
      exact ⟨typed, typed.size_eq⟩
    · exact fun typed => ofItems_of_readAs typed.1
  · intro elements a read
    refine ⟨fun others perm => exists_pick_of_perm perm, ?_⟩
    intro positions perm
    have typed : ReadAs elements a := ofItems_eq_ok_iff.mp read
    refine ⟨ofItems_of_readAs (typed.rearrange perm), ctorIdx_rearrange positions a, ?_⟩
    rw [render, texts_rearrange]

/-- An integer beyond the signed words among objects, moved to the front together with its text. -/
theorem ofJson_infers_type_moved :
    let word : Json := .ofNat (2 ^ 63) (by decide)
    let elements : List Json := [.string "7", .null, word]
    let a : Arguments := objects [some "7", none, some "9223372036854775808"]
    let moved : Arguments := objects [some "9223372036854775808", some "7", none]
    ofJson (.array elements) = .ok a ∧ [2, 0, 1].Perm (List.range elements.length) ∧
      ofJson (.array [word, .string "7", .null]) = .ok moved ∧
      moved.render = "[9223372036854775808, 7, null]" := by
  intro word elements a moved
  have read : ofJson (.array elements) = .ok a := by rfl
  have perm : [2, 0, 1].Perm (List.range elements.length) := by decide
  obtain ⟨again, -, -⟩ := (ofJson_infers_type.2.2.2 elements a read).2 [2, 0, 1] perm
  exact ⟨read, perm, again, by decide⟩

end Arguments
end RuntimeMonitor.Identity

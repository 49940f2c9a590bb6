import Mathlib
import RuntimeMonitor.Identity.Arguments
import RuntimeMonitor.Proofs.Json.Traversal

/-!
# The types of array elements

Types are tried in turn, and each takes an array as a whole or not at all. A nested value is refused
by every type, objects included, and nothing else is refused by objects. So an array is read as
items of the first type that all its elements have, unless a value in it is nested.
-/

namespace RuntimeMonitor.Identity

namespace Arguments

/-- Whether a value holds other values. -/
inductive Nested : Json → Prop
  | array (items : List Json) : Nested (.array items)
  | object (members : List (String × Json)) : Nested (.object members)

/-- Whether some element is not of a type, so that the array is not. -/
def Refused {α : Type} (read : Json → Option α) (elements : List Json) : Prop :=
  ∃ j ∈ elements, read j = none

/-- Whether each element is read as the item at its place. -/
def Each {α : Type} (read : Json → Option α) (elements : List Json) (items : List α) : Prop :=
  List.Forall₂ (fun j x => read j = some x) elements items

abbrev readLong : Json → Option Int64 := JsonForm.ofJson?

def readObject (j : Json) : Option (Option String) := (objectText? j).toOption

/-- What an array is read as: items of the first type that all its elements have. -/
inductive ReadAs (elements : List Json) : Arguments → Prop
  | strings {xs} : Each Json.string? elements xs → ReadAs elements (strings xs)
  | booleans {xs} : Refused Json.string? elements → Each Json.boolean? elements xs →
      ReadAs elements (booleans xs)
  | longs {xs} : Refused Json.string? elements → Refused Json.boolean? elements →
      Each readLong elements xs → ReadAs elements (longs xs)
  | doubles {xs} : Refused Json.string? elements → Refused Json.boolean? elements →
      Refused readLong elements → Each Json.double? elements xs → ReadAs elements (doubles xs)
  | objects {xs} : Refused Json.string? elements → Refused Json.boolean? elements →
      Refused readLong elements → Refused Json.double? elements → Each readObject elements xs →
      ReadAs elements (objects xs)

variable {elements : List Json} {a : Arguments}

section Map

variable {α β : Type} {read : Json → Option α} {write : β → Json} {xs : List β}

/-- Elements that are each read as they were written are read so together. -/
theorem each_map {value : β → α} (back : ∀ x ∈ xs, read (write x) = some (value x)) :
    Each read (xs.map write) (xs.map value) := by
  rw [Each, List.forall₂_map_left_iff, List.forall₂_map_right_iff, List.forall₂_same]
  exact back

theorem refused_map {x : β} (mem : x ∈ xs) (refused : read (write x) = none) :
    Refused read (xs.map write) :=
  ⟨write x, List.mem_map_of_mem mem, refused⟩

end Map

theorem exists_each_or_refused {α : Type} (read : Json → Option α) (elements : List Json) :
    (∃ xs, Each read elements xs) ∨ Refused read elements := by
  cases outcome : elements.mapM read with
  | none => exact .inr (mapM_eq_none_iff.mp outcome)
  | some xs => exact .inl ⟨xs, mapM_eq_some_iff.mp outcome⟩

theorem readObject_eq_none_iff {j : Json} : readObject j = none ↔ Nested j := by
  constructor
  · intro refused
    cases j with
    | array items => exact .array items
    | object members => exact .object members
    | _ => cases refused
  · rintro (_ | _) <;> rfl

theorem mapM_objectText?_eq_ok_iff {xs : List (Option String)} :
    elements.mapM objectText? = .ok xs ↔ Each readObject elements xs := by
  have options : (elements.mapM objectText?).toOption = elements.mapM readObject :=
    toOption_mapM objectText? elements
  rw [Each, ← mapM_eq_some_iff, ← options]
  cases elements.mapM objectText? <;> simp [Except.toOption]

theorem ofItems_of_readAs (typed : ReadAs elements a) : ofItems elements = .ok a := by
  cases typed with
  | strings each => simp only [ofItems, mapM_eq_some_iff.mpr each]
  | booleans noStrings each =>
    simp only [ofItems, mapM_eq_none_iff.mpr noStrings, mapM_eq_some_iff.mpr each]
  | longs noStrings noBooleans each =>
    simp only [ofItems, mapM_eq_none_iff.mpr noStrings, mapM_eq_none_iff.mpr noBooleans,
      mapM_eq_some_iff.mpr each]
  | doubles noStrings noBooleans noLongs each =>
    simp only [ofItems, mapM_eq_none_iff.mpr noStrings, mapM_eq_none_iff.mpr noBooleans,
      mapM_eq_none_iff.mpr noLongs, mapM_eq_some_iff.mpr each]
  | objects noStrings noBooleans noLongs noDoubles each =>
    simp only [ofItems, mapM_eq_none_iff.mpr noStrings, mapM_eq_none_iff.mpr noBooleans,
      mapM_eq_none_iff.mpr noLongs, mapM_eq_none_iff.mpr noDoubles,
      mapM_objectText?_eq_ok_iff.mpr each, Except.map]

theorem exists_error_of_nested {j : Json} (mem : j ∈ elements) (nested : Nested j) :
    ∃ e, ofItems elements = .error e := by
  have noStrings : Refused Json.string? elements := ⟨j, mem, by cases nested <;> rfl⟩
  have noBooleans : Refused Json.boolean? elements := ⟨j, mem, by cases nested <;> rfl⟩
  have noLongs : Refused readLong elements := ⟨j, mem, by cases nested <;> rfl⟩
  have noDoubles : Refused Json.double? elements := ⟨j, mem, by cases nested <;> rfl⟩
  have noObjects : Refused readObject elements := ⟨j, mem, readObject_eq_none_iff.mpr nested⟩
  simp only [ofItems, mapM_eq_none_iff.mpr noStrings, mapM_eq_none_iff.mpr noBooleans,
    mapM_eq_none_iff.mpr noLongs, mapM_eq_none_iff.mpr noDoubles]
  cases outcome : elements.mapM objectText? with
  | error e => exact ⟨e, rfl⟩
  | ok xs =>
    have read := mapM_eq_some_iff.mpr (mapM_objectText?_eq_ok_iff.mp outcome)
    rw [mapM_eq_none_iff.mpr noObjects] at read
    cases read

theorem exists_readAs_or_nested (elements : List Json) :
    (∃ a, ReadAs elements a) ∨ ∃ j ∈ elements, Nested j := by
  rcases exists_each_or_refused Json.string? elements with ⟨xs, each⟩ | noStrings
  · exact .inl ⟨_, .strings each⟩
  rcases exists_each_or_refused Json.boolean? elements with ⟨xs, each⟩ | noBooleans
  · exact .inl ⟨_, .booleans noStrings each⟩
  rcases exists_each_or_refused readLong elements with ⟨xs, each⟩ | noLongs
  · exact .inl ⟨_, .longs noStrings noBooleans each⟩
  rcases exists_each_or_refused Json.double? elements with ⟨xs, each⟩ | noDoubles
  · exact .inl ⟨_, .doubles noStrings noBooleans noLongs each⟩
  rcases exists_each_or_refused readObject elements with ⟨xs, each⟩ | ⟨j, mem, refused⟩
  · exact .inl ⟨_, .objects noStrings noBooleans noLongs noDoubles each⟩
  · exact .inr ⟨j, mem, readObject_eq_none_iff.mp refused⟩

theorem ofItems_eq_ok_iff : ofItems elements = .ok a ↔ ReadAs elements a := by
  constructor
  · intro typed
    rcases exists_readAs_or_nested elements with ⟨b, other⟩ | ⟨j, mem, nested⟩
    · rw [ofItems_of_readAs other] at typed
      exact Except.ok.inj typed ▸ other
    · obtain ⟨e, failed⟩ := exists_error_of_nested mem nested
      rw [failed] at typed
      cases typed
  · exact ofItems_of_readAs

theorem exists_error_ofItems_iff :
    (∃ e, ofItems elements = .error e) ↔ ∃ j ∈ elements, Nested j := by
  constructor
  · rintro ⟨e, failed⟩
    rcases exists_readAs_or_nested elements with ⟨a, typed⟩ | nested
    · rw [ofItems_of_readAs typed] at failed
      cases failed
    · exact nested
  · rintro ⟨j, mem, nested⟩
    exact exists_error_of_nested mem nested

end Arguments
end RuntimeMonitor.Identity

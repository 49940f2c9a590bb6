import RuntimeMonitor.Proofs.Json.RoundTrip

/-!
# Types with one JSON form

The form of a type is exact when each of its values is read from the JSON that is written for it and
from no other. Texts, truth values, words and lists of such have exact forms. Records do not, since
they are read from arrays too.
-/

namespace RuntimeMonitor.JsonForm

/-- A value is read from its JSON form and from nothing else. -/
class Exact (α : Type) [JsonForm α] : Prop where
  ofJson?_eq_some_iff : ∀ {j : Json} {x : α}, ofJson? j = some x ↔ j = toJson x

export Exact (ofJson?_eq_some_iff)

/-- A lawful form is exact if nothing is read that would not have been written so. -/
theorem Exact.of_lawful {α : Type} [JsonForm α] [Lawful α]
    (only : ∀ (j : Json) (x : α), ofJson? j = some x → j = toJson x) : Exact α where
  ofJson?_eq_some_iff {j x} := by
    constructor
    · exact only j x
    · rintro rfl
      exact ofJson?_toJson x

instance : Exact String := .of_lawful fun j x read => by
  cases j with
  | string s => exact congrArg Json.string (Option.some.inj read)
  | _ => cases read

instance : Exact UInt8 := .of_lawful fun j x read => by
  obtain ⟨n, bounded, rfl⟩ := Option.map_eq_some_iff.mp read
  obtain ⟨inRange, rfl, low, high⟩ := Json.bounded?_eq_some_iff.mp bounded
  have back : ((UInt8.ofNat n.toNat).toNat : Int) = n := by
    rw [UInt8.toNat_ofNat']
    omega
  change _ = Json.number (.integer ((UInt8.ofNat n.toNat).toNat : Int) _)
  simp only [back]

instance : Exact Int64 := .of_lawful fun j x read => by
  obtain ⟨n, bounded, rfl⟩ := Option.map_eq_some_iff.mp read
  obtain ⟨inRange, rfl, low, high⟩ := Json.bounded?_eq_some_iff.mp bounded
  have back : (Int64.ofInt n).toInt = n := Int64.toInt_ofInt_of_le low high
  change _ = Json.number (.integer (Int64.ofInt n).toInt _)
  simp only [back]

instance {α : Type} [JsonForm α] [Lawful α] [Exact α] : Exact (List α) :=
  .of_lawful fun j xs read => by
    obtain ⟨items, array, each⟩ := Option.bind_eq_some_iff.mp read
    have same : List.Forall₂ (fun j x => j = toJson x) items xs :=
      (mapM_eq_some_iff.mp each).imp fun _ _ => ofJson?_eq_some_iff.mp
    have written : items = xs.map toJson := by
      rw [← List.forall₂_eq_eq_eq, List.forall₂_map_right_iff]
      exact same
    cases j with
    | array items' =>
      cases array
      exact congrArg Json.array written
    | _ => cases array

end RuntimeMonitor.JsonForm

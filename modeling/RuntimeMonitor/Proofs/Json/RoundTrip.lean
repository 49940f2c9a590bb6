import RuntimeMonitor.Cache.Handle
import RuntimeMonitor.Proofs.Json.Traversal

/-!
# Types that are read back from JSON

A type has a lawful form when each of its values is read back from the JSON that is written for
it. Integers keep to their range, lists go element by element, and an optional value is lawful when
no present value is written as `null`.
-/

namespace RuntimeMonitor

/-- An integer that is written within some bounds is read within them. -/
theorem Json.bounded?_integer {low high n : Int} {inRange : -2 ^ 63 ≤ n ∧ n < 2 ^ 64}
    (ge : low ≤ n) (lt : n < high) :
    (Json.number (.integer n inRange)).bounded? low high = some n :=
  Option.filter_eq_some_iff.mpr ⟨rfl, decide_eq_true ⟨ge, lt⟩⟩

/-- Only integers within the bounds are read, and no doubles. -/
theorem Json.bounded?_eq_some_iff {low high n : Int} {j : Json} :
    j.bounded? low high = some n ↔
      ∃ inRange, j = .number (.integer n inRange) ∧ low ≤ n ∧ n < high := by
  constructor
  · intro read
    obtain ⟨value, within⟩ := Option.filter_eq_some_iff.mp read
    obtain ⟨ge, lt⟩ := of_decide_eq_true within
    cases j with
    | number value' =>
      cases value' with
      | integer n' inRange =>
        cases value
        exact ⟨inRange, rfl, ge, lt⟩
      | real x finite => cases value
    | _ => cases value
  · rintro ⟨inRange, rfl, ge, lt⟩
    exact Json.bounded?_integer ge lt

namespace JsonForm

/-- Every value is read back from its JSON form. -/
class Lawful (α : Type) [JsonForm α] : Prop where
  ofJson?_toJson : ∀ x : α, ofJson? (toJson x) = some x

export Lawful (ofJson?_toJson)

instance : Lawful Json := ⟨fun _ => rfl⟩

instance : Lawful String := ⟨fun _ => rfl⟩

instance : Lawful Bool := ⟨fun _ => rfl⟩

/-- A word is written as its number, which is within the bounds that it is read in. -/
theorem ofJson?_word {α : Type} {ofNat : Nat → α} {x : α} {n : Nat} {high : Int} (small : n < 2 ^ 64)
    (lt : (n : Int) < high) (back : ofNat n = x) :
    ((Json.ofNat n small).bounded? 0 high).map (fun m => ofNat m.toNat) = some x := by
  have read : (Json.ofNat n small).bounded? 0 high = some (n : Int) :=
    Json.bounded?_integer (Int.natCast_nonneg n) lt
  rw [read, Option.map_some, Int.toNat_natCast, back]

instance : Lawful UInt8 :=
  ⟨fun n => ofJson?_word _ (by exact_mod_cast n.toNat_lt) UInt8.ofNat_toNat⟩

instance : Lawful UInt16 :=
  ⟨fun n => ofJson?_word _ (by exact_mod_cast n.toNat_lt) UInt16.ofNat_toNat⟩

instance : Lawful UInt64 :=
  ⟨fun n => ofJson?_word _ (by exact_mod_cast n.toNat_lt) UInt64.ofNat_toNat⟩

instance : Lawful Int64 where
  ofJson?_toJson n := by
    have read : (toJson n).bounded? (-2 ^ 63) (2 ^ 63) = some n.toInt :=
      Json.bounded?_integer n.le_toInt n.toInt_lt
    change ((toJson n).bounded? (-2 ^ 63) (2 ^ 63)).map Int64.ofInt = some n
    rw [read, Option.map_some, Int64.ofInt_toInt]

instance {α : Type} [JsonForm α] [Lawful α] : Lawful (List α) where
  ofJson?_toJson xs := by
    have read : (xs.map toJson).mapM (ofJson? (α := α)) = some (xs.map id) :=
      mapM_map_eq_pure toJson ofJson? id ofJson?_toJson xs
    rw [List.map_id] at read
    exact read

/-- A present value must not be taken for an absent one. -/
theorem Lawful.option {α : Type} [JsonForm α] [Lawful α] (present : ∀ x : α, toJson x ≠ .null) :
    Lawful (Option α) where
  ofJson?_toJson
    | none => rfl
    | some x => by
      have back : ofJson? (toJson x) = some x := ofJson?_toJson x
      have ne : toJson x ≠ .null := present x
      change ofJson? (α := Option α) (toJson x) = some (some x)
      generalize toJson x = j at back ne
      cases j with
      | null => exact absurd rfl ne
      | _ => exact congrArg (Option.map some) back

instance : Lawful (Option String) := .option nofun

/-- A handle is read field by field. -/
theorem ofJson?_handle {j first second : Json} {host : String} {port : UInt16}
    (fields : j.fields? ["host", "port"] = some [first, second])
    (hostRead : ofJson? first = some host) (portRead : ofJson? second = some port) :
    ofJson? j = some (Cache.Handle.mk host port) := by
  -- The reader is bound to the fields first, to the host next and to the port last.
  show (j.fields? ["host", "port"]).bind _ = _
  rw [fields]
  show (ofJson? first).bind _ = _
  rw [hostRead]
  show (ofJson? second).bind _ = _
  rw [portRead]
  rfl

instance : Lawful Cache.Handle where
  ofJson?_toJson h := by
    have fields : (toJson h).fields? ["host", "port"] = some [toJson h.host, toJson h.port] := rfl
    exact ofJson?_handle fields (ofJson?_toJson h.host) (ofJson?_toJson h.port)

end JsonForm
end RuntimeMonitor

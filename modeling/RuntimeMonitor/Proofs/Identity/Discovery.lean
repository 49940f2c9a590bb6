import Mathlib
import RuntimeMonitor.Identity.Basic
import RuntimeMonitor.Proofs.Identity.Canonical
import RuntimeMonitor.Proofs.Identity.ElementType
import RuntimeMonitor.Proofs.Json.RoundTrip

/-!
# Attributes that come as JSON

Discovery hands attributes over as JSON values under their names. Of the arguments only the
values arrive and not their type, so an array may be read as one of another type. It is then an
array with the same texts: an empty one, or objects of which none is absent. So the encoding and
the identity are those of the attributes that were handed over.
-/

namespace RuntimeMonitor.Identity

open Number

namespace Arguments

/-- A finite number in floating point, also when it is whole. -/
def real (x : { x : Double // x.isFinite = true }) : Json := .number (.real x.1 x.2)

/-- The JSON values that arguments are handed over as. Only finite numbers can be. -/
inductive Written : Arguments → List Json → Prop
  | strings (xs : List String) : Written (strings xs) (xs.map .string)
  | booleans (xs : List Bool) : Written (booleans xs) (xs.map .boolean)
  | longs (xs : List Int64) : Written (longs xs) (xs.map JsonForm.toJson)
  | doubles (xs : List { x : Double // x.isFinite = true }) :
      Written (doubles (xs.map (·.1))) (xs.map real)
  | objects (xs : List (Option String)) : Written (objects xs) (xs.map JsonForm.toJson)

theorem ofItems_strings (xs : List String) : ofItems (xs.map .string) = .ok (strings xs) := by
  have each : Each Json.string? (xs.map .string) (xs.map id) := each_map fun _ _ => rfl
  rw [List.map_id] at each
  exact ofItems_of_readAs (.strings each)

theorem ofItems_booleans {xs : List Bool} (nonempty : xs ≠ []) :
    ofItems (xs.map .boolean) = .ok (booleans xs) := by
  obtain ⟨x, mem⟩ := List.exists_mem_of_ne_nil xs nonempty
  have each : Each Json.boolean? (xs.map .boolean) (xs.map id) := each_map fun _ _ => rfl
  rw [List.map_id] at each
  exact ofItems_of_readAs (.booleans (refused_map mem rfl) each)

theorem ofItems_longs {xs : List Int64} (nonempty : xs ≠ []) :
    ofItems (xs.map JsonForm.toJson) = .ok (longs xs) := by
  obtain ⟨x, mem⟩ := List.exists_mem_of_ne_nil xs nonempty
  have each : Each readLong (xs.map JsonForm.toJson) (xs.map id) :=
    each_map fun x _ => JsonForm.ofJson?_toJson x
  rw [List.map_id] at each
  exact ofItems_of_readAs (.longs (refused_map mem rfl) (refused_map mem rfl) each)

theorem ofItems_doubles {xs : List { x : Double // x.isFinite = true }} (nonempty : xs ≠ []) :
    ofItems (xs.map real) = .ok (doubles (xs.map (·.1))) := by
  obtain ⟨x, mem⟩ := List.exists_mem_of_ne_nil xs nonempty
  have each : Each Json.double? (xs.map real) (xs.map (·.1)) := each_map fun _ _ => rfl
  exact ofItems_of_readAs
    (.doubles (refused_map mem rfl) (refused_map mem rfl) (refused_map mem rfl) each)

/-- An absent object keeps an array from being read as anything else. -/
theorem ofItems_objects {xs : List (Option String)} (absent : none ∈ xs) :
    ofItems (xs.map JsonForm.toJson) = .ok (objects xs) := by
  have back : ∀ o ∈ xs, readObject (JsonForm.toJson o) = some (id o) := by
    intro o _
    cases o <;> rfl
  have each : Each readObject (xs.map JsonForm.toJson) (xs.map id) := each_map back
  rw [List.map_id] at each
  exact ofItems_of_readAs (.objects (refused_map absent rfl) (refused_map absent rfl)
    (refused_map absent rfl) (refused_map absent rfl) each)

/-- Objects that are all present come as their texts. -/
theorem toJson_of_present {xs : List (Option String)} (present : none ∉ xs) :
    xs.map JsonForm.toJson = (xs.map (·.getD "null")).map Json.string := by
  rw [List.map_map]
  refine List.map_congr_left ?_
  intro o mem
  cases o with
  | none => exact absurd mem present
  | some s => rfl

/-- What comes back may be of another type, but has the same texts. An empty array is one of
strings, whatever it was. -/
theorem exists_ofItems {a : Arguments} {items : List Json} (written : a.Written items) :
    ∃ b, ofItems items = .ok b ∧ b.texts = a.texts := by
  cases written with
  | strings xs => exact ⟨_, ofItems_strings xs, rfl⟩
  | booleans xs =>
    cases xs with
    | nil => exact ⟨_, ofItems_strings [], rfl⟩
    | cons x xs => exact ⟨_, ofItems_booleans (List.cons_ne_nil x xs), rfl⟩
  | longs xs =>
    cases xs with
    | nil => exact ⟨_, ofItems_strings [], rfl⟩
    | cons x xs => exact ⟨_, ofItems_longs (List.cons_ne_nil x xs), rfl⟩
  | doubles xs =>
    cases xs with
    | nil => exact ⟨_, ofItems_strings [], rfl⟩
    | cons x xs => exact ⟨_, ofItems_doubles (List.cons_ne_nil x xs), rfl⟩
  | objects xs =>
    by_cases absent : none ∈ xs
    · exact ⟨_, ofItems_objects absent, rfl⟩
    · rw [toJson_of_present absent]
      exact ⟨_, ofItems_strings _, rfl⟩

end Arguments

namespace AttributeMap

/-- A text under its name. An empty one may also be `null` or be left out. -/
inductive HoldsText : Option Json → String → Prop
  | string (text : String) : HoldsText (some (.string text)) text
  | null : HoldsText (some .null) ""
  | missing : HoldsText none ""

/-- A map with attributes under their names, whatever else it holds. -/
structure Holds (m : AttributeMap) (a : Attributes) : Prop where
  classPath : HoldsText (m "ClassPath") a.classPath
  name : HoldsText (m "Name") a.name
  inputArguments : ∃ items, m "InputArguments" = some (.array items) ∧ a.inputArguments.Written items
  libraryPath : HoldsText (m "LibraryPath") a.libraryPath
  vmVendor : HoldsText (m "VmVendor") a.vmVendor
  vmVersion : HoldsText (m "VmVersion") a.vmVersion
  startTime : m "StartTime" = some (JsonForm.toJson a.startTime)

variable {m : AttributeMap} {a : Attributes}

theorem text_eq_ok {name text : String} (holds : HoldsText (m name) text) :
    m.text name = .ok text := by
  unfold AttributeMap.text
  generalize m name = value at holds
  cases holds <;> rfl

theorem startTime_eq_ok (holds : m.Holds a) : m.startTime = .ok a.startTime := by
  unfold AttributeMap.startTime
  rw [holds.startTime]
  simp only [JsonForm.ofJson?_toJson]

theorem toAttributes_eq_ok (holds : m.Holds a) :
    ∃ arguments, m.toAttributes = .ok { a with inputArguments := arguments } ∧
      arguments.texts = a.inputArguments.texts := by
  obtain ⟨items, found, written⟩ := holds.inputArguments
  obtain ⟨arguments, read, same⟩ := Arguments.exists_ofItems written
  refine ⟨arguments, ?_, same⟩
  have typed : Arguments.ofJson ((m "InputArguments").getD .null) = .ok arguments := by
    rw [found]
    exact read
  unfold AttributeMap.toAttributes
  rw [startTime_eq_ok holds, text_eq_ok holds.classPath, text_eq_ok holds.name, typed,
    text_eq_ok holds.libraryPath, text_eq_ok holds.vmVendor, text_eq_ok holds.vmVersion]
  rfl

end AttributeMap

/-- Attributes that come as JSON are read, and to the encoding they are the ones that were handed
over. -/
theorem toAttributes_agree {m : AttributeMap} {a : Attributes} (holds : m.Holds a) :
    ∃ b, m.toAttributes = .ok b ∧ Agree a b ∧ b.canonicalBytes = a.canonicalBytes ∧
      Identity.ofAttributes b = Identity.ofAttributes a := by
  obtain ⟨arguments, read, texts⟩ := AttributeMap.toAttributes_eq_ok holds
  have rendered : a.inputArguments.render = arguments.render := by
    rw [Arguments.render, Arguments.render, texts]
  have agree : Agree a { a with inputArguments := arguments } :=
    ⟨rfl, rfl, rendered, rfl, rfl, rfl, rfl⟩
  have bytes := (canonicalBytes_eq_of_agree agree).symm
  refine ⟨_, read, agree, bytes, ?_⟩
  rw [Identity.ofAttributes, Identity.ofAttributes, bytes]

/-- Objects that come as strings, among empty texts that are written in each of the three ways and
a member that is no attribute. -/
theorem toAttributes_agree_retyped :
    let a : Attributes := ⟨"", "41@host", .objects [some "true", some "7"], "", "é", "", -1⟩
    let b : Attributes := { a with inputArguments := .strings ["true", "7"] }
    let m := AttributeMap.ofMembers [("StartTime", JsonForm.toJson (-1 : Int64)),
      ("ClassPath", .null), ("Name", .string "41@host"), ("Uptime", .boolean true),
      ("InputArguments", .array [.string "true", .string "7"]), ("VmVendor", .string "é"),
      ("VmVersion", .string "")]
    m.Holds a ∧ m.toAttributes = .ok b ∧ a ≠ b ∧
      Identity.ofAttributes b = Identity.ofAttributes a := by
  intro a b m
  have holds : m.Holds a :=
    { classPath := .null
      name := .string _
      inputArguments := ⟨_, rfl, .objects _⟩
      libraryPath := .missing
      vmVendor := .string _
      vmVersion := .string _
      startTime := rfl }
  have read : m.toAttributes = .ok b := rfl
  have differ : a ≠ b := by decide
  obtain ⟨c, read', -, -, same⟩ := toAttributes_agree holds
  obtain rfl : b = c := Except.ok.inj (read.symm.trans read')
  exact ⟨holds, read, differ, same⟩

end RuntimeMonitor.Identity

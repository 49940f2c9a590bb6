import Mathlib
import RuntimeMonitor.Cache.Value
import RuntimeMonitor.Proofs.Json.Exact

/-!
# The tagged form of cached values

The kind of a value and its plain view determine it, and the view of each kind has its own shape.
A tagged form is read by just these two, hence nothing is lost in it. The tag of an object may be an
object in its turn, with the name of the kind for its only member.
-/

namespace RuntimeMonitor.Cache.Value

open JsonForm

variable {kind : String} {j : Json} {members : List (String × Json)} {v w : Value}

/-- The shape that the plain view of a value of some kind has. -/
inductive HasShape : String → Json → Prop
  | text (s : String) : HasShape "text" (.string s)
  | list {items : List Json} (texts : ∀ j ∈ items, ∃ s, j = .string s) :
      HasShape "list" (.array items)
  | bytes {items : List Json}
      (small : ∀ j ∈ items, ∃ n inRange, j = .number (.integer n inRange) ∧ 0 ≤ n ∧ n ≤ 255) :
      HasShape "bytes" (.array items)
  | json (j : Json) : HasShape "json" j

/-- A tag is the name of a kind, or an object in which that name has the value null and nothing
else is. -/
inductive Tags : Json → String → Prop
  | name (kind : String) : Tags (.string kind) kind
  | member (kind : String) : Tags (.object [(kind, .null)]) kind

theorem tag?_eq_some_iff : tag? j = some kind ↔ Tags j kind := by
  constructor
  · intro found
    unfold tag? at found
    split at found
    · cases found
      exact .name kind
    · cases found
      exact .member kind
    · cases found
  · rintro (_ | _) <;> rfl

/-! ## Views -/

theorem ofKind?_eq_some_iff : ofKind? kind j = some v ↔ v.kind = kind ∧ v.toJson = j := by
  constructor
  · intro read
    unfold ofKind? at read
    split_ifs at read with text list bytes json
    · obtain ⟨s, view, rfl⟩ := Option.map_eq_some_iff.mp read
      exact ⟨text.symm, (ofJson?_eq_some_iff.mp view).symm⟩
    · obtain ⟨items, view, rfl⟩ := Option.map_eq_some_iff.mp read
      exact ⟨list.symm, (ofJson?_eq_some_iff.mp view).symm⟩
    · obtain ⟨bs, view, rfl⟩ := Option.map_eq_some_iff.mp read
      exact ⟨bytes.symm, (ofJson?_eq_some_iff.mp view).symm⟩
    · cases read
      exact ⟨json.symm, rfl⟩
  · rintro ⟨rfl, rfl⟩
    cases v <;> simp [ofKind?, Value.kind, toJson, ofJson?_toJson]

theorem exists_byte_iff :
    (∃ b : UInt8, JsonForm.toJson b = j) ↔
      ∃ n inRange, j = .number (.integer n inRange) ∧ 0 ≤ n ∧ n ≤ 255 := by
  have read (b : UInt8) : JsonForm.toJson b = j ↔ (j.bounded? 0 (2 ^ 8)).map _ = some b :=
    eq_comm.trans ofJson?_eq_some_iff.symm
  simp only [read, Option.map_eq_some_iff, Json.bounded?_eq_some_iff]
  constructor
  · rintro ⟨b, n, ⟨inRange, same, low, high⟩, -⟩
    exact ⟨n, inRange, same, low, Int.le_of_lt_add_one high⟩
  · rintro ⟨n, inRange, same, low, high⟩
    exact ⟨_, n, ⟨inRange, same, low, Int.lt_add_one_of_le high⟩, rfl⟩

theorem hasShape_toJson (v : Value) : HasShape v.kind v.toJson := by
  cases v with
  | text s => exact .text s
  | list items =>
    refine .list fun j written => ?_
    obtain ⟨s, -, rfl⟩ := List.mem_map.mp written
    exact ⟨s, rfl⟩
  | bytes bs =>
    refine .bytes fun j written => ?_
    obtain ⟨b, -, same⟩ := List.mem_map.mp written
    exact exists_byte_iff.mp ⟨b, same⟩
  | json j => exact .json j

/-- The shapes are those of the plain views. -/
theorem hasShape_iff : HasShape kind j ↔ ∃ v : Value, v.kind = kind ∧ v.toJson = j := by
  constructor
  · rintro (s | @⟨items, texts⟩ | @⟨items, small⟩ | j)
    · exact ⟨.text s, rfl, rfl⟩
    · have written : items ∈ Set.range (List.map Json.string) := by
        rw [Set.range_list_map]
        intro j listed
        obtain ⟨s, rfl⟩ := texts j listed
        exact ⟨s, rfl⟩
      obtain ⟨strings, rfl⟩ := written
      exact ⟨.list strings, rfl, rfl⟩
    · have written : items ∈ Set.range (List.map (JsonForm.toJson (α := UInt8))) := by
        rw [Set.range_list_map]
        intro j listed
        exact exists_byte_iff.mpr (small j listed)
      obtain ⟨bs, rfl⟩ := written
      exact ⟨.bytes bs, rfl, rfl⟩
    · exact ⟨.json j, rfl, rfl⟩
  · rintro ⟨v, rfl, rfl⟩
    exact v.hasShape_toJson

/-! ## Tagged forms -/

theorem ofTagged?_object_eq_some_iff :
    ofTagged? (.object members) = some v ↔
      ∃ tag, members.lookup "type" = some tag ∧ Tags tag v.kind ∧
        members.lookup "value" = some v.toJson := by
  simp only [ofTagged?, bind, Option.bind_eq_some_iff, tag?_eq_some_iff, ofKind?_eq_some_iff]
  constructor
  · rintro ⟨tag, type, kind, tags, view, value, rfl, rfl⟩
    exact ⟨tag, type, tags, value⟩
  · rintro ⟨tag, type, tags, value⟩
    exact ⟨tag, type, v.kind, tags, v.toJson, value, rfl, rfl⟩

theorem ofTagged?_array_eq_some_iff {items : List Json} :
    ofTagged? (.array items) = some v ↔ items = [.string v.kind, v.toJson] := by
  constructor
  · intro read
    unfold ofTagged? at read
    split at read
    · contradiction
    · rename_i same
      obtain ⟨rfl, rfl⟩ := ofKind?_eq_some_iff.mp read
      exact Json.array.inj same
    · cases read
  · rintro rfl
    exact ofKind?_eq_some_iff.mpr ⟨rfl, rfl⟩

theorem ofTagged?_toTagged (v : Value) : ofTagged? v.toTagged = some v :=
  ofTagged?_object_eq_some_iff.mpr ⟨.string v.kind, rfl, .name v.kind, rfl⟩

/-- Every value is read back from its tagged form, so that different values have different forms
even where their plain views are the same. An object is read if its type names a kind and its
value has the shape of that kind; what is read has this kind and this view, and no other member
matters. An array of a name and a value is read like the object, and no other array is read. -/
theorem tagged_forms_exact :
    (∀ v : Value, ofTagged? v.toTagged = some v) ∧
      (∀ v w : Value, v.toTagged = w.toTagged ↔ v = w) ∧
      (∀ v : Value, (json v.toJson).toJson = v.toJson) ∧
      (∀ members, (ofTagged? (.object members)).isSome ↔
        ∃ tag kind value, members.lookup "type" = some tag ∧ Tags tag kind ∧
          members.lookup "value" = some value ∧ HasShape kind value) ∧
      (∀ members v, ofTagged? (.object members) = some v ↔
        ∃ tag, members.lookup "type" = some tag ∧ Tags tag v.kind ∧
          members.lookup "value" = some v.toJson) ∧
      (∀ members others : List (String × Json),
        members.lookup "type" = others.lookup "type" →
        members.lookup "value" = others.lookup "value" →
          ofTagged? (.object members) = ofTagged? (.object others)) ∧
      (∀ kind value, ofTagged? (.array [.string kind, value]) =
        ofTagged? (.object [("type", .string kind), ("value", value)])) ∧
      ∀ items, (ofTagged? (.array items)).isSome → ∃ kind value, items = [.string kind, value] := by
  refine ⟨ofTagged?_toTagged, ?_, fun v => rfl, ?_, ?_, ?_, fun kind value => rfl, ?_⟩
  · intro v w
    refine ⟨fun same => ?_, congrArg toTagged⟩
    have read := ofTagged?_toTagged w
    rw [← same, ofTagged?_toTagged] at read
    exact Option.some.inj read
  · intro members
    simp only [Option.isSome_iff_exists, ofTagged?_object_eq_some_iff, hasShape_iff]
    constructor
    · rintro ⟨v, tag, type, tags, value⟩
      exact ⟨tag, v.kind, v.toJson, type, tags, value, v, rfl, rfl⟩
    · rintro ⟨tag, _, _, type, tags, value, v, rfl, rfl⟩
      exact ⟨v, tag, type, tags, value⟩
  · intro members v
    exact ofTagged?_object_eq_some_iff
  · intro members others type value
    rw [ofTagged?, type, value]
    rfl
  · intro items read
    obtain ⟨v, read⟩ := Option.isSome_iff_exists.mp read
    exact ⟨v.kind, v.toJson, ofTagged?_array_eq_some_iff.mp read⟩

/-- Three values have the empty array for their view, and each has its own form. A member of
another name does no harm. -/
theorem tagged_forms_exact_empty :
    [list [], bytes [], json (.array [])].Pairwise
        (fun v w => v.toJson = w.toJson ∧ v.toTagged ≠ w.toTagged) ∧
      ofTagged? (.object [("extra", .null), ("type", .string "bytes"), ("value", .array [])]) =
        some (bytes []) ∧
      ∃ kind value, [Json.string "bytes", .array []] = [.string kind, value] := by
  obtain ⟨back, different, -, -, -, others, -, pairs⟩ := tagged_forms_exact
  refine ⟨?_, ?_, pairs _ rfl⟩
  · simp [different, toJson, JsonForm.toJson]
  · exact (others _ _ rfl rfl).trans (back (bytes []))

/-- The type need not be a text. -/
theorem ofTagged?_takes_object_tag :
    ¬ ((ofTagged? (.object [("type", .object [("text", .null)]), ("value", .string "x")])).isSome ↔
      ∃ kind value,
        [("type", Json.object [("text", .null)]), ("value", .string "x")].lookup "type" =
            some (.string kind) ∧
          [("type", Json.object [("text", .null)]), ("value", .string "x")].lookup "value" =
            some value ∧
          HasShape kind value) := by
  intro claimed
  obtain ⟨kind, value, type, -⟩ := claimed.mp rfl
  cases type

end RuntimeMonitor.Cache.Value

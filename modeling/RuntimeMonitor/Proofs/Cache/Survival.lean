import RuntimeMonitor.Proofs.Cache.Key
import RuntimeMonitor.Proofs.Cache.Run
import RuntimeMonitor.Proofs.Json.RoundTrip

/-!
# Entries survive what does not concern them

An insertion returns the text under which its value is found. The entry stays as it is for as long
as no insertion returns the same text, the text is not removed, its family is not evicted without
it, and the cache is not cleared. A value that was stored in its JSON form is then read back at its
type, and so are texts, lists and bytes at theirs. Reading at a type changes nothing.
-/

namespace RuntimeMonitor.Cache

variable {c : Cache} {text : String}

/-- What callers do with a cache: the operations, and reading an entry at a type. -/
inductive Access : Type 1
  | operate (op : Operation)
  | read (α : Type) [JsonForm α] (text : String)

namespace Access

def operation? : Access → Option Operation
  | operate op => some op
  | @read _ _ _ => none

/-- Whether an access to a cache leaves the entry under a text alone, as its caller can tell: an
insertion returns another text, and an eviction is of another family or keeps the text. -/
def Spares (c : Cache) (text : String) : Access → Prop
  | operate (.insert key family v) => (c.insert key family v).1 ≠ text
  | operate (@Operation.insertForm _ _ key family x) => (c.insertForm key family x).1 ≠ text
  | operate (.remove other) => other ≠ text
  | operate (.clearFamily family keep) => ¬ (Key.parse text).Belongs family ∨ text ∈ keep
  | operate .clear => False
  | _ => True

instance (c : Cache) (text : String) (a : Access) : Decidable (a.Spares c text) := by
  unfold Spares
  split <;> infer_instance

end Access

/-- What an access makes of a cache. Reading at a type gives no cache back. -/
def access (c : Cache) : Access → Cache
  | .operate op => (c.perform op).2
  | @Access.read _ _ _ => c

/-- Every access leaves the entry under a text alone, at its point of the run. -/
def Undisturbed (text : String) : Cache → List Access → Prop
  | _, [] => True
  | c, a :: rest => a.Spares c text ∧ Undisturbed text (c.access a) rest

instance decidableUndisturbed (text : String) :
    (c : Cache) → (accesses : List Access) → Decidable (Undisturbed text c accesses)
  | _, [] => .isTrue trivial
  | c, a :: rest =>
    have := decidableUndisturbed text (c.access a) rest
    inferInstanceAs (Decidable (_ ∧ _))

theorem isCanonical_keyFor (c : Cache) (key : Option String) (family : Bool) :
    (c.keyFor key family).IsCanonical := by
  unfold keyFor
  cases key.filter (· ≠ "") with
  | none => exact Key.isCanonical_generate _ _
  | some raw =>
    cases family with
    | true => exact Key.isCanonical_generate _ _
    | false => exact Key.isCanonical_parse raw

/-- The text that an insertion returns leads to the value, and every other text to what it led to
before. -/
theorem get?_insert (c : Cache) (key : Option String) (family : Bool) (v : Value) (other : String) :
    (c.insert key family v).2.get? other =
      if other = (c.insert key family v).1 then some v else c.get? other := by
  rw [insert, get?, find?_put]
  simp only [(isCanonical_keyFor c key family).parse_eq_iff]
  rfl

theorem get?_remove_of_ne {other : String} (ne : other ≠ text) :
    (c.remove other).2.get? text = c.get? text := by
  have kept : decide (Key.parse text ≠ .parse other) = true :=
    decide_eq_true fun same => ne (Key.parse_injective same).symm
  rw [remove, get?, find?_filter, if_pos kept, get?]

theorem get?_clearFamily_of_spared {family : String} {keep : List String}
    (spared : ¬ (Key.parse text).Belongs family ∨ text ∈ keep) :
    (c.clearFamily family keep).2.get? text = c.get? text := by
  have kept : decide (¬ (Key.parse text).Belongs family ∨ .parse text ∈ keep.map Key.parse) = true :=
    decide_eq_true (spared.imp_right List.mem_map_of_mem)
  rw [clearFamily, get?, find?_filter, if_pos kept, get?]

theorem get?_access {a : Access} (spares : a.Spares c text) :
    (c.access a).get? text = c.get? text := by
  cases a with
  | read => rfl
  | operate op =>
    cases op with
    | insert key family v => exact (get?_insert c key family v text).trans (if_neg (Ne.symm spares))
    | insertForm key family x =>
      exact (get?_insert c key family _ text).trans (if_neg (Ne.symm spares))
    | remove other => exact get?_remove_of_ne spares
    | clearFamily family keep => exact get?_clearFamily_of_spared spares
    | clear => cases spares
    | get | contains | keys | size | isEmpty => rfl

theorem get?_foldl_access {accesses : List Access} (undisturbed : Undisturbed text c accesses) :
    (accesses.foldl access c).get? text = c.get? text := by
  induction accesses generalizing c with
  | nil => rfl
  | cons a rest ih =>
    obtain ⟨spares, later⟩ := undisturbed
    rw [List.foldl_cons, ih later, get?_access spares]

theorem getForm_eq_ok {α : Type} [JsonForm α] {v : Value} {x : α} (found : c.get? text = some v)
    (back : JsonForm.ofJson? v.toJson = some x) : c.getForm α text = .ok (some x) := by
  simp only [getForm, found, back]

/-- What an insertion stored is read at a type as `x`, for as long as its entry is left alone. -/
def Retains {α : Type} [JsonForm α] (stored : String × Cache) (x : α) : Prop :=
  ∀ accesses, Undisturbed stored.1 stored.2 accesses →
    (accesses.foldl access stored.2).getForm α stored.1 = .ok (some x)

theorem retains_insert {α : Type} [JsonForm α] (c : Cache) (key : Option String) (family : Bool)
    {v : Value} {x : α} (back : JsonForm.ofJson? v.toJson = some x) :
    Retains (c.insert key family v) x := by
  intro accesses undisturbed
  apply getForm_eq_ok _ back
  rw [get?_foldl_access undisturbed, get?_insert, if_pos rfl]

/-- Reading at a type can be left out of a run. -/
theorem foldl_access_eq_run (accesses : List Access) (c : Cache) :
    accesses.foldl access c = (run perform (accesses.filterMap Access.operation?) c).2 := by
  induction accesses generalizing c with
  | nil => rfl
  | cons a rest ih =>
    rw [List.foldl_cons, ih]
    cases a <;> rfl

/-- Whatever is stored in any cache, under a given key or a generated one, is read back at its type
for as long as its entry is left alone: a value of any type whose JSON form is read back as that
value, and a text, a list or bytes as such. Runs end in the same cache without the readings. -/
theorem stored_values_survive (c : Cache) (key : Option String) (family : Bool) :
    (∀ (α : Type) [JsonForm α] (x : α), JsonForm.ofJson? (JsonForm.toJson x) = some x →
        Retains (c.insertForm key family x) x) ∧
      (∀ s : String, Retains (c.insert key family (.text s)) s) ∧
      (∀ items : List String, Retains (c.insert key family (.list items)) items) ∧
      (∀ bs : List UInt8, Retains (c.insert key family (.bytes bs)) bs) ∧
      (JsonForm.Lawful Handle ∧ JsonForm.Lawful String ∧ JsonForm.Lawful (List String) ∧
        JsonForm.Lawful (List UInt8) ∧ JsonForm.Lawful UInt64 ∧ JsonForm.Lawful Int64 ∧
        JsonForm.Lawful Bool ∧ JsonForm.Lawful (Option String)) ∧
      ∀ accesses : List Access, accesses.foldl access c =
        (run perform (accesses.filterMap Access.operation?) c).2 := by
  refine ⟨?_, ?_, ?_, ?_, ?_, ?_⟩
  · intro α _ x back
    exact retains_insert c key family back
  · intro s
    exact retains_insert c key family (JsonForm.ofJson?_toJson s)
  · intro items
    exact retains_insert c key family (JsonForm.ofJson?_toJson items)
  · intro bs
    exact retains_insert c key family (JsonForm.ofJson?_toJson bs)
  · refine ⟨?_, ?_, ?_, ?_, ?_, ?_, ?_, ?_⟩ <;> infer_instance
  · intro accesses
    exact foldl_access_eq_run accesses c

/-- A handle outlives a reading at a wrong type, the eviction of its family and a key that differs
from its own in the family only. -/
theorem stored_values_survive_handle :
    let c := reached [.insert none false (.text "a")]
    let h : Handle := ⟨"localhost", 7091⟩
    let stored := c.insertForm (some "conn") true h
    let accesses : List Access :=
      [.read UInt64 "2_store_conn", .operate (.insert (some "conn") true (.text "b")),
       .operate (.clearFamily "conn" ["2_store_conn", "02_store_conn"]),
       .operate (.clearFamily "con" []), .operate (.remove "1_store"),
       .operate (.insertForm none false (7 : UInt64)), .operate .keys]
    stored.1 = "2_store_conn" ∧ JsonForm.ofJson? (JsonForm.toJson h) = some h ∧
      Undisturbed stored.1 stored.2 accesses ∧
      (accesses.foldl access stored.2).getForm Handle "2_store_conn" = .ok (some h) := by
  intro c h stored accesses
  have named : stored.1 = "2_store_conn" := by decide
  have back : JsonForm.ofJson? (JsonForm.toJson h) = some h := JsonForm.ofJson?_toJson h
  have undisturbed : Undisturbed stored.1 stored.2 accesses := by decide
  have survives := stored_values_survive c (some "conn") true
  refine ⟨named, back, undisturbed, ?_⟩
  rw [← named]
  exact survives.1 Handle h back accesses undisturbed

end RuntimeMonitor.Cache

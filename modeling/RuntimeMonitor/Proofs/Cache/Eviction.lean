import Mathlib
import RuntimeMonitor.Proofs.Cache.Entries
import RuntimeMonitor.Proofs.Cache.Survival

/-!
# Evictions

An eviction filters the entries of a cache by their keys. Evictions of two families do not meet,
since a key belongs to one family at most, and two evictions of one family delete what either of
them does not keep. A cache that was reached by operations has canonical keys only, so none of them
belongs to the family without a name.
-/

namespace RuntimeMonitor.Cache

section Filters

variable {c d : Cache} {p q : Key → Bool}

theorem eq_of_entries (same : c.entries = d.entries) : c = d := by
  cases c
  cases d
  cases same
  rfl

theorem filter_filter (p q : Key → Bool) (c : Cache) :
    (c.filter q).filter p = c.filter (fun k => p k && q k) :=
  eq_of_entries List.filter_filter

theorem filter_congr (same : ∀ k ∈ c.entries.map Prod.fst, p k = q k) : c.filter p = c.filter q :=
  eq_of_entries (List.filter_congr fun _ he => same _ (List.mem_map_of_mem he))

theorem filter_eq_self (all : ∀ k ∈ c.entries.map Prod.fst, p k = true) : c.filter p = c :=
  eq_of_entries (List.filter_eq_self.mpr fun _ he => all _ (List.mem_map_of_mem he))

theorem size_filter_add_size_filter_not (p : Key → Bool) (c : Cache) :
    (c.filter p).size + (c.filter (fun k => ! p k)).size = c.size :=
  (List.length_eq_length_filter_add _).symm

end Filters

/-- Whether the eviction of a family deletes a key: it belongs to the family, and none of the texts
to be kept denotes it. -/
def Key.EvictedBy (k : Key) (family : String) (keep : List String) : Prop :=
  k.Belongs family ∧ k ∉ keep.map parse

instance (k : Key) (family : String) (keep : List String) : Decidable (k.EvictedBy family keep) :=
  inferInstanceAs (Decidable (_ ∧ _))

namespace Key.EvictedBy

variable {k : Key} {f g : String} {keep keep' both : List String}

/-- Families do not share keys. -/
theorem family_eq (h : k.EvictedBy f keep) (h' : k.EvictedBy g keep') : f = g :=
  Option.some.inj (h.1.symm.trans h'.1)

/-- Since different texts denote different keys, keeping a key is keeping its text. -/
theorem parse_iff {text : String} :
    (parse text).EvictedBy f keep ↔ GeneratedFor f text ∧ text ∉ keep := by
  rw [EvictedBy, belongs_parse_iff, List.mem_map_of_injective parse_injective]

theorem iff_or (common : ∀ text, text ∈ both ↔ text ∈ keep ∧ text ∈ keep') :
    k.EvictedBy f both ↔ k.EvictedBy f keep ∨ k.EvictedBy f keep' := by
  have denoted : k ∈ both.map parse ↔ k ∈ keep.map parse ∧ k ∈ keep'.map parse := by
    constructor
    · intro h
      obtain ⟨text, listed, rfl⟩ := List.mem_map.mp h
      obtain ⟨first, second⟩ := (common text).mp listed
      exact ⟨List.mem_map_of_mem first, List.mem_map_of_mem second⟩
    · rintro ⟨first, second⟩
      obtain ⟨text, listed, rfl⟩ := List.mem_map.mp first
      rw [List.mem_map_of_injective parse_injective] at second
      exact List.mem_map_of_mem ((common text).mpr ⟨listed, second⟩)
  rw [EvictedBy, denoted, not_and_or, and_or_left]
  rfl

end Key.EvictedBy

section ClearFamily

variable (c : Cache) (f g : String) (keep keep' : List String)

theorem snd_clearFamily :
    (c.clearFamily f keep).2 = c.filter (fun k => ! decide (k.EvictedBy f keep)) := by
  simp only [clearFamily]
  refine filter_congr fun k _ => ?_
  rw [← decide_not, decide_eq_decide, Key.EvictedBy, not_and_or, not_not]

theorem fst_add_size_clearFamily :
    (c.clearFamily f keep).1 + (c.clearFamily f keep).2.size = c.size :=
  Nat.sub_add_cancel (size_filter_le _ c)

/-- What is counted are the entries that are evicted. -/
theorem fst_clearFamily :
    (c.clearFamily f keep).1 = (c.filter (fun k => k.EvictedBy f keep)).size := by
  have total := fst_add_size_clearFamily c f keep
  rw [snd_clearFamily, ← size_filter_add_size_filter_not (fun k => k.EvictedBy f keep) c] at total
  exact Nat.add_right_cancel total

variable {c f g keep keep'}

theorem get?_clearFamily (text : String) :
    (c.clearFamily f keep).2.get? text =
      if Key.GeneratedFor f text ∧ text ∉ keep then none else c.get? text := by
  rw [snd_clearFamily, get?, find?_filter]
  simp only [Bool.not_eq_true', decide_eq_false_iff_not, Key.EvictedBy.parse_iff, ite_not]
  rfl

theorem snd_clearFamily_comm :
    ((c.clearFamily f keep).2.clearFamily g keep').2 =
      ((c.clearFamily g keep').2.clearFamily f keep).2 := by
  simp only [snd_clearFamily, filter_filter, Bool.and_comm]

/-- An eviction of another family leaves as many entries to be evicted as before. -/
theorem fst_clearFamily_of_ne (ne : f ≠ g) :
    ((c.clearFamily f keep).2.clearFamily g keep').1 = (c.clearFamily g keep').1 := by
  rw [fst_clearFamily, fst_clearFamily, snd_clearFamily, filter_filter]
  congr 1
  refine filter_congr fun k _ => ?_
  by_cases evicted : k.EvictedBy g keep'
  · have kept : ¬ k.EvictedBy f keep := fun other => ne (other.family_eq evicted)
    simp [evicted, kept]
  · simp [evicted]

theorem snd_clearFamily_clearFamily {both : List String}
    (common : ∀ text, text ∈ both ↔ text ∈ keep ∧ text ∈ keep') :
    ((c.clearFamily f keep).2.clearFamily f keep').2 = (c.clearFamily f both).2 := by
  simp only [snd_clearFamily, filter_filter]
  refine filter_congr fun k _ => ?_
  simp [Key.EvictedBy.iff_or common, Bool.and_comm]

/-- The numbers of two evictions of one family add up, as both are drops in size. -/
theorem fst_clearFamily_clearFamily {both : List String}
    (common : ∀ text, text ∈ both ↔ text ∈ keep ∧ text ∈ keep') :
    (c.clearFamily f keep).1 + ((c.clearFamily f keep).2.clearFamily f keep').1 =
      (c.clearFamily f both).1 := by
  have first := fst_add_size_clearFamily c f keep
  have second := fst_add_size_clearFamily (c.clearFamily f keep).2 f keep'
  have single := fst_add_size_clearFamily c f both
  rw [snd_clearFamily_clearFamily common] at second
  omega

theorem clearFamily_of_spared (spared : ∀ k ∈ c.entries.map Prod.fst, ¬ k.EvictedBy f keep) :
    c.clearFamily f keep = (0, c) := by
  have same : (c.clearFamily f keep).2 = c := by
    rw [snd_clearFamily]
    exact filter_eq_self fun k live => by simpa using spared k live
  have total := fst_add_size_clearFamily c f keep
  rw [same] at total
  exact Prod.ext (Nat.add_eq_right.mp total) same

theorem clearFamily_again :
    (c.clearFamily f keep).2.clearFamily f keep = (0, (c.clearFamily f keep).2) := by
  refine clearFamily_of_spared fun k live => ?_
  rw [snd_clearFamily, mem_keys_filter] at live
  simpa using live.2

end ClearFamily

section Reached

variable {c : Cache}

/-- An operation stores under one key that it chooses, or it filters the entries. -/
theorem perform_eq_put_or_filter (c : Cache) (op : Operation) :
    (∃ key family v, (c.perform op).2 = c.put (c.keyFor key family) v) ∨
      ∃ p, (c.perform op).2 = c.filter p := by
  have all : c.filter (fun _ => true) = c := filter_eq_self fun _ _ => rfl
  cases op with
  | insert key family v => exact .inl ⟨key, family, v, rfl⟩
  | insertForm key family x => exact .inl ⟨key, family, .json (JsonForm.toJson x), rfl⟩
  | remove text => exact .inr ⟨fun k => k ≠ .parse text, rfl⟩
  | clearFamily family keep => exact .inr ⟨_, snd_clearFamily c family keep⟩
  | clear => exact .inr ⟨fun _ => false, eq_of_entries (by simp [perform, empty, filter])⟩
  | get | contains | keys | size | isEmpty => exact .inr ⟨_, all.symm⟩

theorem isCanonical_perform (canonical : ∀ k ∈ c.entries.map Prod.fst, k.IsCanonical)
    (op : Operation) : ∀ k ∈ (c.perform op).2.entries.map Prod.fst, k.IsCanonical := by
  intro k live
  rcases perform_eq_put_or_filter c op with ⟨key, family, v, stored⟩ | ⟨p, left⟩
  · rw [stored, mem_keys_put] at live
    rcases live with rfl | old
    · exact isCanonical_keyFor c key family
    · exact canonical k old
  · rw [left, mem_keys_filter] at live
    exact canonical k live.1

/-- All live keys of a cache that was reached by operations are read back from their texts. -/
theorem isCanonical_reached (ops : List Operation) :
    ∀ k ∈ (reached ops).entries.map Prod.fst, k.IsCanonical := by
  induction ops using List.reverseRecOn with
  | nil => exact fun k live => by cases live
  | append_singleton ops op ih =>
    rw [reached_append]
    exact isCanonical_perform ih op

/-- No canonical key belongs to the family without a name. -/
theorem Key.IsCanonical.not_belongs_empty {k : Key} (canonical : k.IsCanonical) :
    ¬ k.Belongs "" := by
  rw [← canonical, belongs_parse_iff]
  exact fun generated => generated.1 rfl

end Reached

/-- Evictions of different families commute. Two of one family are one that keeps the common texts,
and a second one of the same kind deletes nothing. What is returned is the drop in size, the entries
left keep their values, and the family without a name has no entries in a cache that was reached by
operations. -/
theorem clearFamily_algebra (ops : List Operation) (f g : String) (keep keep' both : List String)
    (common : ∀ text, text ∈ both ↔ text ∈ keep ∧ text ∈ keep') :
    let c := reached ops
    (f ≠ g →
      ((c.clearFamily f keep).2.clearFamily g keep').2 =
          ((c.clearFamily g keep').2.clearFamily f keep).2 ∧
        ((c.clearFamily f keep).2.clearFamily g keep').1 = (c.clearFamily g keep').1 ∧
        ((c.clearFamily g keep').2.clearFamily f keep).1 = (c.clearFamily f keep).1) ∧
      ((c.clearFamily f keep).2.clearFamily f keep').2 = (c.clearFamily f both).2 ∧
      (c.clearFamily f keep).1 + ((c.clearFamily f keep).2.clearFamily f keep').1 =
        (c.clearFamily f both).1 ∧
      (c.clearFamily f keep).2.clearFamily f keep = (0, (c.clearFamily f keep).2) ∧
      (c.clearFamily f keep).1 + (c.clearFamily f keep).2.size = c.size ∧
      (∀ text, (c.clearFamily f keep).2.get? text =
        if Key.GeneratedFor f text ∧ text ∉ keep then none else c.get? text) ∧
      c.clearFamily "" keep = (0, c) := by
  intro c
  refine ⟨?_, snd_clearFamily_clearFamily common, fst_clearFamily_clearFamily common,
    clearFamily_again, fst_add_size_clearFamily c f keep, get?_clearFamily, ?_⟩
  · intro ne
    exact ⟨snd_clearFamily_comm, fst_clearFamily_of_ne ne, fst_clearFamily_of_ne ne.symm⟩
  · refine clearFamily_of_spared fun k live evicted => ?_
    exact (isCanonical_reached ops k live).not_belongs_empty evicted.1

/-- A family beside one whose name it begins, a caller's key that joins it, and a text to be kept
that is not quite one of its keys. -/
theorem clearFamily_algebra_nested_names :
    let ops : List Operation :=
      [.insert (some "a") true (.text "1"), .insert (some "a") true (.text "2"),
       .insert (some "a_b") true (.text "3"), .insert (some "7_store_a") false (.text "4"),
       .insert (some "03_store_a_b") false (.text "5")]
    let c := reached ops
    let keep := ["2_store_a", "01_store_a", "7_store_a", "3_store_a_b"]
    let keep' := ["2_store_a", "1_store_a", "2_store_a"]
    (∀ text, text ∈ ["2_store_a"] ↔ text ∈ keep ∧ text ∈ keep') ∧ "a" ≠ "a_b" ∧
      (c.clearFamily "a" keep).1 = 1 ∧ (c.clearFamily "a_b" keep').1 = 1 ∧
      ((c.clearFamily "a" keep).2.clearFamily "a_b" keep').2 =
        ((c.clearFamily "a_b" keep').2.clearFamily "a" keep).2 ∧
      ((c.clearFamily "a_b" keep').2.clearFamily "a" keep).1 = 1 ∧
      (c.clearFamily "a" ["2_store_a"]).1 = 2 ∧
      (c.clearFamily "a" ["2_store_a"]).2.size = 3 := by
  intro ops c keep keep'
  have common : ∀ text, text ∈ ["2_store_a"] ↔ text ∈ keep ∧ text ∈ keep' := by
    intro text
    simp only [keep, keep', List.mem_cons, List.not_mem_nil, or_false]
    grind
  have ne : "a" ≠ "a_b" := by decide
  have first : (c.clearFamily "a" keep).1 = 1 := by decide
  have second : ((c.clearFamily "a" keep).2.clearFamily "a" keep').1 = 1 := by decide
  obtain ⟨commute, -, sum, -⟩ := clearFamily_algebra ops "a" "a_b" keep keep' _ common
  obtain ⟨same, -, number⟩ := commute ne
  have total : (c.clearFamily "a" ["2_store_a"]).1 = 2 := by rw [← sum, first, second]
  exact ⟨common, ne, first, by decide, same, number.trans first, total, by decide⟩

end RuntimeMonitor.Cache

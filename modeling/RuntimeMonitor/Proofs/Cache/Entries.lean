import Mathlib
import RuntimeMonitor.Cache.Basic

/-!
# The keys and the size of a cache

Which keys are live after a change, and how many entries there are: since keys are distinct, the
size is the number of live keys.
-/

namespace RuntimeMonitor.Cache

theorem mem_keys_iff (c : Cache) (k : Key) :
    k ∈ c.entries.map Prod.fst ↔ (c.find? k).isSome := by
  rw [find?, List.lookup_isSome_iff]
  simp

theorem mem_keys_filter {p : Key → Bool} {c : Cache} {k : Key} :
    k ∈ (c.filter p).entries.map Prod.fst ↔ k ∈ c.entries.map Prod.fst ∧ p k := by
  rw [mem_keys_iff, mem_keys_iff, find?_filter]
  split <;> simp [*]

theorem mem_keys_put {c : Cache} {j k : Key} {v : Value} :
    j ∈ (c.put k v).entries.map Prod.fst ↔ j = k ∨ j ∈ c.entries.map Prod.fst := by
  rw [mem_keys_iff, mem_keys_iff, find?_put]
  split <;> simp [*]

theorem size_eq_card (c : Cache) : c.size = (c.entries.map Prod.fst).toFinset.card := by
  rw [List.toFinset_card_of_nodup c.distinct, List.length_map, size]

/-- A new key makes a cache greater by one, a live one does not change its size. -/
theorem size_put (c : Cache) (k : Key) (v : Value) :
    (c.put k v).size = if k ∈ c.entries.map Prod.fst then c.size else c.size + 1 := by
  have keys : ((c.put k v).entries.map Prod.fst).toFinset =
      Insert.insert k (c.entries.map Prod.fst).toFinset := by
    ext j
    rw [List.mem_toFinset, mem_keys_put, Finset.mem_insert, List.mem_toFinset]
  simp only [size_eq_card, keys, Finset.card_insert_eq_ite, List.mem_toFinset]

theorem size_le_size_put (c : Cache) (k : Key) (v : Value) : c.size ≤ (c.put k v).size := by
  rw [size_put]
  split
  · exact Nat.le_refl _
  · exact Nat.le_succ _

end RuntimeMonitor.Cache

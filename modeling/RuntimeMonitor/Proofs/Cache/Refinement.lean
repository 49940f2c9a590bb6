import Mathlib
import RuntimeMonitor.Proofs.Cache.Entries
import RuntimeMonitor.Proofs.Cache.TextMap

/-!
# A cache is a map from texts to values

A cache represents a map from texts to values when it finds the same value at every text and all
its keys are canonical. Every operation answers alike on the two and keeps the representation, as
long as the sequence numbers of generated keys fit in 64 bits. So in no run does it matter that
texts are read as keys.
-/

namespace RuntimeMonitor.Cache

open Text

/-- Every key is read back from its text, and every text leads to the same value. -/
structure Represents (c : Cache) (m : TextMap) : Prop where
  isCanonical : ∀ k ∈ c.entries.map Prod.fst, k.IsCanonical
  get? : ∀ text, c.get? text = m.get? text

namespace Represents

variable {c : Cache} {m : TextMap}

theorem empty : Cache.empty.Represents TextMap.empty :=
  ⟨by simp [Cache.empty], fun _ => rfl⟩

theorem put (h : c.Represents m) {k : Key} (hk : k.IsCanonical) (v : Value) :
    (c.put k v).Represents (m.set k.text v) where
  isCanonical j hj := by
    rcases mem_keys_put.mp hj with rfl | old
    · exact hk
    · exact h.isCanonical j old
  get? text := by
    rw [Cache.get?, find?_put, TextMap.get?_set, ← h.get? text]
    simp only [hk.parse_eq_iff]
    rfl

theorem filter (h : c.Represents m) {p : Key → Bool} {q : String → Prop} [DecidablePred q]
    (same : ∀ text, p (.parse text) = true ↔ q text) :
    (c.filter p).Represents (m.restrict q) where
  isCanonical k hk := h.isCanonical k (mem_keys_filter.mp hk).1
  get? text := by
    rw [Cache.get?, find?_filter, TextMap.get?_restrict, ← h.get? text]
    simp only [same]
    rfl

theorem contains (h : c.Represents m) (text : String) :
    c.contains text = true ↔ text ∈ m.support := by
  rw [Cache.contains, h.get?, m.mem_support]

theorem nodup_texts (h : c.Represents m) : (c.entries.map (·.1.text)).Nodup := by
  have distinct : ((c.entries.map Prod.fst).map Key.text).Nodup :=
    c.distinct.map_on fun j hj k hk same =>
      ((h.isCanonical j hj).text_inj (h.isCanonical k hk)).mp same
  rwa [List.map_map] at distinct

theorem mem_support (h : c.Represents m) (text : String) :
    text ∈ m.support ↔ text ∈ c.entries.map (·.1.text) := by
  rw [← h.contains, Cache.contains, Cache.get?, ← mem_keys_iff]
  constructor
  · intro live
    obtain ⟨e, he, same⟩ := List.mem_map.mp live
    exact List.mem_map.mpr ⟨e, he, by rw [same, Key.text_parse]⟩
  · intro live
    obtain ⟨e, he, rfl⟩ := List.mem_map.mp live
    have live : e.1 ∈ c.entries.map Prod.fst := List.mem_map_of_mem he
    rwa [h.isCanonical e.1 live]

theorem support_eq (h : c.Represents m) : m.support = (c.entries.map (·.1.text)).toFinset := by
  ext text
  rw [h.mem_support, List.mem_toFinset]

theorem size (h : c.Represents m) : c.size = m.support.card := by
  rw [h.support_eq, List.toFinset_card_of_nodup h.nodup_texts, List.length_map, Cache.size]

theorem isEmpty (h : c.Represents m) : c.isEmpty = decide (m.support = ∅) := by
  rw [Bool.eq_iff_iff, decide_eq_true_iff, ← Finset.card_eq_zero, ← h.size, Cache.size,
    List.length_eq_zero_iff]
  exact List.isEmpty_iff

/-- The texts are listed by their bytes. -/
theorem keys (h : c.Represents m) : c.keys = m.support.sort ByteLE := by
  have perm : c.keys.Perm (c.entries.map (·.1.text)) := List.mergeSort_perm _ _
  have sorted : c.keys.Pairwise ByteLE := by
    have ordered : c.keys.Pairwise (fun a b => decide (a ≤ b) = true) :=
      List.pairwise_mergeSort (by simpa using fun a b c => le_trans)
        (by simpa using fun a b => le_total a b) _
    exact ordered.imp fun le => byteLE_iff.mpr (of_decide_eq_true le)
  have same : m.support = c.keys.toFinset := by
    rw [h.support_eq, List.toFinset_eq_of_perm _ _ perm]
  rw [same, (List.toFinset_sort ByteLE (perm.nodup_iff.mpr h.nodup_texts)).mpr sorted]

/-- A key that is used for an insertion is canonical and has the text that the map uses. -/
theorem keyFor (h : c.Represents m) (room : c.size < 2 ^ 64 - 1) (key : Option String)
    (family : Bool) :
    (c.keyFor key family).IsCanonical ∧ (c.keyFor key family).text = m.textFor key family := by
  have numeral : (UInt64.ofNat (c.size + 1)).toNat = m.support.card + 1 := by
    have small : c.size + 1 < UInt64.size := Nat.add_lt_of_lt_sub room
    rw [UInt64.toNat_ofNat_of_lt' small, h.size]
  have plain : (Key.generate (.ofNat (c.size + 1)) none).text =
      toString (m.support.card + 1) ++ "_store" := by
    rw [← numeral]
    exact Key.text_generated_none _
  rcases key with _ | name
  · exact ⟨Key.isCanonical_generate _ _, plain⟩
  by_cases blank : name = ""
  · subst blank
    exact ⟨Key.isCanonical_generate _ _, plain⟩
  · have given : (some name).filter (· ≠ "") = some name := by simp [Option.filter, blank]
    cases family with
    | true =>
      simp only [Cache.keyFor, given, TextMap.textFor]
      refine ⟨Key.isCanonical_generate _ _, ?_⟩
      rw [← numeral]
      simp only [Option.getD_some, if_neg blank, if_true]
      exact Key.text_generate_of_ne _ blank
    | false =>
      simp only [Cache.keyFor, given, TextMap.textFor]
      refine ⟨Key.isCanonical_parse _, ?_⟩
      simp [blank]

theorem insert (h : c.Represents m) (room : c.size < 2 ^ 64 - 1) (key : Option String)
    (family : Bool) (v : Value) :
    (c.insert key family v).1 = m.textFor key family ∧
      (c.insert key family v).2.Represents (m.set (m.textFor key family) v) := by
  obtain ⟨canonical, text⟩ := h.keyFor room key family
  refine ⟨text, ?_⟩
  rw [← text]
  exact h.put canonical v

theorem remove (h : c.Represents m) (text : String) :
    (c.remove text).2.Represents (m.restrict (· ≠ text)) :=
  h.filter (p := fun k => k ≠ .parse text) fun other => by simp [Key.parse_injective.eq_iff]

theorem clearFamily (h : c.Represents m) (family : String) (keep : List String) :
    (c.clearFamily family keep).1 =
        (m.support.filter (fun text => Key.GeneratedFor family text ∧ text ∉ keep)).card ∧
      (c.clearFamily family keep).2.Represents
        (m.restrict (fun text => ¬ (Key.GeneratedFor family text ∧ text ∉ keep))) := by
  have kept : (c.clearFamily family keep).2.Represents
      (m.restrict (fun text => ¬ (Key.GeneratedFor family text ∧ text ∉ keep))) :=
    h.filter (p := fun k => ¬ k.Belongs family ∨ k ∈ keep.map Key.parse) fun text => by
      simp [Key.belongs_parse_iff, Key.parse_injective.eq_iff, imp_iff_not_or]
  refine ⟨?_, kept⟩
  have total : (m.support.filter (fun text => Key.GeneratedFor family text ∧ text ∉ keep)).card +
      (c.clearFamily family keep).2.size = c.size := by
    rw [kept.size, h.size]
    exact Finset.card_filter_add_card_filter_not _
  exact Nat.sub_eq_of_eq_add total.symm

end Represents

theorem perform_refines {c : Cache} {m : TextMap} (h : c.Represents m)
    (room : c.size < 2 ^ 64 - 1) (op : Operation) :
    (c.perform op).1 = (m.perform op).1 ∧ (c.perform op).2.Represents (m.perform op).2 := by
  cases op with
  | insert key family v =>
    obtain ⟨text, next⟩ := h.insert room key family v
    exact ⟨congrArg Answer.text text, next⟩
  | insertForm key family x =>
    obtain ⟨text, next⟩ := h.insert room key family (.json (JsonForm.toJson x))
    exact ⟨congrArg Answer.text text, next⟩
  | get text => exact ⟨congrArg Answer.value (h.get? text), h⟩
  | contains text =>
    exact ⟨congrArg Answer.truth (Bool.eq_iff_iff.mpr (by simpa using h.contains text)), h⟩
  | remove text => exact ⟨congrArg Answer.value (h.get? text), h.remove text⟩
  | clearFamily family keep =>
    obtain ⟨count, next⟩ := h.clearFamily family keep
    exact ⟨congrArg Answer.number count, next⟩
  | clear => exact ⟨rfl, .empty⟩
  | keys => exact ⟨congrArg Answer.texts h.keys, h⟩
  | size => exact ⟨congrArg Answer.number h.size, h⟩
  | isEmpty => exact ⟨congrArg Answer.truth h.isEmpty, h⟩

/-- A run on a cache and on the map that it represents gives the same answers. -/
theorem run_refines {c : Cache} {m : TextMap} (h : c.Represents m) (ops : List Operation)
    (room : ∀ before, before <+: ops → (run perform before c).2.size < 2 ^ 64 - 1) :
    (run perform ops c).1 = (run TextMap.perform ops m).1 ∧
      (run perform ops c).2.Represents (run TextMap.perform ops m).2 := by
  induction ops generalizing c m with
  | nil => exact ⟨rfl, h⟩
  | cons op rest ih =>
    obtain ⟨answer, next⟩ := perform_refines h (room [] List.nil_prefix) op
    have later : ∀ before, before <+: rest →
        (run perform before (c.perform op).2).2.size < 2 ^ 64 - 1 :=
      fun before hb => room (op :: before) (List.cons_prefix_cons.mpr ⟨rfl, hb⟩)
    obtain ⟨answers, final⟩ := ih next later
    exact ⟨congrArg₂ List.cons answer answers, final⟩

/-- In a run from the empty cache that never holds `2 ^ 64 - 1` entries, every answer is that of
a map from texts to values. No two texts are merged by being read as keys, and the texts listed
at the end are exactly those that lead to a value. -/
theorem answers_eq_textMap (ops : List Operation)
    (room : ∀ before, before <+: ops → (run perform before empty).2.size < 2 ^ 64 - 1) :
    (run perform ops empty).1 = (run TextMap.perform ops .empty).1 ∧
      Function.Injective Key.parse ∧
      ∀ text, text ∈ (run perform ops empty).2.keys ↔
        (run perform ops empty).2.contains text = true := by
  obtain ⟨answers, final⟩ := run_refines .empty ops room
  refine ⟨answers, Key.parse_injective, fun text => ?_⟩
  rw [final.keys, Finset.mem_sort, final.contains]

/-- The key generated second takes the place of a caller's key of the same text, which is then
one of its family. -/
theorem answers_eq_textMap_lookalike :
    let ops : List Operation :=
      [.insert (some "2_store_fam") false (.text "a"), .insert (some "fam") true (.text "b"),
       .get "2_store_fam", .insert none false (.text "c"), .clearFamily "fam" ["02_store_fam"],
       .contains "2_store_fam", .keys, .size]
    (∀ before, before <+: ops → (run perform before empty).2.size < 2 ^ 64 - 1) ∧
      (run TextMap.perform ops .empty).1 =
        [.text "2_store_fam", .text "2_store_fam", .value (some (.text "b")), .text "2_store",
         .number 1, .truth false, .texts ["2_store"], .number 1] := by
  intro ops
  have room : ∀ before, before <+: ops → (run perform before empty).2.size < 2 ^ 64 - 1 := by
    intro before short
    have entries : (run perform before empty).2.size ≤ 0 + before.length := size_run_le before empty
    have length : before.length ≤ 8 := short.length_le
    omega
  refine ⟨room, ?_⟩
  rw [← (answers_eq_textMap ops room).1]
  cbv

end RuntimeMonitor.Cache

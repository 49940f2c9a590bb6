import Mathlib
import RuntimeMonitor.Cache.Key
import RuntimeMonitor.Proofs.Number.Numeral

/-!
# Reading and writing cache keys

The key that a text denotes is written as that text, so no two texts denote the same key. In the
other direction a key is canonical when it is read back from its text. The keys that texts denote
and the keys that are generated are all canonical.
-/

namespace RuntimeMonitor.Cache.Key

open Number

/-- What stands behind the first part of a text that has been cut. -/
def behind : Option (List Char) → List Char
  | none => []
  | some rest => '_' :: rest

theorem cut_append {a : List Char} (b : Option (List Char)) (h : '_' ∉ a) :
    cut (a ++ behind b) = (a, b) := by
  have free : ∀ c ∈ a, decide (c ≠ '_') = true := by
    intro c hc
    apply decide_eq_true
    rintro rfl
    exact h hc
  simp only [cut, List.dropWhile_append_of_pos free, List.takeWhile_append_of_pos free]
  cases b <;> simp [behind]

/-- A cut loses nothing but the underscore, and leaves none in the first part. -/
theorem exists_cut (s : List Char) :
    ∃ a b, '_' ∉ a ∧ s = a ++ behind b ∧ cut s = (a, b) := by
  by_cases h : '_' ∈ s
  · obtain ⟨a, b, rfl, free⟩ := List.eq_append_cons_of_mem h
    exact ⟨a, some b, free, rfl, cut_append (some b) free⟩
  · exact ⟨s, none, h, (List.append_nil s).symm, by simpa [behind] using cut_append none h⟩

theorem underscore_not_mem_digits (n : Nat) : '_' ∉ digits n := Nat.underscore_not_in_toDigits

theorem underscore_not_mem_tag : '_' ∉ tag := by decide

theorem sequence?_eq_some_iff {ds : List Char} {n : UInt64} :
    sequence? ds = some n ↔ ds = digits n.toNat := by
  constructor
  · intro h
    unfold sequence? at h
    split at h
    · next form =>
      obtain ⟨ne, isDigit, noZero, small⟩ := form
      have canonical : Canonical ds := ⟨ne, List.all_eq_true.mp isDigit, noZero⟩
      cases h
      rw [UInt64.toNat_ofNat_of_lt' small, digits_ofDigits canonical]
    · cases h
  · rintro rfl
    have canonical := canonical_digits n.toNat
    have form : digits n.toNat ≠ [] ∧ (digits n.toNat).all Char.isDigit ∧
        (digits n.toNat = ['0'] ∨ (digits n.toNat).head? ≠ some '0') ∧
        ofDigits (digits n.toNat) < 2 ^ 64 :=
      ⟨canonical.ne_nil, List.all_eq_true.mpr canonical.isDigit, canonical.noZero,
        by rw [ofDigits_digits]; exact n.toNat_lt⟩
    rw [sequence?, if_pos form, ofDigits_digits, UInt64.ofNat_toNat]

theorem chars_generated (n : UInt64) (family : Option String) :
    (generated n family).chars =
      digits n.toNat ++ behind (some (tag ++ behind (family.map String.toList))) := by
  cases family <;> simp [chars, behind]

/-- The parts of a text by its first two cuts. -/
theorem parts?_eq {s seq rest word : List Char} {name : Option (List Char)}
    (outer : cut s = (seq, some rest)) (inner : cut rest = (word, name)) :
    parts? s =
      if word = tag ∧ name ≠ some [] then (sequence? seq).map (·, name.map String.ofList)
      else none := by
  simp only [parts?, outer, Option.bind_eq_bind, Option.bind_some, inner, guard]
  split <;> cases sequence? seq <;> rfl

/-- A text has parts exactly if it is the text of a generated key whose family, if there is one,
has a name. -/
theorem parts?_eq_some_iff {s : List Char} {n : UInt64} {family : Option String} :
    parts? s = some (n, family) ↔ s = (generated n family).chars ∧ family ≠ some "" := by
  constructor
  · intro h
    obtain ⟨seq, rest, -, split, outer⟩ := exists_cut s
    cases rest with
    | none => simp [parts?, outer] at h
    | some rest =>
      obtain ⟨word, name, -, rfl, inner⟩ := exists_cut rest
      rw [parts?_eq outer inner] at h
      obtain ⟨⟨rfl, named⟩, found⟩ := Option.ite_none_right_eq_some.mp h
      obtain ⟨m, numeral, parts⟩ := Option.map_eq_some_iff.mp found
      obtain ⟨rfl, rfl⟩ := Prod.mk.inj parts
      rw [sequence?_eq_some_iff] at numeral
      refine ⟨?_, by simpa using named⟩
      rw [split, chars_generated, numeral]
      simp [Function.comp_def]
  · rintro ⟨rfl, named⟩
    have numeral : sequence? (digits n.toNat) = some n := sequence?_eq_some_iff.mpr rfl
    have outer := cut_append (some (tag ++ behind (family.map String.toList)))
      (underscore_not_mem_digits n.toNat)
    have inner := cut_append (family.map String.toList) underscore_not_mem_tag
    rw [chars_generated, parts?_eq outer inner, numeral, if_pos ⟨rfl, by simpa using named⟩]
    simp [Function.comp_def]

@[simp] theorem toList_text (k : Key) : k.text.toList = k.chars := String.toList_ofList

/-- No text is changed by being read as a key. -/
@[simp] theorem text_parse (raw : String) : (parse raw).text = raw := by
  unfold parse
  split
  · next seq family found =>
    rw [text, ← (parts?_eq_some_iff.mp found).1, String.ofList_toList]
  · simp [text, chars]

theorem parse_injective : Function.Injective parse := fun a b h => by
  rw [← text_parse a, ← text_parse b, h]

theorem parse_eq_generated_iff {raw : String} {n : UInt64} {family : Option String} :
    parse raw = generated n family ↔ raw = (generated n family).text ∧ family ≠ some "" := by
  have same : raw = (generated n family).text ↔ raw.toList = (generated n family).chars := by
    rw [← String.toList_inj, toList_text]
  rw [same, ← parts?_eq_some_iff, parse]
  split
  · next found => simp [found]
  · next found => simp [found]

/-- A canonical key is read back from its text. -/
def IsCanonical (k : Key) : Prop := parse k.text = k

theorem isCanonical_parse (raw : String) : (parse raw).IsCanonical := by
  rw [IsCanonical, text_parse]

theorem isCanonical_generate (n : UInt64) (family : Option String) :
    (generate n family).IsCanonical := by
  refine parse_eq_generated_iff.mpr ⟨rfl, ?_⟩
  cases family <;> simp [Option.filter]

theorem IsCanonical.text_inj {j k : Key} (hj : j.IsCanonical) (hk : k.IsCanonical) :
    j.text = k.text ↔ j = k := by
  refine ⟨fun h => ?_, fun h => h ▸ rfl⟩
  rw [← hj, ← hk, h]

theorem IsCanonical.parse_eq_iff {k : Key} (hk : k.IsCanonical) {raw : String} :
    parse raw = k ↔ raw = k.text := by
  rw [← (isCanonical_parse raw).text_inj hk, text_parse]

theorem text_generated_none (n : UInt64) :
    (generated n none).text = toString n.toNat ++ "_store" := by
  rw [← String.toList_inj, toList_text, chars_generated, toString_eq_ofList_digits]
  simp [behind, tag]

theorem text_generated_some (n : UInt64) (family : String) :
    (generated n (some family)).text = toString n.toNat ++ "_store_" ++ family := by
  rw [← String.toList_inj, toList_text, chars_generated, toString_eq_ofList_digits]
  simp [behind, tag]

theorem text_generate_of_ne (n : UInt64) {family : String} (named : family ≠ "") :
    (generate n (some family)).text = toString n.toNat ++ "_store_" ++ family := by
  simpa [generate, Option.filter, named] using text_generated_some n family

/-- The texts that keys generated for a family can have. -/
def GeneratedFor (family text : String) : Prop :=
  family ≠ "" ∧ ∃ n < 2 ^ 64, text = toString n ++ "_store_" ++ family

/-- The keys of a family are exactly those with such a text. -/
theorem belongs_parse_iff {raw family : String} :
    (parse raw).Belongs family ↔ GeneratedFor family raw := by
  constructor
  · intro h
    cases read : parse raw with
    | custom => simp [Belongs, family?, read] at h
    | generated n name =>
      obtain rfl : name = some family := by simpa [Belongs, family?, read] using h
      obtain ⟨written, named⟩ := parse_eq_generated_iff.mp read
      refine ⟨by simpa using named, n.toNat, n.toNat_lt, ?_⟩
      rw [written, text_generated_some]
  · rintro ⟨named, n, small, rfl⟩
    have numeral : (UInt64.ofNat n).toNat = n := UInt64.toNat_ofNat_of_lt' small
    have read : parse (toString n ++ "_store_" ++ family) =
        generated (.ofNat n) (some family) := by
      refine parse_eq_generated_iff.mpr ⟨?_, by simpa using named⟩
      rw [text_generated_some, numeral]
    rw [read]
    rfl

instance (family text : String) : Decidable (GeneratedFor family text) :=
  decidable_of_iff _ belongs_parse_iff

end RuntimeMonitor.Cache.Key

import Mathlib
import RuntimeMonitor.Proofs.Identity.FloatText
import RuntimeMonitor.Proofs.Identity.ElementType
import RuntimeMonitor.Proofs.Identity.TypedArguments
import RuntimeMonitor.Proofs.Json.RoundTrip

/-!
# Arguments that are integers

Signed words keep their numerals. One integer beyond them makes doubles of all integers in its
array, and a double is written with a fraction. So the text no longer tells integers apart that are
nearest to the same double, but it does tell arrays of doubles from arrays of signed words.
-/

namespace RuntimeMonitor.Identity

open Number

namespace Arguments

/-- An integer as JSON holds it, a signed or an unsigned word. -/
abbrev Word := { n : Int // -2 ^ 63 ≤ n ∧ n < 2 ^ 64 }

def Word.toJson (n : Word) : Json := .number (.integer n.1 n.2)

/-- The double that a word is nearest to. -/
def Word.nearest (n : Word) : Double := .ofInt n.1

/-- Doubles go far beyond the words. -/
theorem Word.size_lt (n : Word) :
    n.1.natAbs * 2 ^ Format.binary64.scale <
      Format.binary64.units (Format.binary64.infinity - 1) := by
  have small : n.1.natAbs ≤ 2 ^ 64 := by omega
  have great : 2 ^ 64 * 2 ^ Format.binary64.scale <
      Format.binary64.units (Format.binary64.infinity - 1) := by decide +kernel
  exact (Nat.mul_le_mul_right _ small).trans_lt great

theorem Word.isFinite_nearest (n : Word) : n.nearest.isFinite = true :=
  Floating.isFinite_ofInt n.size_lt

theorem Word.nearest_closest (n : Word) (x : Double) :
    |(n.1 : ℚ) - n.nearest.value| ≤ |(n.1 : ℚ) - x.value| :=
  Floating.ofInt_closest
    (n.size_lt.trans_le (Format.binary64.units_strictMono.monotone (Nat.sub_le _ 1))) x

def AllSigned (ns : List Word) : Prop := ∀ n ∈ ns, n.1 < 2 ^ 63

instance (ns : List Word) : Decidable (AllSigned ns) :=
  inferInstanceAs (Decidable (∀ n ∈ ns, n.1 < 2 ^ 63))

def exactTexts (ns : List Word) : List String := ns.map fun n => integerText n.1

def roundedTexts (ns : List Word) : List String := ns.map fun n => floatText n.nearest

/-- Whether two arrays are both rounded, and to the same doubles. -/
structure Merged (ms ns : List Word) : Prop where
  left : ¬ AllSigned ms
  right : ¬ AllSigned ns
  nearest_eq : ms.map Word.nearest = ns.map Word.nearest

variable {ms ns : List Word}

theorem readLong_toJson {n : Word} (signed : n.1 < 2 ^ 63) :
    readLong n.toJson = some (Int64.ofInt n.1) := by
  change (n.toJson.bounded? (-2 ^ 63) (2 ^ 63)).map Int64.ofInt = some (Int64.ofInt n.1)
  rw [Word.toJson, Json.bounded?_integer n.2.1 signed, Option.map_some]

theorem readLong_toJson_eq_none {n : Word} (unsigned : ¬ n.1 < 2 ^ 63) :
    readLong n.toJson = none := by
  have outside : n.toJson.bounded? (-2 ^ 63) (2 ^ 63) = none := by
    refine Option.filter_some_neg (decide_eq_false ?_)
    exact fun inside => unsigned inside.2
  change (n.toJson.bounded? (-2 ^ 63) (2 ^ 63)).map Int64.ofInt = none
  rw [outside, Option.map_none]

theorem ofItems_signed {n : Word} (signed : AllSigned (n :: ns)) :
    ofItems ((n :: ns).map Word.toJson) = .ok (longs ((n :: ns).map fun n => .ofInt n.1)) := by
  have head : n ∈ n :: ns := List.mem_cons_self
  exact ofItems_of_readAs (.longs (refused_map head rfl) (refused_map head rfl)
    (each_map fun n mem => readLong_toJson (signed n mem)))

theorem ofItems_unsigned (unsigned : ¬ AllSigned ns) :
    ofItems (ns.map Word.toJson) = .ok (doubles (ns.map Word.nearest)) := by
  obtain ⟨n, mem, large⟩ : ∃ n ∈ ns, ¬ n.1 < 2 ^ 63 := by
    by_contra none
    exact unsigned fun n mem => not_not.mp fun large => none ⟨n, mem, large⟩
  exact ofItems_of_readAs (.doubles (refused_map mem rfl) (refused_map mem rfl)
    (refused_map mem (readLong_toJson_eq_none large)) (each_map fun _ _ => rfl))

/-- The texts of the arguments that integers are read as. -/
def wordTexts (ns : List Word) : List String :=
  if AllSigned ns then exactTexts ns else roundedTexts ns

theorem exists_ofItems_words (ns : List Word) :
    ∃ a, ofItems (ns.map Word.toJson) = .ok a ∧ a.texts = wordTexts ns := by
  by_cases signed : AllSigned ns
  · rw [wordTexts, if_pos signed]
    cases ns with
    | nil => exact ⟨strings [], rfl, rfl⟩
    | cons n ns =>
      refine ⟨_, ofItems_signed signed, ?_⟩
      rw [texts, exactTexts, List.map_map]
      refine List.map_congr_left fun m mem => ?_
      exact congrArg integerText (Int64.toInt_ofInt_of_le m.2.1 (signed m mem))
  · rw [wordTexts, if_neg signed]
    exact ⟨_, ofItems_unsigned signed, List.map_map⟩

theorem texts_of_ofItems_words {a : Arguments} (read : ofItems (ns.map Word.toJson) = .ok a) :
    a.texts = wordTexts ns := by
  obtain ⟨b, again, texts⟩ := exists_ofItems_words ns
  rw [read] at again
  exact Except.ok.inj again ▸ texts

theorem exactTexts_injective : Function.Injective exactTexts :=
  List.map_injective_iff.mpr (integerText_injective.comp Subtype.val_injective)

theorem roundedTexts_eq_iff :
    roundedTexts ms = roundedTexts ns ↔ ms.map Word.nearest = ns.map Word.nearest := by
  have number (n : Word) : n.nearest.isNaN = false := Floating.isNaN_ofInt n.1
  rw [roundedTexts, roundedTexts, ← List.forall₂_eq_eq_eq, ← List.forall₂_eq_eq_eq]
  simp only [List.forall₂_map_left_iff, List.forall₂_map_right_iff,
    floatText_inj (number _) (number _)]

/-- Some rounded integers are not written like exact ones, as a fraction shows. -/
theorem roundedTexts_ne_exactTexts (nonempty : ms ≠ []) : roundedTexts ms ≠ exactTexts ns := by
  obtain ⟨m, ms, rfl⟩ := List.exists_cons_of_ne_nil nonempty
  intro same
  cases ns with
  | nil => cases same
  | cons n ns => exact floatText_ne_integerText _ _ (List.cons.inj same).1

theorem ne_nil_of_unsigned (unsigned : ¬ AllSigned ns) : ns ≠ [] := by
  rintro rfl
  exact unsigned (by simp [AllSigned])

theorem wordTexts_eq_iff : wordTexts ms = wordTexts ns ↔ ms = ns ∨ Merged ms ns := by
  constructor
  · intro same
    rw [wordTexts, wordTexts] at same
    split_ifs at same with hm hn hn
    · exact .inl (exactTexts_injective same)
    · exact absurd same.symm (roundedTexts_ne_exactTexts (ne_nil_of_unsigned hn))
    · exact absurd same (roundedTexts_ne_exactTexts (ne_nil_of_unsigned hm))
    · exact .inr ⟨hm, hn, roundedTexts_eq_iff.mp same⟩
  · rintro (rfl | merged)
    · rfl
    · rw [wordTexts, wordTexts, if_neg merged.left, if_neg merged.right]
      exact roundedTexts_eq_iff.mpr merged.nearest_eq

theorem plain_floatText {f : Format} (x : Floating f) : Plain (floatText x) := by
  refine plain_of_space_not_mem ?_ (space_not_mem_floatText x)
  rintro empty
  obtain ⟨c, mem, -⟩ := exists_foreign_mem_floatText x
  rw [empty] at mem
  cases mem

theorem plain_wordTexts (ns : List Word) : ∀ text ∈ wordTexts ns, Plain text := by
  rw [wordTexts]
  split
  · exact List.forall_mem_map.mpr fun n _ => plain_integerText n.1
  · exact List.forall_mem_map.mpr fun n _ => plain_floatText n.nearest

theorem bracketed_wordTexts_eq_iff :
    bracketed (wordTexts ms) = bracketed (wordTexts ns) ↔ ms = ns ∨ Merged ms ns := by
  rw [← wordTexts_eq_iff]
  constructor
  · exact bracketed_inj_of_plain (plain_wordTexts ms) (plain_wordTexts ns)
  · exact congrArg bracketed

end Arguments

open Arguments

theorem canonicalBytes_eq_of_render_eq (s : Attributes) {a b : Arguments}
    (alike : a.render = b.render) :
    { s with inputArguments := a }.canonicalBytes = { s with inputArguments := b }.canonicalBytes :=
  canonicalBytes_eq_of_agree ⟨rfl, rfl, alike, rfl, rfl, rfl, rfl⟩

/-- Attributes have the same encoding exactly if their arguments are written alike and all else is
the same. -/
theorem canonicalBytes_eq_iff_render_eq {s t : Attributes} {a b : Arguments} {x y : List UInt8}
    (hx : { s with inputArguments := a }.canonicalBytes = .ok x)
    (hy : { t with inputArguments := b }.canonicalBytes = .ok y) :
    x = y ↔ a.render = b.render ∧
      { s with inputArguments := a } = { t with inputArguments := a } := by
  constructor
  · rintro rfl
    obtain ⟨agree, -⟩ := agree_of_append hx hy (List.append_nil x)
    refine ⟨agree.inputArguments, ?_⟩
    rw [Attributes.mk.injEq]
    exact ⟨agree.classPath, agree.name, rfl, agree.libraryPath, agree.vmVendor, agree.vmVersion,
      agree.startTime⟩
  · rintro ⟨arguments, rest⟩
    rw [Attributes.mk.injEq] at rest
    obtain ⟨classPath, name, -, libraryPath, vendor, version, time⟩ := rest
    have agree : Agree { s with inputArguments := a } { t with inputArguments := b } :=
      ⟨classPath, name, arguments, libraryPath, vendor, version, time⟩
    rw [canonicalBytes_eq_of_agree agree, hy] at hx
    exact (Except.ok.inj hx).symm

/-- Integers are always read. They keep their numerals if all of them are signed words, and are
rounded to the nearest doubles else. Two arrays of them are written alike only if they are the same or both are
rounded to the same doubles, and these arrays alone give attributes the same encoding. -/
theorem words_told_unless_merged :
    (∀ n : Word, n.nearest.isFinite = true ∧ ∀ x : Double, x.isFinite = true →
      |(n.1 : ℚ) - n.nearest.value| ≤ |(n.1 : ℚ) - x.value|) ∧
    (∀ ns : List Word, ∃ a, ofJson (.array (ns.map Word.toJson)) = .ok a ∧
      (AllSigned ns → a.render = bracketed (ns.map fun n => integerText n.1)) ∧
      (¬ AllSigned ns → a.render = bracketed (ns.map fun n => floatText n.nearest))) ∧
    ∀ (ms ns : List Word) (a b : Arguments), ofJson (.array (ms.map Word.toJson)) = .ok a →
      ofJson (.array (ns.map Word.toJson)) = .ok b →
      (a.render = b.render ↔ ms = ns ∨ Merged ms ns) ∧
      ∀ (s t : Attributes) (x y : List UInt8),
        { s with inputArguments := a }.canonicalBytes = .ok x →
        { t with inputArguments := b }.canonicalBytes = .ok y →
        (x = y ↔ (ms = ns ∨ Merged ms ns) ∧
          { s with inputArguments := a } = { t with inputArguments := a }) := by
  refine ⟨fun n => ⟨n.isFinite_nearest, fun x _ => n.nearest_closest x⟩, ?_, ?_⟩
  · intro ns
    obtain ⟨a, read, texts⟩ := exists_ofItems_words ns
    refine ⟨a, read, ?_, ?_⟩
    · intro signed
      rw [render, texts, wordTexts, if_pos signed, exactTexts]
    · intro unsigned
      rw [render, texts, wordTexts, if_neg unsigned, roundedTexts]
  · intro ms ns a b readA readB
    have alike : a.render = b.render ↔ ms = ns ∨ Merged ms ns := by
      rw [render, render, texts_of_ofItems_words readA, texts_of_ofItems_words readB]
      exact bracketed_wordTexts_eq_iff
    refine ⟨alike, fun s t x y hx hy => ?_⟩
    rw [← alike]
    exact canonicalBytes_eq_iff_render_eq hx hy

/-- The greatest signed word and the word behind it are told apart, although the nearest double is
the same. -/
theorem words_told_unless_merged_limit :
    let m : Word := ⟨2 ^ 63 - 1, by decide⟩
    let n : Word := ⟨2 ^ 63, by decide⟩
    let a : Arguments := longs [.ofInt m.1]
    let b : Arguments := doubles [n.nearest]
    let s : Attributes := { name := "é", startTime := -1 }
    let x : List UInt8 := [0, 0, 0, 2, 0xc3, 0xa9, 0, 21, 0x5b, 0x39, 0x32, 0x32, 0x33, 0x33,
      0x37, 0x32, 0x30, 0x33, 0x36, 0x38, 0x35, 0x34, 0x37, 0x37, 0x35, 0x38, 0x30, 0x37, 0x5d, 0,
      0, 0, 0, 0, 0, 0xff, 0xff, 0xff, 0xff, 0xff, 0xff, 0xff, 0xff]
    let y : List UInt8 := [0, 0, 0, 2, 0xc3, 0xa9, 0, 22, 0x5b, 0x39, 0x2e, 0x32, 0x32, 0x33,
      0x33, 0x37, 0x32, 0x30, 0x33, 0x36, 0x38, 0x35, 0x34, 0x37, 0x37, 0x36, 0x45, 0x31, 0x38,
      0x5d, 0, 0, 0, 0, 0, 0, 0xff, 0xff, 0xff, 0xff, 0xff, 0xff, 0xff, 0xff]
    (ofJson (.array [m.toJson]) = .ok a ∧ ofJson (.array [n.toJson]) = .ok b) ∧
      ({ s with inputArguments := a }.canonicalBytes = .ok x ∧
        { s with inputArguments := b }.canonicalBytes = .ok y) ∧
      m.nearest = n.nearest ∧ a.render ≠ b.render ∧ x ≠ y := by
  intro m n a b s x y
  have signed : AllSigned [m] := by decide
  have unsigned : ¬ AllSigned [n] := by decide
  have readA : ofJson (.array [m.toJson]) = .ok a := ofItems_signed signed
  have readB : ofJson (.array [n.toJson]) = .ok b := ofItems_unsigned unsigned
  have hx : { s with inputArguments := a }.canonicalBytes = .ok x := by cbv
  have text : b.render = (strings ["9.223372036854776E18"]).render := by decide +kernel
  have hy : { s with inputArguments := b }.canonicalBytes = .ok y := by
    rw [canonicalBytes_eq_of_render_eq s text]
    cbv
  have apart : ¬ ([m] = [n] ∨ Merged [m] [n]) := by
    rintro (same | merged)
    · exact absurd same (by decide)
    · exact merged.left signed
  obtain ⟨alike, encoded⟩ := words_told_unless_merged.2.2 [m] [n] a b readA readB
  refine ⟨⟨readA, readB⟩, ⟨hx, hy⟩, by decide +kernel, mt alike.mp apart, ?_⟩
  exact fun same => apart ((encoded s s x y hx hy).mp same).1

/-- Beyond the signed words two integers may become one double, and the others get a fraction. -/
theorem words_rounded :
    let m : Word := ⟨2 ^ 63, by decide⟩
    let n : Word := ⟨2 ^ 63 + 1, by decide⟩
    let one : Word := ⟨1, by decide⟩
    let a : Arguments := doubles [one.nearest, m.nearest]
    let bytes : List UInt8 := [0, 0, 0, 0, 0, 27, 0x5b, 0x31, 0x2e, 0x30, 0x2c, 0x20, 0x39, 0x2e,
      0x32, 0x32, 0x33, 0x33, 0x37, 0x32, 0x30, 0x33, 0x36, 0x38, 0x35, 0x34, 0x37, 0x37, 0x36,
      0x45, 0x31, 0x38, 0x5d, 0, 0, 0, 0, 0, 0, 0, 0, 0, 0, 0, 0, 0, 0]
    ([one, m] ≠ [one, n] ∧ ofJson (.array [one.toJson, m.toJson]) = .ok a ∧
        ofJson (.array [one.toJson, n.toJson]) = .ok a) ∧
      a.render ≠ bracketed [integerText one.1, integerText m.1] ∧
      ({ inputArguments := a } : Attributes).canonicalBytes = .ok bytes := by
  intro m n one a bytes
  have unsignedM : ¬ AllSigned [one, m] := by decide
  have unsignedN : ¬ AllSigned [one, n] := by decide
  have readM : ofJson (.array [one.toJson, m.toJson]) = .ok a := ofItems_unsigned unsignedM
  have readN : ofJson (.array [one.toJson, n.toJson]) = .ok (doubles [one.nearest, n.nearest]) :=
    ofItems_unsigned unsignedN
  have rounded : n.nearest = m.nearest := by decide +kernel
  rw [rounded] at readN
  have text : a.render = (strings ["1.0", "9.223372036854776E18"]).render := by decide +kernel
  refine ⟨⟨by decide, readM, readN⟩, ?_, ?_⟩
  · rw [text]
    decide
  · have encoded := canonicalBytes_eq_of_render_eq {} text
    rw [encoded]
    cbv

end RuntimeMonitor.Identity

import Mathlib
import RuntimeMonitor.Proofs.Recording.Quantity
import RuntimeMonitor.Settings.Basic

/-!
# Spellings of option names

An option is found under its names in any case, with separators anywhere inside and blanks around
them. Separators and letters are not blank, so an accepted text has no blank but those around it, and
no character beyond ASCII but such blanks. Hence separators can be put in and taken out without
laying open a blank, and all that is done to a name so leaves it a name of the same option.
-/

namespace RuntimeMonitor.Recording

open Text

section Letters

variable {c d : Char}

theorem toLower_of_not_isAlpha (other : ¬ c.isAlpha) : c.toLower = c := by
  refine Char.toLower_eq_of_not_isUpper fun capital => other ?_
  rw [Char.isAlpha, capital, Bool.true_or]

theorem isBlank_toLower (c : Char) : isBlank c.toLower = isBlank c := by
  by_cases letter : c.isAlpha
  · have lower : c.toLower.isAlpha := by rwa [Char.isAlpha_toLower_eq_isAlpha]
    rw [Bool.eq_false_iff.mpr (not_isBlank_of_isAlpha lower),
      Bool.eq_false_iff.mpr (not_isBlank_of_isAlpha letter)]
  · rw [toLower_of_not_isAlpha letter]

/-- Only a letter is the lower case of another character. -/
theorem toLower_eq_iff (other : ¬ d.isAlpha) : c.toLower = d ↔ c = d := by
  constructor
  · rintro rfl
    rw [Char.isAlpha_toLower_eq_isAlpha] at other
    exact (toLower_of_not_isAlpha other).symm
  · rintro rfl
    exact toLower_of_not_isAlpha other

end Letters

namespace Key

/-- The characters that do not count inside names. -/
def IsSeparator (c : Char) : Prop := c = '-' ∨ c = '_'

instance (c : Char) : Decidable (IsSeparator c) := inferInstanceAs (Decidable (_ ∨ _))

/-- The names of an option: its label, and for one option another one. -/
inductive Named : Key → String → Prop
  | label (k : Key) : Named k k.label
  | toDisk : Named toDisk "toDisk"

/-- Whether a text is a name of an option, up to the case of its letters, once all separators are
deleted. -/
def Spells (t : List Char) (k : Key) : Prop :=
  ∃ name, Named k name ∧
    (t.filter (¬ IsSeparator ·)).map Char.toLower = name.toList.map Char.toLower

/-- Changes to the spelling of a name. Separators are put in where trimming would leave them. -/
inductive Respells : List Char → List Char → Prop
  | recase {a b : List Char} {c d : Char} (same : c.toLower = d.toLower) :
      Respells (a ++ c :: b) (a ++ d :: b)
  | insert {l u v r : List Char} {c : Char} (left : ∀ x ∈ l, isBlank x) (right : ∀ x ∈ r, isBlank x)
      (head : ∀ x ∈ (u ++ v).head?, ¬ isBlank x) (last : ∀ x ∈ (u ++ v).getLast?, ¬ isBlank x)
      (separator : IsSeparator c) : Respells (l ++ (u ++ v) ++ r) (l ++ (u ++ c :: v) ++ r)
  | delete {a b : List Char} {c : Char} (separator : IsSeparator c) :
      Respells (a ++ c :: b) (a ++ b)
  | pad {l s r : List Char} (left : ∀ x ∈ l, isBlank x) (right : ∀ x ∈ r, isBlank x) :
      Respells s (l ++ s ++ r)
  | strip {l s r : List Char} (left : ∀ x ∈ l, isBlank x) (right : ∀ x ∈ r, isBlank x) :
      Respells (l ++ s ++ r) s

variable {s t : List Char} {c : Char} {k : Key}

theorem IsSeparator.not_isBlank (separator : IsSeparator c) : ¬ isBlank c := by
  rcases separator with rfl | rfl <;> decide

theorem Named.letters {name : String} (named : Named k name) : ∀ d ∈ name.toList, d.isAlpha := by
  cases named with
  | label => cases k <;> simp [Key.label]
  | toDisk => simp

theorem lookup_spellings_iff {name : List Char} :
    spellings.lookup name = some k ↔ ∃ n, Named k n ∧ name = n.toList.map Char.toLower := by
  constructor
  · intro found
    have listed := mem_of_lookup found
    simp only [spellings, List.mem_cons, Prod.mk.injEq, List.not_mem_nil, or_false] at listed
    rcases listed with ⟨rfl, rfl⟩ | ⟨rfl, rfl⟩ | ⟨rfl, rfl⟩ | ⟨rfl, rfl⟩ | ⟨rfl, rfl⟩ | ⟨rfl, rfl⟩ |
      ⟨rfl, rfl⟩ | ⟨rfl, rfl⟩
    · exact ⟨_, .label _, by decide⟩
    · exact ⟨_, .toDisk, by decide⟩
    · exact ⟨_, .label _, by decide⟩
    · exact ⟨_, .label _, by decide⟩
    · exact ⟨_, .label _, by decide⟩
    · exact ⟨_, .label _, by decide⟩
    · exact ⟨_, .label _, by decide⟩
    · exact ⟨_, .label _, by decide⟩
  · rintro ⟨n, named, rfl⟩
    cases named with
    | label => cases k <;> decide
    | toDisk => decide

theorem ofName?_eq_some_iff {s : String} :
    ofName? s = some k ↔ ∃ t, Trims s.toList t ∧ Spells t k := by
  have separators : (fun c => decide (c ≠ '-' ∧ c ≠ '_')) = fun c => decide (¬ IsSeparator c) := by
    funext c
    exact decide_eq_decide.mpr not_or.symm
  simp only [ofName?, lookup_spellings_iff, plain, separators, trims_iff, exists_eq_left']
  rfl

theorem Spells.isSeparator_or_isAlpha (spells : Spells t k) (mem : c ∈ t) :
    IsSeparator c ∨ c.isAlpha := by
  obtain ⟨name, named, same⟩ := spells
  by_cases separator : IsSeparator c
  · exact .inl separator
  · have kept : c ∈ t.filter (¬ IsSeparator ·) := List.mem_filter.mpr ⟨mem, by simpa using separator⟩
    have lower : c.toLower ∈ name.toList.map Char.toLower := same ▸ List.mem_map_of_mem kept
    obtain ⟨d, letter, same⟩ := List.mem_map.mp lower
    rw [← Char.isAlpha_toLower_eq_isAlpha, ← same, Char.isAlpha_toLower_eq_isAlpha]
    exact .inr (named.letters d letter)

theorem Spells.not_isBlank (spells : Spells t k) (mem : c ∈ t) : ¬ isBlank c := by
  rcases spells.isSeparator_or_isAlpha mem with separator | letter
  · exact separator.not_isBlank
  · exact not_isBlank_of_isAlpha letter

theorem Spells.toNat_lt (spells : Spells t k) (mem : c ∈ t) : c.toNat < 0x80 := by
  rcases spells.isSeparator_or_isAlpha mem with (rfl | rfl) | letter
  · decide
  · decide
  · have bounds := toNat_of_isAlpha letter
    omega

/-! ## What may be done to a name -/

theorem filter_toLower (t : List Char) :
    (t.map Char.toLower).filter (¬ IsSeparator ·) =
      (t.filter (¬ IsSeparator ·)).map Char.toLower := by
  have same (c : Char) : IsSeparator c.toLower ↔ IsSeparator c :=
    or_congr (toLower_eq_iff (by decide)) (toLower_eq_iff (by decide))
  simp only [List.filter_map, Function.comp_def, same]

/-- Names that differ in case alone are names of the same option. -/
theorem spells_toLower_iff : Spells (t.map Char.toLower) k ↔ Spells t k := by
  simp only [Spells, filter_toLower, List.map_map, Function.comp_def,
    Char.toLower_toLower_eq_toLower]

/-- Separators count for nothing. -/
theorem spells_append_cons_iff {u v : List Char} (separator : IsSeparator c) :
    Spells (u ++ c :: v) k ↔ Spells (u ++ v) k := by
  have dropped : (u ++ c :: v).filter (¬ IsSeparator ·) = (u ++ v).filter (¬ IsSeparator ·) := by
    simp [List.filter_append, separator]
  rw [Spells, Spells, dropped]

/-- Every change leaves a name within its blanks. -/
theorem Respells.spells (change : Respells s t) (spells : Spells (trimChars s) k) :
    Spells (trimChars t) k := by
  cases change with
  | @recase a b c d same =>
    have lower : (a ++ c :: b).map Char.toLower = (a ++ d :: b).map Char.toLower := by
      simp [same]
    rw [← spells_toLower_iff, ← trimChars_map isBlank_toLower] at spells ⊢
    rwa [← lower]
  | @insert l u v r c left right head last separator =>
    have before : trimChars (l ++ (u ++ v) ++ r) = u ++ v :=
      trims_iff.mp ⟨⟨l, r, rfl, left, right⟩, head, last⟩
    have start : trimStart (l ++ u) = u := trimStart_append left fun x hx => head x <| by
      rw [List.head?_append, Option.mem_def.mp hx]
      rfl
    have stop : trimEnd (v ++ r) = v := trimEnd_append right fun x hx => last x <| by
      rw [List.getLast?_append, Option.mem_def.mp hx]
      rfl
    have after : trimChars (l ++ (u ++ c :: v) ++ r) = u ++ c :: v := by
      have split : l ++ (u ++ c :: v) ++ r = (l ++ u) ++ c :: (v ++ r) := by simp
      rw [split, trimChars_append_cons separator.not_isBlank, start, stop]
    rw [before] at spells
    rw [after]
    exact (spells_append_cons_iff separator).mpr spells
  | @delete a b c separator =>
    rw [trimChars_append_cons separator.not_isBlank] at spells
    have solid : ∀ x ∈ trimStart a ++ trimEnd b, ¬ isBlank x := by
      intro x mem
      have mem' : x ∈ trimStart a ++ c :: trimEnd b :=
        List.mem_append.mpr ((List.mem_append.mp mem).imp_right (List.mem_cons_of_mem c))
      exact spells.not_isBlank mem'
    have rest : trimChars (a ++ b) = trimStart a ++ trimEnd b := by
      obtain ⟨l, start, left, -⟩ := exists_trimStart a
      obtain ⟨r, stop, right, -⟩ := exists_trimEnd b
      have split : a ++ b = l ++ (trimStart a ++ trimEnd b) ++ r := by
        rw [← List.append_assoc, ← start, List.append_assoc, ← stop]
      rw [split]
      exact trimChars_of_solid left right solid
    rw [rest]
    exact (spells_append_cons_iff separator).mp spells
  | pad left right => rwa [trimChars_append_append s left right]
  | strip left right => rwa [trimChars_append_append t left right] at spells

theorem ofName?_of_respells {s t : String} (changes : Relation.ReflTransGen Respells s.toList t.toList)
    (found : ofName? s = some k) : ofName? t = some k := by
  simp only [ofName?_eq_some_iff, trims_iff, exists_eq_left'] at found ⊢
  generalize t.toList = t at changes ⊢
  induction changes with
  | refl => exact found
  | tail _ change ih => exact change.spells ih

theorem ofName?_eq_none_of_mem {s : String} (trims : Trims s.toList t) (mem : c ∈ t)
    (foreign : isBlank c ∨ 0x80 ≤ c.toNat) : ofName? s = none := by
  by_contra found
  obtain ⟨k, found⟩ := Option.ne_none_iff_exists'.mp found
  obtain ⟨t', trims', spells⟩ := ofName?_eq_some_iff.mp found
  obtain rfl : t = t' := (trims_iff.mp trims).symm.trans (trims_iff.mp trims')
  rcases foreign with blank | beyond
  · exact spells.not_isBlank mem blank
  · exact absurd (spells.toNat_lt mem) (Nat.not_lt.mpr beyond)

end Key

/-- A text is accepted as a name of an option exactly if what is within the blanks around it is one,
up to case and separators. Changing the case of letters, putting in separators where trimming would
leave them, taking out separators and changing the blanks around it leave it a name of the same
option. A blank inside it or a character beyond ASCII make it unknown. What is unknown is reported as
it was written. -/
theorem ofName?_accepts_spellings :
    (∀ s k, Key.ofName? s = some k ↔ ∃ t, Trims s.toList t ∧ Key.Spells t k) ∧
      (∀ (s t : String) (k : Key), Relation.ReflTransGen Key.Respells s.toList t.toList →
        Key.ofName? s = some k → Key.ofName? t = some k) ∧
      (∀ (s : String) (t : List Char), Trims s.toList t →
        (∃ c ∈ t, isBlank c ∨ 0x80 ≤ c.toNat) → Key.ofName? s = none) ∧
      ∀ s, Key.ofName? s = none →
        Key.unknownMessage s = "unknown recording option: " ++ s ∧
        ∀ (settings : Settings) (raw : String),
          settings.setOption s raw = .error ⟨s⟩ ∧
          (Settings.UnknownOption.mk s).message =
            "Invalid recording option: unknown recording option: " ++ s := by
  refine ⟨fun s k => Key.ofName?_eq_some_iff, fun s t k => Key.ofName?_of_respells, ?_, ?_⟩
  · rintro s t trims ⟨c, mem, foreign⟩
    exact Key.ofName?_eq_none_of_mem trims mem foreign
  · intro s unknown
    refine ⟨rfl, fun settings raw => ⟨?_, ?_⟩⟩
    · rw [Settings.setOption, unknown]
    · have start : "Invalid recording option: " ++ "unknown recording option: " =
          "Invalid recording option: unknown recording option: " := by cbv
      rw [← start, String.append_assoc]
      rfl

/-- A name within wide blanks, and two texts that are none: a separator at the edge keeps the blank
behind it inside, and the sign for kelvins is no letter. -/
theorem ofName?_accepts_spellings_shielded :
    let name := "\u2003" ++ "D-isk" ++ "\n"
    let shielded := "- disk"
    let lookalike := "dis" ++ "\u212a"
    Key.ofName? "disk" = some .toDisk ∧ Relation.ReflTransGen Key.Respells "disk".toList name.toList ∧
      Key.ofName? name = some .toDisk ∧
      Trims shielded.toList shielded.toList ∧ Key.ofName? shielded = none ∧
      Trims lookalike.toList lookalike.toList ∧ Key.ofName? lookalike = none ∧
      Settings.default.setOption shielded "true" = .error ⟨shielded⟩ := by
  intro name shielded lookalike
  obtain ⟨accepted, closed, foreign, reported⟩ := ofName?_accepts_spellings
  have found : Key.ofName? "disk" = some .toDisk := by decide
  have blank : ∀ c ∈ ['\u2003', '\n'], isBlank c := by
    simp [isBlank, Span.covers, blankSpans, Span.Contains]
  have letter : ¬ isBlank 'd' ∧ ¬ isBlank 'k' :=
    ⟨not_isBlank_of_isAlpha (by decide), not_isBlank_of_isAlpha (by decide)⟩
  have insert : Key.Respells ['d', 'i', 's', 'k'] ['d', '-', 'i', 's', 'k'] :=
    @Key.Respells.insert [] ['d'] ['i', 's', 'k'] [] '-' (by simp) (by simp)
      (by simpa using letter.1) (by simpa using letter.2) (by decide)
  have recase : Key.Respells ['d', '-', 'i', 's', 'k'] ['D', '-', 'i', 's', 'k'] :=
    @Key.Respells.recase [] ['-', 'i', 's', 'k'] 'd' 'D' (by decide)
  have pad : Key.Respells ['D', '-', 'i', 's', 'k'] ['\u2003', 'D', '-', 'i', 's', 'k', '\n'] :=
    @Key.Respells.pad ['\u2003'] ['D', '-', 'i', 's', 'k'] ['\n'] (by simp [blank])
      (by simp [blank])
  have spelled : name.toList = ['\u2003', 'D', '-', 'i', 's', 'k', '\n'] := by cbv
  have changes : Relation.ReflTransGen Key.Respells "disk".toList name.toList := by
    rw [spelled]
    exact ((Relation.ReflTransGen.single insert).tail recase).tail pad
  have whole : Trims shielded.toList shielded.toList := trims_iff.mpr (by decide)
  have whole' : Trims lookalike.toList lookalike.toList := trims_iff.mpr (by decide)
  have unknown : Key.ofName? shielded = none :=
    foreign shielded _ whole ⟨' ', by decide, .inl (by decide)⟩
  exact ⟨found, changes, closed _ _ _ changes found, whole, unknown, whole',
    foreign lookalike _ whole' ⟨'\u212a', by decide, .inr (by decide)⟩,
    ((reported shielded unknown).2 .default "true").1⟩

end RuntimeMonitor.Recording

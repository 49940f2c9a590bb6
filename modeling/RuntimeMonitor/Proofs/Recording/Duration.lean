import Mathlib
import RuntimeMonitor.Proofs.Number.Numeral
import RuntimeMonitor.Proofs.Recording.Quantity

/-!
# Durations

A unit of time is a part of a second by a power of ten, or a number of whole seconds. A duration is
read exactly if its whole seconds stay below `2 ^ 64`, which only a unit beyond the second can
prevent. The same is computed in machine words, where every number on the way is put into a word
and there is no result if one of them does not fit.
-/

namespace RuntimeMonitor.Recording

open Text Number

/-- What a unit of time is to the second: a part of it, or a number of seconds. -/
inductive Scale where
  /-- So many powers of ten of these units make a second. -/
  | part (places : Nat)
  | seconds (count : Nat)

namespace Scale

/-- The units of time by their names in lower case. A bare number counts milliseconds. -/
inductive Named : List Char → Scale → Prop
  | nanosecond : Named "ns".toList (part 9)
  | microsecond : Named "us".toList (part 6)
  | bare : Named "".toList (part 3)
  | millisecond : Named "ms".toList (part 3)
  | second : Named "s".toList (seconds 1)
  | minute : Named "m".toList (seconds 60)
  | minuteLong : Named "min".toList (seconds 60)
  | hour : Named "h".toList (seconds 3600)
  | day : Named "d".toList (seconds 86400)

def nanoseconds : Scale → Nat
  | part places => 10 ^ (9 - places)
  | seconds count => count * 10 ^ 9

/-- So many units in nanoseconds. -/
def times (scale : Scale) (n : Nat) : Duration := ⟨n * scale.nanoseconds⟩

/-- Whether so many units are a number of seconds below the limit. Parts of seconds always are. -/
def Fits (n : Nat) : Scale → Prop
  | part _ => True
  | seconds count => count * n < 2 ^ 64

instance (n : Nat) (scale : Scale) : Decidable (scale.Fits n) := by
  unfold Fits
  split <;> infer_instance

end Scale

section Words

/-- A number as a word, if it fits. -/
def word64? (n : Nat) : Option UInt64 := if n < 2 ^ 64 then some (.ofNat n) else none

def word32? (n : Nat) : Option UInt32 := if n < 2 ^ 32 then some (.ofNat n) else none

theorem word64?_eq_some_iff {n : Nat} {w : UInt64} : word64? n = some w ↔ w.toNat = n := by
  rw [word64?, Option.ite_none_right_eq_some]
  constructor
  · rintro ⟨small, same⟩
    rw [← Option.some.inj same, UInt64.toNat_ofNat_of_lt' small]
  · rintro rfl
    exact ⟨w.toNat_lt, congrArg some UInt64.ofNat_toNat⟩

theorem word32?_eq_some_iff {n : Nat} {w : UInt32} : word32? n = some w ↔ w.toNat = n := by
  rw [word32?, Option.ite_none_right_eq_some]
  constructor
  · rintro ⟨small, same⟩
    rw [← Option.some.inj same, UInt32.toNat_ofNat_of_lt' small]
  · rintro rfl
    exact ⟨w.toNat_lt, congrArg some UInt32.ofNat_toNat⟩

/-- The number of a run of digits, digit by digit. -/
def number? (ds : List Char) : Option UInt64 :=
  ds.foldlM (fun n d => do
    let tens ← word64? (n.toNat * 10)
    word64? (tens.toNat + (d.toNat - '0'.toNat))) 0

/-- The whole seconds of so many units, and the nanoseconds beyond them. -/
def Scale.span? (n : UInt64) : Scale → Option (UInt64 × UInt32)
  | part places => do
    let whole ← word64? (n.toNat / 10 ^ places)
    let units ← word32? (n.toNat % 10 ^ places)
    let rest ← word32? (units.toNat * 10 ^ (9 - places))
    return (whole, rest)
  | seconds count => do
    let whole ← word64? (n.toNat * count)
    return (whole, 0)

theorem number?_append_singleton (ds : List Char) (d : Char) :
    number? (ds ++ [d]) = (number? ds).bind fun n => (word64? (n.toNat * 10)).bind fun tens =>
      word64? (tens.toNat + (d.toNat - '0'.toNat)) := by
  rw [number?, List.foldlM_append]
  simp only [List.foldlM_cons, List.foldlM_nil, bind_pure]
  rfl

/-- No digit takes the number beyond a word if the last one does not. -/
theorem number?_eq_some_iff {ds : List Char} {w : UInt64} :
    number? ds = some w ↔ w.toNat = ofDigits ds := by
  induction ds using List.reverseRecOn generalizing w with
  | nil =>
    rw [← word64?_eq_some_iff]
    rfl
  | append_singleton ds d ih =>
    rw [number?_append_singleton, ofDigits_append_singleton]
    simp only [Option.bind_eq_some_iff, word64?_eq_some_iff, ih]
    constructor
    · rintro ⟨n, value, tens, ten, sum⟩
      omega
    · intro sum
      have bound := w.toNat_lt
      have value : (UInt64.ofNat (ofDigits ds)).toNat = ofDigits ds :=
        UInt64.toNat_ofNat_of_lt' (show _ < 2 ^ 64 by omega)
      have ten : (UInt64.ofNat (ofDigits ds * 10)).toNat = ofDigits ds * 10 :=
        UInt64.toNat_ofNat_of_lt' (show _ < 2 ^ 64 by omega)
      exact ⟨_, value, _, by rw [ten, value], by omega⟩

end Words

theorem Duration.eq_iff {d e : Duration} :
    d = e ↔ d.seconds = e.seconds ∧ d.subseconds = e.subseconds := by
  constructor
  · rintro rfl
    exact ⟨rfl, rfl⟩
  · rintro ⟨whole, rest⟩
    have same : d.nanoseconds = e.nanoseconds := by
      rw [← Nat.div_add_mod d.nanoseconds (10 ^ 9), ← Nat.div_add_mod e.nanoseconds (10 ^ 9)]
      exact congrArg₂ (10 ^ 9 * · + ·) whole rest
    cases d
    cases e
    cases same
    rfl

namespace Scale

variable {unit : List Char} {scale : Scale} {n : Nat}

theorem Named.letters (named : scale.Named unit) : ∀ c ∈ unit, c.isAlpha := by
  cases named <;> simp

theorem Named.places_le {places : Nat} (named : (part places).Named unit) : places ≤ 9 := by
  cases named <;> decide

theorem lookup_durationUnits {k : Nat} :
    durationUnits.lookup unit = some k ↔ ∃ scale : Scale, scale.Named unit ∧ scale.nanoseconds = k := by
  constructor
  · intro found
    have listed := mem_of_lookup found
    simp only [durationUnits, List.mem_cons, Prod.mk.injEq, List.not_mem_nil, or_false] at listed
    rcases listed with ⟨rfl, rfl⟩ | ⟨rfl, rfl⟩ | ⟨rfl, rfl⟩ | ⟨rfl, rfl⟩ | ⟨rfl, rfl⟩ | ⟨rfl, rfl⟩ |
      ⟨rfl, rfl⟩ | ⟨rfl, rfl⟩ | ⟨rfl, rfl⟩
    · exact ⟨_, .nanosecond, rfl⟩
    · exact ⟨_, .microsecond, rfl⟩
    · exact ⟨_, .bare, rfl⟩
    · exact ⟨_, .millisecond, rfl⟩
    · exact ⟨_, .second, rfl⟩
    · exact ⟨_, .minute, rfl⟩
    · exact ⟨_, .minuteLong, rfl⟩
    · exact ⟨_, .hour, rfl⟩
    · exact ⟨_, .day, rfl⟩
  · rintro ⟨scale, named, rfl⟩
    cases named <;> rfl

theorem seconds_times_part {places : Nat} (le : places ≤ 9) (n : Nat) :
    ((part places).times n).seconds = n / 10 ^ places ∧
      ((part places).times n).subseconds = n % 10 ^ places * 10 ^ (9 - places) := by
  have split : 10 ^ 9 = 10 ^ places * 10 ^ (9 - places) := by
    rw [← Nat.pow_add, Nat.add_sub_cancel' le]
  simp only [times, nanoseconds, Duration.seconds, Duration.subseconds, split]
  exact ⟨Nat.mul_div_mul_right _ _ (Nat.pow_pos (by decide)), Nat.mul_mod_mul_right _ _ _⟩

theorem seconds_times_seconds (count n : Nat) :
    ((seconds count).times n).seconds = n * count ∧ ((seconds count).times n).subseconds = 0 := by
  simp only [times, nanoseconds, Duration.seconds, Duration.subseconds, ← Nat.mul_assoc]
  exact ⟨Nat.mul_div_cancel _ (by decide), Nat.mul_mod_left _ _⟩

/-- Only a unit beyond the second can take a number that fits into a word out of it. -/
theorem fits_iff (named : scale.Named unit) (small : n < 2 ^ 64) :
    scale.Fits n ↔ (scale.times n).seconds < wordLimit := by
  cases scale with
  | part places =>
    rw [(seconds_times_part named.places_le n).1]
    exact iff_of_true trivial (Nat.lt_of_le_of_lt (Nat.div_le_self _ _) small)
  | seconds count =>
    rw [(seconds_times_seconds count n).1, Nat.mul_comm]
    rfl

theorem span?_eq_some_iff (named : scale.Named unit) {n s : UInt64} {r : UInt32} :
    scale.span? n = some (s, r) ↔
      s.toNat = (scale.times n.toNat).seconds ∧ r.toNat = (scale.times n.toNat).subseconds := by
  cases scale with
  | part places =>
    obtain ⟨whole, rest⟩ := seconds_times_part named.places_le n.toNat
    rw [whole, rest, span?]
    simp only [Option.bind_eq_bind, Option.bind_eq_some_iff, word64?_eq_some_iff,
      word32?_eq_some_iff, Option.pure_def, Option.some.injEq, Prod.mk.injEq]
    constructor
    · rintro ⟨_, seconds, units, below, _, beyond, rfl, rfl⟩
      exact ⟨seconds, by rw [beyond, below]⟩
    · rintro ⟨seconds, beyond⟩
      have bound : n.toNat % 10 ^ places < 2 ^ 32 := by
        calc n.toNat % 10 ^ places
          _ < 10 ^ places := Nat.mod_lt _ (Nat.pow_pos (by decide))
          _ ≤ 10 ^ 9 := Nat.pow_le_pow_right (by decide) named.places_le
          _ < 2 ^ 32 := by decide
      have below : (UInt32.ofNat (n.toNat % 10 ^ places)).toNat = n.toNat % 10 ^ places :=
        UInt32.toNat_ofNat_of_lt' bound
      exact ⟨s, seconds, _, below, r, by rw [below, beyond], rfl, rfl⟩
  | seconds count =>
    obtain ⟨whole, rest⟩ := seconds_times_seconds count n.toNat
    rw [whole, rest, span?]
    simp only [Option.bind_eq_bind, Option.bind_eq_some_iff, word64?_eq_some_iff, Option.pure_def,
      Option.some.injEq, Prod.mk.injEq]
    constructor
    · rintro ⟨_, seconds, rfl, rfl⟩
      exact ⟨seconds, rfl⟩
    · rintro ⟨seconds, none⟩
      exact ⟨s, seconds, rfl, UInt32.toNat_inj.mp none.symm⟩

end Scale

section Read

variable {raw : String} {ds unit : List Char} {scale : Scale} {d : Duration}

theorem readDuration_eq (raw : String) :
    readDuration raw = readListed durationUnits .unknownDurationUnit (fun n worth =>
      if (⟨n * worth⟩ : Duration).seconds < wordLimit then .ok ⟨n * worth⟩
      else .error (.longDuration (trim raw))) raw := rfl

theorem readDuration_of_written (written : Written raw.toList ds unit) (named : scale.Named unit) :
    readDuration raw = .ok d ↔
      ofDigits ds < wordLimit ∧ scale.Fits (ofDigits ds) ∧ d = scale.times (ofDigits ds) := by
  rw [readDuration_eq, readListed_of_written written named.letters
    (Scale.lookup_durationUnits.mpr ⟨scale, named, rfl⟩)]
  split
  · next great => exact iff_of_false nofun fun h => Nat.not_le_of_lt h.1 great
  · next small =>
    rw [and_iff_right (Nat.lt_of_not_le small), Scale.fits_iff named (Nat.lt_of_not_le small)]
    change (if (scale.times (ofDigits ds)).seconds < wordLimit then _ else _) = _ ↔ _
    split
    · next fits => exact ⟨fun h => ⟨fits, (Except.ok.inj h).symm⟩, fun h => congrArg _ h.2.symm⟩
    · next long => exact iff_of_false nofun fun h => long h.1

theorem readDuration_eq_ok_iff :
    readDuration raw = .ok d ↔ ∃ ds unit, ∃ scale : Scale, Written raw.toList ds unit ∧
      scale.Named unit ∧ ofDigits ds < wordLimit ∧ scale.Fits (ofDigits ds) ∧
      d = scale.times (ofDigits ds) := by
  constructor
  · intro h
    have listed := h
    rw [readDuration_eq] at listed
    obtain ⟨ds, unit, _, written, listed⟩ := exists_written_of_readListed listed
    obtain ⟨scale, named, -⟩ := Scale.lookup_durationUnits.mp listed
    exact ⟨ds, unit, scale, written, named, (readDuration_of_written written named).mp h⟩
  · rintro ⟨ds, unit, scale, written, named, fits⟩
    exact (readDuration_of_written written named).mpr fits

/-- In machine words the same duration is computed, and none where there is none to be read. -/
theorem readDuration_eq_ok_iff_words (written : Written raw.toList ds unit)
    (named : scale.Named unit) :
    readDuration raw = .ok d ↔ ∃ s r, (number? ds).bind scale.span? = some (s, r) ∧
      s.toNat = d.seconds ∧ r.toNat = d.subseconds := by
  rw [readDuration_of_written written named]
  simp only [Option.bind_eq_some_iff, number?_eq_some_iff, Scale.span?_eq_some_iff named]
  constructor
  · rintro ⟨small, fits, rfl⟩
    have number : (UInt64.ofNat (ofDigits ds)).toNat = ofDigits ds :=
      UInt64.toNat_ofNat_of_lt' small
    have whole : (UInt64.ofNat (scale.times (ofDigits ds)).seconds).toNat =
        (scale.times (ofDigits ds)).seconds :=
      UInt64.toNat_ofNat_of_lt' ((Scale.fits_iff named small).mp fits)
    have beyond : (scale.times (ofDigits ds)).subseconds < 2 ^ 32 :=
      Nat.lt_trans (Nat.mod_lt _ (by decide)) (by decide : 10 ^ 9 < 2 ^ 32)
    have rest : (UInt32.ofNat (scale.times (ofDigits ds)).subseconds).toNat =
        (scale.times (ofDigits ds)).subseconds :=
      UInt32.toNat_ofNat_of_lt' beyond
    exact ⟨_, _, ⟨_, number, by rw [whole, number], by rw [rest, number]⟩, whole, rest⟩
  · rintro ⟨s, r, ⟨n, number, whole, rest⟩, seconds, subseconds⟩
    rw [number] at whole rest
    have small : ofDigits ds < 2 ^ 64 := number ▸ n.toNat_lt
    refine ⟨small, (Scale.fits_iff named small).mpr (whole ▸ s.toNat_lt), ?_⟩
    exact Duration.eq_iff.mpr ⟨seconds.symm.trans whole, subseconds.symm.trans rest⟩

end Read

/-- An option that takes a duration accepts exactly digits for a number below `2 ^ 64`, a unit of
time or none behind them, and blanks around the two, if the whole seconds of so many units stay
below `2 ^ 64` as well. The duration read is that many units, and machine words compute it without
an overflow. -/
theorem read_duration_accepts_grammar (k : Key) (timed : k.domain = .duration) (raw : String) :
    (∀ v, k.read raw = .ok v ↔ ∃ ds unit, ∃ scale : Scale,
        Written raw.toList ds unit ∧ scale.Named unit ∧ ofDigits ds < 2 ^ 64 ∧
          scale.Fits (ofDigits ds) ∧ v = .duration (scale.times (ofDigits ds))) ∧
      (∀ d, k.read raw = .ok (.duration d) → d.seconds < 2 ^ 64 ∧ d.subseconds < 10 ^ 9) ∧
      ∀ ds unit, ∀ scale : Scale, Written raw.toList ds unit → scale.Named unit → ∀ d,
        k.read raw = .ok (.duration d) ↔ ∃ s r, (number? ds).bind scale.span? = some (s, r) ∧
          s.toNat = d.seconds ∧ r.toNat = d.subseconds := by
  have of_duration (d : Duration) :
      k.read raw = .ok (.duration d) ↔ readDuration raw = .ok d := by
    simp [Key.read, timed, Domain.read, map_eq_ok_iff]
  refine ⟨?_, ?_, ?_⟩
  · intro v
    rw [Key.read, timed, Domain.read, map_eq_ok_iff]
    constructor
    · rintro ⟨d, h, rfl⟩
      obtain ⟨ds, unit, scale, written, named, small, fits, rfl⟩ := readDuration_eq_ok_iff.mp h
      exact ⟨ds, unit, scale, written, named, small, fits, rfl⟩
    · rintro ⟨ds, unit, scale, written, named, small, fits, rfl⟩
      exact ⟨_, readDuration_eq_ok_iff.mpr ⟨ds, unit, scale, written, named, small, fits, rfl⟩, rfl⟩
  · intro d h
    obtain ⟨ds, unit, scale, -, named, small, fits, rfl⟩ :=
      readDuration_eq_ok_iff.mp ((of_duration d).mp h)
    exact ⟨(Scale.fits_iff named small).mp fits, Nat.mod_lt _ (by decide)⟩
  · intro ds unit scale written named d
    rw [of_duration]
    exact readDuration_eq_ok_iff_words written named

/-- As many minutes as whole seconds have room for, with zeros in front, blanks of several kinds and
capitals. One minute more is too long, which shows in words as an overflow. -/
theorem read_duration_accepts_grammar_minutes :
    let longest := "\u2003" ++ "000307445734561825860" ++ "\u00a0" ++ "MiN" ++ "\n"
    let beyond := " " ++ "307445734561825861" ++ "\t" ++ "m" ++ " "
    Key.maxAge.domain = .duration ∧
      Written longest.toList "000307445734561825860".toList "min".toList ∧
      Key.maxAge.read longest = .ok (.duration ⟨18446744073709551600 * 10 ^ 9⟩) ∧
      Written beyond.toList "307445734561825861".toList "m".toList ∧
      ¬ ∃ v, Key.maxAge.read beyond = .ok v := by
  intro longest beyond
  have timed : Key.maxAge.domain = .duration := rfl
  have blank : ∀ c ∈ ['\u2003', '\u00a0', '\n', ' ', '\t'], isBlank c := by
    simp [isBlank, Span.covers, blankSpans, Span.Contains]
  have written : Written longest.toList "000307445734561825860".toList "min".toList := by
    simp only [longest, String.toList_append]
    exact .quantity (by simp [blank]) (by simp) (by simp) (by simp [blank]) (by simp [blank])
  have written' : Written beyond.toList "307445734561825861".toList "m".toList := by
    simp only [beyond, String.toList_append]
    exact .quantity (by simp [blank]) (by simp) (by simp) (by simp [blank]) (by simp [blank])
  refine ⟨timed, written, ?_, written', ?_⟩
  · obtain ⟨accepted, -, -⟩ := read_duration_accepts_grammar .maxAge timed longest
    have value : ofDigits "000307445734561825860".toList = 307445734561825860 := by cbv
    refine (accepted _).mpr ⟨_, _, .seconds 60, written, .minuteLong, ?_, ?_, ?_⟩
    · rw [value]
      decide
    · rw [value]
      decide
    · rw [value]
      rfl
  · rintro ⟨v, h⟩
    obtain ⟨accepted, -, computed⟩ := read_duration_accepts_grammar .maxAge timed beyond
    obtain ⟨_, _, _, -, -, -, -, rfl⟩ := (accepted v).mp h
    obtain ⟨s, r, words, -⟩ := (computed _ _ (.seconds 60) written' .minute _).mp h
    have overflow : (number? "307445734561825861".toList).bind (Scale.seconds 60).span? = none := by
      decide
    rw [overflow] at words
    cases words

end RuntimeMonitor.Recording

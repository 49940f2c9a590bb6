import Mathlib
import RuntimeMonitor.Identity.Basic
import RuntimeMonitor.Proofs.Identity.Canonical
import RuntimeMonitor.Proofs.Text.EncodedSize

/-!
# Texts that are too long, and the layout of the encoding

A text can be written only if its size fits in two bytes; the size is the sum of what its characters
take. The six texts are written one after the other, so the first of them that is too long is the
one that is reported, whatever stands behind it. If none is, each stands in a frame, two bytes
longer than its size, and the start time takes the last eight bytes.
-/

namespace RuntimeMonitor.Identity

open Text

/-- The number that bytes stand for, the highest byte first. -/
def bigEndian (bytes : List UInt8) : Nat := bytes.foldl (fun n b => n * 256 + b.toNat) 0

/-- The number of bytes that the characters of a text take. -/
def encodedSize (text : String) : Nat := (text.toList.map ModifiedUtf8.charSize).sum

/-- A text in a frame: two bytes for its size, then that many bytes, which are read back as the
text. -/
structure Framed (text : String) (frame : List UInt8) : Prop where
  length : frame.length = 2 + encodedSize text
  mark : bigEndian (frame.take 2) = encodedSize text
  body : frame.drop 2 = ModifiedUtf8.encode text
  back : ModifiedUtf8.decode? (frame.drop 2) = some text

/-- The first of some named texts whose size does not fit in two bytes. -/
def FirstLong (texts : List (String × String)) (name text : String) : Prop :=
  65535 < encodedSize text ∧ ∃ before after, texts = before ++ (name, text) :: after ∧
    ∀ t ∈ before, encodedSize t.2 ≤ 65535

theorem length_encode_eq (text : String) : (ModifiedUtf8.encode text).length = encodedSize text :=
  ModifiedUtf8.length_encode text

theorem fits_iff {text : String} : Fits text ↔ encodedSize text ≤ 65535 := by
  rw [Fits, length_encode_eq]
  rfl

theorem appendText_of_fits {text : String} (fits : Fits text) (out : List UInt8) (name : String) :
    appendText out name text = .ok (out ++ field text) :=
  appendText_eq_ok_iff.mpr ⟨fits, rfl⟩

theorem appendText_of_not_fits {text : String} (long : ¬ Fits text) (out : List UInt8)
    (name : String) : appendText out name text = .error (.tooLong name (encodedSize text)) := by
  rw [← length_encode_eq]
  exact if_neg long

/-- Both ways of writing a text come to the same, and only success changes the buffer. -/
theorem run_writeText (out : List UInt8) (name text : String) :
    (writeText name text).run.run out =
      match appendText out name text with
      | .ok written => (.ok (), written)
      | .error e => (.error e, out) := by
  by_cases fits : Fits text
  · rw [appendText_of_fits fits]
    simp only [writeText]
    rw [if_neg (Nat.not_lt.mpr fits)]
    change (Except.ok (), out ++ _ ++ _) = _
    rw [List.append_assoc]
    rfl
  · rw [appendText_of_not_fits fits, ← length_encode_eq]
    simp only [writeText]
    rw [if_pos (Nat.not_le.mp fits)]
    rfl

theorem bigEndian_length_bytes {size : Nat} (fits : size ≤ 65535) :
    bigEndian [.ofNat (size / 256), .ofNat size] = size := by
  simp only [bigEndian, List.foldl_cons, List.foldl_nil, UInt8.toNat_ofNat']
  omega

theorem framed_field {text : String} (fits : Fits text) : Framed text (field text) where
  length := by
    rw [← length_encode_eq, field, List.length_cons, List.length_cons]
    omega
  mark := by
    rw [← length_encode_eq]
    exact bigEndian_length_bytes fits
  body := rfl
  back := ModifiedUtf8.decode?_encode text

theorem length_flatten_of_framed {texts : List String} {frames : List (List UInt8)}
    (framed : List.Forall₂ Framed texts frames) :
    frames.flatten.length = 2 * texts.length + (texts.map encodedSize).sum := by
  induction framed with
  | nil => rfl
  | cons first _ ih =>
    rw [List.flatten_cons, List.length_append, first.length, ih, List.length_cons, List.map_cons,
      List.sum_cons]
    omega

theorem toNat_toUInt64 (t : Int64) : (t.toUInt64.toNat : Int) = t.toInt % 2 ^ 64 := by
  have bits : t.toUInt64.toNat = t.toBitVec.toNat := rfl
  have small : t.toBitVec.toNat < 2 ^ 64 := t.toBitVec.isLt
  have size : (2 : Int) ^ 64 = ((2 ^ 64 : Nat) : Int) := rfl
  rw [bits, ← Int64.toInt_toBitVec, BitVec.toInt_eq_toNat_bmod, size, Int.bmod_emod]
  omega

/-- The bytes of an integer stand for it in two's complement. -/
theorem bigEndian_timeBytes (t : Int64) : (bigEndian (timeBytes t) : Int) = t.toInt % 2 ^ 64 := by
  rw [← toNat_toUInt64]
  simp only [bigEndian, timeBytes, List.map_cons, List.map_nil, List.foldl_cons, List.foldl_nil,
    UInt64.toNat_toUInt8, UInt64.toNat_shiftRight, Nat.shiftRight_eq_div_pow, UInt64.reduceToNat,
    Nat.reduceMod, Nat.pow_zero, Nat.div_one]
  have whole := eq_sum_of_bytes t.toUInt64.toNat_lt
  generalize t.toUInt64.toNat = n at *
  omega

theorem firstLong_iff {texts : List (String × String)} {name text : String} :
    FirstLong texts name text ↔
      texts.find? (fun t => 65535 < encodedSize t.2) = some (name, text) := by
  rw [List.find?_eq_some_iff_append]
  simp [FirstLong]

theorem exists_firstLong_iff {texts : List (String × String)} :
    (∃ name text, FirstLong texts name text) ↔ ∃ t ∈ texts, 65535 < encodedSize t.2 := by
  simp only [firstLong_iff]
  rw [← Prod.exists', ← Option.isSome_iff_exists, List.find?_isSome]
  simp

theorem appendTexts_eq_error_iff {texts : List (String × String)} (out : List UInt8) {e : Error} :
    texts.foldlM (fun out t => appendText out t.1 t.2) out = .error e ↔
      ∃ name text, FirstLong texts name text ∧ e = .tooLong name (encodedSize text) := by
  simp only [firstLong_iff]
  induction texts generalizing out with
  | nil => simp [pure, Except.pure]
  | cons t texts ih =>
    rw [List.foldlM_cons]
    by_cases fits : Fits t.2
    · have short : ¬ 65535 < encodedSize t.2 := Nat.not_lt.mpr (fits_iff.mp fits)
      rw [appendText_of_fits fits, List.find?_cons_of_neg (by simpa using short)]
      exact ih _
    · have long : 65535 < encodedSize t.2 := Nat.not_le.mp (mt fits_iff.mpr fits)
      rw [appendText_of_not_fits fits, List.find?_cons_of_pos (by simpa using long)]
      simp [bind, Except.bind, Prod.ext_iff, eq_comm]

theorem canonicalBytes_eq_error_iff {a : Attributes} {e : Error} :
    a.canonicalBytes = .error e ↔
      ∃ name text, FirstLong a.texts name text ∧ e = .tooLong name (encodedSize text) := by
  rw [← appendTexts_eq_error_iff [], Attributes.canonicalBytes]
  cases a.texts.foldlM (fun out t => appendText out t.1 t.2) [] with
  | error e' => rfl
  | ok out => simp [bind, Except.bind, pure, Except.pure]

theorem exists_error_iff {a : Attributes} :
    (∃ e, a.canonicalBytes = .error e) ↔ ∃ t ∈ a.texts, 65535 < encodedSize t.2 := by
  rw [← exists_firstLong_iff]
  simp only [canonicalBytes_eq_error_iff]
  constructor
  · rintro ⟨e, name, text, first, -⟩
    exact ⟨name, text, first⟩
  · rintro ⟨name, text, first⟩
    exact ⟨_, name, text, first, rfl⟩

theorem ofAttributes_eq_error_iff {a : Attributes} {e : Error} :
    Identity.ofAttributes a = .error e ↔ a.canonicalBytes = .error e := by
  rw [Identity.ofAttributes]
  cases a.canonicalBytes with
  | error e' => simp [Except.map]
  | ok bytes => simp [Except.map]

theorem message_tooLong (name : String) (size : Nat) :
    (Error.tooLong name size).message =
      s!"unsupported identity attribute: {name} encodes to {size} bytes, limit is 65535" := by
  have limit : " bytes, limit is " ++ greatestLength.repr = " bytes, limit is 65535" := by cbv
  unfold Error.message Error.message.unsupported
  simp only [String.append_assoc, toString, limit]

/-- A text is written in its frame, or it is too long and the buffer stays as it was. The encoding
fails exactly if one of the six texts is too long, and reports the first one with its size; so does
the identity. Otherwise it is made of the frames of the six texts in their order and of the start
time in eight bytes. -/
theorem encoding_fails_or_is_laid_out :
    (∀ (out : List UInt8) (name text : String),
      65535 < encodedSize text ∧
          (writeText name text).run.run out = (.error (.tooLong name (encodedSize text)), out) ∨
        encodedSize text ≤ 65535 ∧ ∃ frame, Framed text frame ∧
          (writeText name text).run.run out = (.ok (), out ++ frame)) ∧
    ∀ a : Attributes,
      ((∃ e, a.canonicalBytes = .error e) ↔
        65535 < encodedSize a.classPath ∨ 65535 < encodedSize a.name ∨
          65535 < encodedSize a.inputArguments.render ∨ 65535 < encodedSize a.libraryPath ∨
          65535 < encodedSize a.vmVendor ∨ 65535 < encodedSize a.vmVersion) ∧
      (∀ e, Identity.ofAttributes a = .error e ↔ a.canonicalBytes = .error e) ∧
      ((∃ name text size e, a.canonicalBytes = .error e ∧
          FirstLong [("ClassPath", a.classPath), ("Name", a.name),
            ("InputArguments", a.inputArguments.render), ("LibraryPath", a.libraryPath),
            ("VmVendor", a.vmVendor), ("VmVersion", a.vmVersion)] name text ∧
          size = encodedSize text ∧ e = .tooLong name size ∧ e.isUnavailable = false ∧
          e.message =
            s!"unsupported identity attribute: {name} encodes to {size} bytes, limit is 65535") ∨
        ∃ frames time, a.canonicalBytes = .ok (frames.flatten ++ time) ∧
          List.Forall₂ Framed [a.classPath, a.name, a.inputArguments.render, a.libraryPath,
            a.vmVendor, a.vmVersion] frames ∧
          (frames.flatten ++ time).length = 20 +
            (encodedSize a.classPath + encodedSize a.name + encodedSize a.inputArguments.render +
              encodedSize a.libraryPath + encodedSize a.vmVendor + encodedSize a.vmVersion) ∧
          time.length = 8 ∧ (bigEndian time : Int) = a.startTime.toInt % 2 ^ 64) := by
  constructor
  · intro out name text
    rw [run_writeText]
    by_cases fits : Fits text
    · right
      rw [appendText_of_fits fits]
      exact ⟨fits_iff.mp fits, _, framed_field fits, rfl⟩
    · left
      rw [appendText_of_not_fits fits]
      exact ⟨Nat.not_le.mp (mt fits_iff.mpr fits), rfl⟩
  · intro a
    refine ⟨?_, fun e => ofAttributes_eq_error_iff, ?_⟩
    · rw [exists_error_iff]
      simp [Attributes.texts]
    · cases outcome : a.canonicalBytes with
      | error e =>
        left
        obtain ⟨name, text, first, rfl⟩ := canonicalBytes_eq_error_iff.mp outcome
        exact ⟨name, text, _, _, rfl, first, rfl, rfl, rfl, message_tooLong _ _⟩
      | ok bytes =>
        right
        obtain ⟨fits, rfl⟩ := canonicalBytes_eq_ok_iff.mp outcome
        let frames := a.texts.map (fun t => field t.2)
        have framed : List.Forall₂ Framed (a.texts.map Prod.snd) frames := by
          rw [List.forall₂_map_left_iff, List.forall₂_map_right_iff, List.forall₂_same]
          exact fun t mem => framed_field (fits t mem)
        refine ⟨frames, timeBytes a.startTime, rfl, framed, ?_, length_timeBytes _,
          bigEndian_timeBytes _⟩
        rw [List.length_append, length_timeBytes, length_flatten_of_framed framed]
        simp only [Attributes.texts, List.map_cons, List.map_nil, List.length_cons, List.length_nil,
          List.sum_cons, List.sum_nil]
        omega

/-- The longest name of supplementary characters and three letters, and two texts with a letter or
two more, of which the first is reported. Their UTF-8 would be far from too long. -/
theorem encoding_fails_or_is_laid_out_at_the_limit :
    let faces := String.ofList (List.replicate 10922 '😀')
    let longest : Attributes := { name := faces ++ "abc" }
    let longer : Attributes := { name := faces ++ "abcd", vmVendor := faces ++ "abcde" }
    (∃ bytes, longest.canonicalBytes = .ok bytes ∧ bytes.length = 65557) ∧
      longer.canonicalBytes = .error (.tooLong "Name" 65536) ∧
      (utf8 longer.name).length = 43692 := by
  intro faces longest longer
  have face : ModifiedUtf8.charSize '😀' = 6 := by decide
  have size (n : Nat) (tail : String) :
      encodedSize (String.ofList (List.replicate n '😀') ++ tail) = n * 6 + encodedSize tail := by
    simp [encodedSize, face]
  have empty : encodedSize "" = 0 := by decide
  have brackets : encodedSize (Arguments.strings []).render = 2 := by decide
  have three : encodedSize (faces ++ "abc") = 65535 := by
    rw [size]
    decide
  have four : encodedSize (faces ++ "abcd") = 65536 := by
    rw [size]
    decide
  obtain ⟨-, laid⟩ := encoding_fails_or_is_laid_out
  refine ⟨?_, ?_, ?_⟩
  · obtain ⟨fails, -, ⟨_, _, _, _, failed, -⟩ | ⟨_, _, encoded, -, length, -⟩⟩ := laid longest
    · have long := fails.mp ⟨_, failed⟩
      simp [longest, empty, brackets, three] at long
    · refine ⟨_, encoded, ?_⟩
      simpa [longest, empty, brackets, three] using length
  · obtain ⟨fails, -, ⟨name, text, size, e, failed, first, rfl, rfl, -⟩ | ⟨_, _, encoded, -⟩⟩ :=
      laid longer
    · rw [failed]
      obtain ⟨rfl, rfl⟩ : "Name" = name ∧ faces ++ "abcd" = text := by
        simpa [longer, empty, four] using firstLong_iff.mp first
      rw [four]
    · obtain ⟨e, failed⟩ := fails.mpr (.inr (.inl (by simp [longer, four])))
      rw [failed] at encoded
      cases encoded
  · have plain (n : Nat) (tail : String) :
        (utf8 (String.ofList (List.replicate n '😀') ++ tail)).length =
          n * 4 + (utf8 tail).length := by
      have face : '😀'.utf8Size = 4 := by decide
      simp [ModifiedUtf8.length_utf8, face]
    rw [plain]
    decide

end RuntimeMonitor.Identity

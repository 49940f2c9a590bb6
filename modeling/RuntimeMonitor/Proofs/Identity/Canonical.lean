import Mathlib
import RuntimeMonitor.Identity.Attributes
import RuntimeMonitor.Proofs.Text.ModifiedUtf8

/-!
# The canonical encoding is unambiguous

A field is a text behind its length, so it can be taken off the front of whatever it stands
before. The encoding has a fixed number of fields and the start time takes eight bytes: two
attributes with the same encoding agree in every field, and no encoding is the beginning of
another one.
-/

namespace RuntimeMonitor.Identity

open Text

/-- Two steps succeed when the second one succeeds on what the first one gives. -/
theorem bind_eq_ok_iff {ε α β : Type} {x : Except ε α} {f : α → Except ε β} {b : β} :
    x >>= f = .ok b ↔ ∃ a, x = .ok a ∧ f a = .ok b := by
  cases x with
  | error e => simp [bind, Except.bind]
  | ok a => simp [bind, Except.bind]

def Fits (text : String) : Prop := (ModifiedUtf8.encode text).length ≤ greatestLength

/-- An encoded text behind its length. -/
def field (text : String) : List UInt8 :=
  let bytes := ModifiedUtf8.encode text
  .ofNat (bytes.length / 256) :: .ofNat bytes.length :: bytes

theorem appendText_eq_ok_iff {out bytes : List UInt8} {name text : String} :
    appendText out name text = .ok bytes ↔ Fits text ∧ bytes = out ++ field text := by
  by_cases fits : Fits text
  · simp [appendText, if_pos (show _ ≤ _ from fits), fits, field, eq_comm]
  · simp [appendText, if_neg (show ¬ _ ≤ _ from fits), fits]

theorem appendTexts_eq_ok_iff {texts : List (String × String)} {out bytes : List UInt8} :
    texts.foldlM (fun out t => appendText out t.1 t.2) out = .ok bytes ↔
      (∀ t ∈ texts, Fits t.2) ∧ bytes = out ++ texts.flatMap (fun t => field t.2) := by
  induction texts generalizing out with
  | nil => simp [pure, Except.pure, eq_comm]
  | cons t texts ih =>
    rw [List.foldlM_cons, bind_eq_ok_iff]
    simp only [ih, appendText_eq_ok_iff, List.forall_mem_cons, List.flatMap_cons]
    constructor
    · rintro ⟨_, ⟨fits, rfl⟩, rest, rfl⟩
      exact ⟨⟨fits, rest⟩, List.append_assoc _ _ _⟩
    · rintro ⟨⟨fits, rest⟩, rfl⟩
      exact ⟨_, ⟨fits, rfl⟩, rest, (List.append_assoc _ _ _).symm⟩

theorem canonicalBytes_eq_ok_iff {a : Attributes} {bytes : List UInt8} :
    a.canonicalBytes = .ok bytes ↔ (∀ t ∈ a.texts, Fits t.2) ∧
      bytes = a.texts.flatMap (fun t => field t.2) ++ timeBytes a.startTime := by
  rw [Attributes.canonicalBytes, bind_eq_ok_iff]
  simp only [appendTexts_eq_ok_iff, List.nil_append, pure, Except.pure, Except.ok.injEq]
  constructor
  · rintro ⟨_, ⟨fits, rfl⟩, rfl⟩
    exact ⟨fits, rfl⟩
  · rintro ⟨fits, rfl⟩
    exact ⟨_, ⟨fits, rfl⟩, rfl⟩

/-- A field is told apart from what follows it. -/
theorem field_append_inj {s t : String} (hs : Fits s) (ht : Fits t) {u v : List UInt8}
    (h : field s ++ u = field t ++ v) : s = t ∧ u = v := by
  simp only [field, List.cons_append, List.cons.injEq, ← UInt8.toNat_inj,
    UInt8.toNat_ofNat'] at h
  obtain ⟨high, low, bytes⟩ := h
  have bounds : (ModifiedUtf8.encode s).length ≤ 65535 ∧ (ModifiedUtf8.encode t).length ≤ 65535 :=
    ⟨hs, ht⟩
  have length : (ModifiedUtf8.encode s).length = (ModifiedUtf8.encode t).length := by omega
  obtain ⟨same, rest⟩ := List.append_inj bytes length
  exact ⟨ModifiedUtf8.encode_injective same, rest⟩

theorem fields_append_inj {ss ts : List String} (hs : ∀ s ∈ ss, Fits s) (ht : ∀ t ∈ ts, Fits t)
    (length : ss.length = ts.length) {u v : List UInt8}
    (h : ss.flatMap field ++ u = ts.flatMap field ++ v) : ss = ts ∧ u = v := by
  induction ss generalizing ts with
  | nil =>
    obtain rfl : ts = [] := List.eq_nil_of_length_eq_zero length.symm
    exact ⟨rfl, h⟩
  | cons s ss ih =>
    obtain ⟨t, ts, rfl⟩ := List.exists_cons_of_length_eq_add_one length.symm
    simp only [List.flatMap_cons, List.append_assoc] at h
    obtain ⟨rfl, rest⟩ := field_append_inj (hs s (by simp)) (ht t (by simp)) h
    obtain ⟨rfl, last⟩ := ih (fun x hx => hs x (by simp [hx])) (fun x hx => ht x (by simp [hx]))
      (Nat.succ.inj length) rest
    exact ⟨rfl, last⟩

theorem length_timeBytes (t : Int64) : (timeBytes t).length = 8 := rfl

/-- A number below 2^64 is put together from its eight bytes. -/
theorem eq_sum_of_bytes {n : Nat} (h : n < 2 ^ 64) :
    n = n / 2 ^ 56 % 256 * 2 ^ 56 + n / 2 ^ 48 % 256 * 2 ^ 48 + n / 2 ^ 40 % 256 * 2 ^ 40 +
      n / 2 ^ 32 % 256 * 2 ^ 32 + n / 2 ^ 24 % 256 * 2 ^ 24 + n / 2 ^ 16 % 256 * 2 ^ 16 +
      n / 2 ^ 8 % 256 * 2 ^ 8 + n % 256 := by
  omega

/-- Eight bytes hold the whole of a 64-bit integer. -/
theorem timeBytes_injective {s t : Int64} (h : timeBytes s = timeBytes t) : s = t := by
  simp only [timeBytes, List.map_cons, List.map_nil, List.cons.injEq, ← UInt8.toNat_inj,
    UInt64.toNat_toUInt8, UInt64.toNat_shiftRight, Nat.shiftRight_eq_div_pow, UInt64.reduceToNat,
    Nat.reduceMod, Nat.pow_zero, Nat.div_one] at h
  obtain ⟨b₇, b₆, b₅, b₄, b₃, b₂, b₁, b₀, -⟩ := h
  have same : s.toUInt64.toNat = t.toUInt64.toNat := by
    rw [eq_sum_of_bytes s.toUInt64.toNat_lt, eq_sum_of_bytes t.toUInt64.toNat_lt]
    rw [b₇, b₆, b₅, b₄, b₃, b₂, b₁, b₀]
  have words : s.toUInt64 = t.toUInt64 := UInt64.toNat_inj.mp same
  rw [← Int64.toInt64_toUInt64 s, words, Int64.toInt64_toUInt64]

/-- Whether two attributes are the same to the encoding, which sees arguments by their text. -/
structure Agree (a b : Attributes) : Prop where
  classPath : a.classPath = b.classPath
  name : a.name = b.name
  inputArguments : a.inputArguments.render = b.inputArguments.render
  libraryPath : a.libraryPath = b.libraryPath
  vmVendor : a.vmVendor = b.vmVendor
  vmVersion : a.vmVersion = b.vmVersion
  startTime : a.startTime = b.startTime

theorem texts_eq_of_agree {a b : Attributes} (h : Agree a b) : a.texts = b.texts := by
  rw [Attributes.texts, Attributes.texts, h.classPath, h.name, h.inputArguments, h.libraryPath,
    h.vmVendor, h.vmVersion]

theorem canonicalBytes_eq_of_agree {a b : Attributes} (h : Agree a b) :
    a.canonicalBytes = b.canonicalBytes := by
  rw [Attributes.canonicalBytes, Attributes.canonicalBytes, texts_eq_of_agree h, h.startTime]

/-- Whatever is appended to an encoding, its fields are read back, and what was appended shows. -/
theorem agree_of_append {a b : Attributes} {x y z : List UInt8} (hx : a.canonicalBytes = .ok x)
    (hy : b.canonicalBytes = .ok y) (h : x ++ z = y) : Agree a b ∧ z = [] := by
  obtain ⟨fitsA, rfl⟩ := canonicalBytes_eq_ok_iff.mp hx
  obtain ⟨fitsB, rfl⟩ := canonicalBytes_eq_ok_iff.mp hy
  have fields (c : Attributes) :
      c.texts.flatMap (fun t => field t.2) = (c.texts.map Prod.snd).flatMap field := by
    rw [List.flatMap_map]
  rw [fields, fields, List.append_assoc] at h
  obtain ⟨texts, times⟩ := fields_append_inj (List.forall_mem_map.mpr fitsA)
    (List.forall_mem_map.mpr fitsB) rfl h
  have last : timeBytes a.startTime ++ z = timeBytes b.startTime ++ [] := by
    rw [times, List.append_nil]
  obtain ⟨time, rfl⟩ := List.append_inj last (length_timeBytes _)
  simp only [Attributes.texts, List.map_cons, List.map_nil, List.cons.injEq] at texts
  obtain ⟨classPath, name, arguments, libraryPath, vendor, version, -⟩ := texts
  exact ⟨⟨classPath, name, arguments, libraryPath, vendor, version, timeBytes_injective time⟩, rfl⟩

/-- Two encodings are the same exactly if the attributes agree, and neither one is a proper
beginning of the other. -/
theorem canonicalBytes_eq_iff_agree {a b : Attributes} {x y : List UInt8}
    (hx : a.canonicalBytes = .ok x) (hy : b.canonicalBytes = .ok y) :
    (x = y ↔ Agree a b) ∧ (x <+: y → x = y) := by
  refine ⟨⟨?_, ?_⟩, ?_⟩
  · rintro rfl
    exact (agree_of_append hx hy (List.append_nil x)).1
  · intro agree
    rw [canonicalBytes_eq_of_agree agree, hy] at hx
    exact (Except.ok.inj hx).symm
  · rintro ⟨z, h⟩
    obtain ⟨-, rfl⟩ := agree_of_append hx hy h
    rw [← h, List.append_nil]

/-- A text and a number that look alike among the arguments: the attributes differ and agree. -/
theorem canonicalBytes_eq_iff_agree_lookalike :
    let a : Attributes := ⟨"\x00é", "🧪", .strings ["7"], "", "", "", -1⟩
    let b : Attributes := { a with inputArguments := .longs [7] }
    let bytes : List UInt8 := [0, 4, 0xc0, 0x80, 0xc3, 0xa9, 0, 6, 0xed, 0xa0, 0xbe, 0xed, 0xb7,
      0xaa, 0, 3, 0x5b, 0x37, 0x5d, 0, 0, 0, 0, 0, 0, 0xff, 0xff, 0xff, 0xff, 0xff, 0xff, 0xff,
      0xff]
    (a.canonicalBytes = .ok bytes ∧ b.canonicalBytes = .ok bytes) ∧ a ≠ b ∧ Agree a b := by
  intro a b bytes
  have ha : a.canonicalBytes = .ok bytes := by cbv
  have hb : b.canonicalBytes = .ok bytes := by cbv
  have differ : a ≠ b := by decide
  exact ⟨⟨ha, hb⟩, differ, (canonicalBytes_eq_iff_agree ha hb).1.mp rfl⟩

end RuntimeMonitor.Identity

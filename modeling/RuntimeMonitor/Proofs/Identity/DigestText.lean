import Mathlib.Data.List.Basic
import RuntimeMonitor.Identity.Basic
import RuntimeMonitor.Proofs.Digest.Base64Url
import RuntimeMonitor.Proofs.Identity.Layout
import RuntimeMonitor.Proofs.Text.Trim

/-!
# The text of an identity

An identity is the digest of the canonical encoding in symbols that are never blank, so trimming
leaves all of them. The digest reads back from the symbols. An identity tells two encodings apart
exactly as far as their digests do.
-/

namespace RuntimeMonitor.Identity

open Digest Text

/-- Whether a character is a letter, a digit, a hyphen or an underscore. -/
def UrlSafe (c : Char) : Prop := c.isAlphanum ∨ c = '-' ∨ c = '_'

instance (c : Char) : Decidable (UrlSafe c) := inferInstanceAs (Decidable (_ ∨ _))

theorem urlSafe_of_mem_alphabet {c : Char} (mem : c ∈ Base64Url.alphabet) : UrlSafe c := by
  have all : Base64Url.alphabet.all (fun c => UrlSafe c) = true := by decide +kernel
  exact of_decide_eq_true (List.all_eq_true.mp all c mem)

theorem not_isBlank_of_mem_alphabet {c : Char} (mem : c ∈ Base64Url.alphabet) : ¬ isBlank c := by
  have all : Base64Url.alphabet.all (fun c => !isBlank c) = true := by decide +kernel
  simpa using List.all_eq_true.mp all c mem

theorem trim_encode (bytes : List UInt8) :
    trim (Base64Url.encode bytes) = Base64Url.encode bytes := by
  have solid : ∀ c ∈ Base64Url.encodeBytes bytes, ¬ isBlank c := fun c mem =>
    not_isBlank_of_mem_alphabet (Base64Url.mem_alphabet_of_mem_encodeBytes mem)
  have trimmed :
      trimChars ([] ++ Base64Url.encodeBytes bytes ++ []) = Base64Url.encodeBytes bytes :=
    trimChars_of_solid (by simp) (by simp) solid
  rw [List.nil_append, List.append_nil] at trimmed
  rw [← String.toList_inj, toList_trim, Base64Url.encode, String.toList_ofList, trimmed]

theorem ofAttributes_eq_ok_iff {a : Attributes} {i : Identity} :
    Identity.ofAttributes a = .ok i ↔
      ∃ bytes, a.canonicalBytes = .ok bytes ∧ i = ⟨Base64Url.encode (Sha256.digest bytes)⟩ := by
  rw [Identity.ofAttributes]
  cases a.canonicalBytes with
  | error e => simp [Except.map]
  | ok bytes => simp [Except.map, trim_encode, eq_comm]

/-- Deriving an identity fails exactly as the encoding does, with the same error. Otherwise the
identity has 43 symbols, of which trimming takes none. They are the symbols of the digest of the
encoding and read back as it, so identities are the same exactly if the digests are. -/
theorem identity_text_keeps_digest (a b : Attributes) :
    (∀ e, Identity.ofAttributes a = .error e ↔ a.canonicalBytes = .error e) ∧
    ∀ i, Identity.ofAttributes a = .ok i →
      i.text.length = 43 ∧ (∀ c ∈ i.text.toList, UrlSafe c) ∧ trim i.text = i.text ∧
      ∃ x, a.canonicalBytes = .ok x ∧
        i.text = Base64Url.encode (Sha256.digest x) ∧
        Base64Url.decode? i.text = some (Sha256.digest x) ∧
        ∀ j, Identity.ofAttributes b = .ok j →
          ∃ y, b.canonicalBytes = .ok y ∧ (i = j ↔ Sha256.digest x = Sha256.digest y) := by
  refine ⟨fun e => ofAttributes_eq_error_iff, ?_⟩
  intro i derived
  obtain ⟨x, encoded, rfl⟩ := ofAttributes_eq_ok_iff.mp derived
  refine ⟨?_, ?_, trim_encode _, x, encoded, rfl, Base64Url.decode?_encode _, ?_⟩
  · rw [← String.length_toList, Base64Url.encode, String.toList_ofList,
      Base64Url.length_encodeBytes, Sha256.length_digest]
  · intro c mem
    rw [Base64Url.encode, String.toList_ofList] at mem
    exact urlSafe_of_mem_alphabet (Base64Url.mem_alphabet_of_mem_encodeBytes mem)
  · intro j derived'
    obtain ⟨y, encoded', rfl⟩ := ofAttributes_eq_ok_iff.mp derived'
    refine ⟨y, encoded', ?_, fun same => by rw [same]⟩
    intro same
    exact Base64Url.encode_injective (congrArg Identity.text same)

/-- The identity of attributes that are all left out, and the digest that it reads back as. -/
theorem identity_text_keeps_digest_default :
    let i : Identity := ⟨"QeHnCq1MhwPRrqKFaZtoaZO_IsL25s5AG2Za_auP2kQ"⟩
    let digest : List UInt8 := [0x41, 0xe1, 0xe7, 0x0a, 0xad, 0x4c, 0x87, 0x03, 0xd1, 0xae,
      0xa2, 0x85, 0x69, 0x9b, 0x68, 0x69, 0x93, 0xbf, 0x22, 0xc2, 0xf6, 0xe6,
      0xce, 0x40, 0x1b, 0x66, 0x5a, 0xfd, 0xab, 0x8f, 0xda, 0x44]
    Identity.ofAttributes {} = .ok i ∧ i.text.length = 43 ∧
      Base64Url.decode? i.text = some digest := by
  intro i digest
  let bytes : List UInt8 := [0, 0, 0, 0, 0, 2, 0x5b, 0x5d] ++ List.replicate 14 0
  have encoded : ({} : Attributes).canonicalBytes = .ok bytes := by cbv
  have digested : Sha256.digest bytes = digest := by decide +kernel
  have symbols : i.text = Base64Url.encode digest := by decide +kernel
  have derived : Identity.ofAttributes {} = .ok i :=
    ofAttributes_eq_ok_iff.mpr ⟨bytes, encoded, congrArg Identity.mk (digested ▸ symbols)⟩
  obtain ⟨length, -, -, x, encoded', -, decoded, -⟩ :=
    (identity_text_keeps_digest {} {}).2 i derived
  obtain rfl : bytes = x := Except.ok.inj (encoded.symm.trans encoded')
  exact ⟨derived, length, decoded.trans (congrArg some digested)⟩

end RuntimeMonitor.Identity

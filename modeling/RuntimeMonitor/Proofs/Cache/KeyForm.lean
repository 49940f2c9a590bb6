import RuntimeMonitor.Proofs.Cache.Key

/-!
# The form of generated keys

A text has the form of a generated key when it is a number below `2 ^ 64` without sign and
superfluous zeros, the word `_store` and, for a family, an underscore and a name that is not
empty. The name may hold underscores itself. Exactly the texts of this form are read as generated
keys, and every other text as itself, so that writing a key and reading it back fails in two cases
only.
-/

namespace RuntimeMonitor.Cache.Key

open Number

/-- A text, and the number and the family that it names as a generated key. -/
inductive Form : String → UInt64 → Option String → Prop
  | plain {ds : List Char} {n : UInt64} : Canonical ds → ofDigits ds = n.toNat →
      Form (String.ofList ds ++ "_store") n none
  | family {ds : List Char} {n : UInt64} {name : String} : Canonical ds →
      ofDigits ds = n.toNat → name ≠ "" → Form (String.ofList ds ++ "_store_" ++ name) n (some name)

/-- A canonical numeral is what is written for its number. -/
theorem ofList_eq_toString {ds : List Char} {n : Nat} (canonical : Canonical ds)
    (value : ofDigits ds = n) : String.ofList ds = toString n := by
  rw [toString_eq_ofList_digits, ← value, digits_ofDigits canonical]

theorem form_iff {raw : String} {n : UInt64} {family : Option String} :
    Form raw n family ↔ raw = (generated n family).text ∧ family ≠ some "" := by
  constructor
  · intro form
    cases form with
    | plain canonical value =>
      rw [ofList_eq_toString canonical value, text_generated_none]
      exact ⟨rfl, nofun⟩
    | family canonical value named =>
      rw [ofList_eq_toString canonical value, text_generated_some]
      exact ⟨rfl, fun empty => named (Option.some.inj empty)⟩
  · rintro ⟨rfl, named⟩
    have canonical : Canonical (digits n.toNat) := canonical_digits n.toNat
    have value : ofDigits (digits n.toNat) = n.toNat := ofDigits_digits n.toNat
    cases family with
    | none =>
      rw [text_generated_none, toString_eq_ofList_digits]
      exact .plain canonical value
    | some name =>
      rw [text_generated_some, toString_eq_ofList_digits]
      exact .family canonical value (fun empty => named (congrArg some empty))

theorem parse_eq_generated_iff_form {raw : String} {n : UInt64} {family : Option String} :
    parse raw = generated n family ↔ Form raw n family := by
  rw [parse_eq_generated_iff, form_iff]

theorem text_custom (raw : String) : (custom raw).text = raw := String.ofList_toList

/-- A text that is read as a key of its own is read as itself. -/
theorem eq_of_parse_eq_custom {raw other : String} (read : parse raw = custom other) :
    other = raw := by
  rw [← text_custom other, ← read, text_parse]

theorem parse_eq_custom_iff {raw : String} :
    parse raw = custom raw ↔ ¬ ∃ n family, Form raw n family := by
  simp only [← parse_eq_generated_iff_form]
  cases read : parse raw with
  | generated n family => simp
  | custom other => simp [eq_of_parse_eq_custom read]

/-- A key is lost in writing when it has a family without a name, or when it is a text that has
the form of a generated key. -/
theorem isCanonical_iff {k : Key} :
    k.IsCanonical ↔
      ¬ ((∃ n, k = generated n (some "")) ∨ ∃ raw n family, k = custom raw ∧ Form raw n family) := by
  cases k with
  | generated n family => simp [IsCanonical, parse_eq_generated_iff]
  | custom raw => simp [IsCanonical, text_custom, parse_eq_custom_iff]

/-- Reading a text as a key loses nothing and accepts exactly the form of generated keys; and
exactly the keys that a text can denote are read back from theirs. -/
theorem parse_accepts_generated_form :
    (∀ raw, (parse raw).text = raw) ∧
      (∀ raw n family, parse raw = generated n family ↔ Form raw n family) ∧
      (∀ raw, parse raw = custom raw ↔ ¬ ∃ n family, Form raw n family) ∧
      ∀ k, parse k.text = k ↔
        ¬ ((∃ n, k = generated n (some "")) ∨
          ∃ raw n family, k = custom raw ∧ Form raw n family) :=
  ⟨text_parse, fun _ _ _ => parse_eq_generated_iff_form, fun _ => parse_eq_custom_iff,
    fun _ => isCanonical_iff⟩

example : parse "18446744073709551616_store" = custom "18446744073709551616_store" ∧
    parse "007_store" = custom "007_store" ∧ parse "0_store__x_" = generated 0 (some "_x_") := by
  decide

end RuntimeMonitor.Cache.Key

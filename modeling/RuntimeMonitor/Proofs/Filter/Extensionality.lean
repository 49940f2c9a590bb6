import RuntimeMonitor.Proofs.Filter.Compile
import RuntimeMonitor.Proofs.Text.Lowercase

/-!
# Filters that accept the same rules

What a compiled filter accepts determines it, save for the tokens that it has ignored. A rule may
have any id and any topic: one of them can be the name in question and the other one a name that
the other filter does not know, so that the two are told apart by this name alone.
-/

namespace RuntimeMonitor.Filter

open Text

/-- What every compiled filter satisfies: names are accepted only where not everything is, and
each is the lower case of some text. -/
structure IsCompiled (p : Filter) : Prop where
  accepted_eq_nil : p.acceptsAll = true → p.accepted = []
  exists_text : ∀ x ∈ p.accepted, ∃ t, lowercase t = x.2

theorem Compiler.isCompiled_compile (c : Compiler) (raw : String) : IsCompiled (c.compile raw) where
  accepted_eq_nil all := by
    rw [compile_of_blank (acceptsAll_compile_iff.mp all)]
    rfl
  exists_text x mem := by
    obtain ⟨t, -, -, same⟩ := mem_accepted_compile_iff.mp mem
    exact ⟨t, same⟩

variable {p q : Filter}

/-- A rule with a given text in one field, the other one of which the filter does not accept. -/
theorem exists_rule (q : Filter) (notAll : q.acceptsAll = false) (field : Field) (text : String) :
    ∃ r, (∀ p : Filter, (field, lowercase text) ∈ p.accepted → p.Accepts r) ∧
      (q.Accepts r → (field, lowercase text) ∈ q.accepted) := by
  obtain ⟨other, fresh⟩ := exists_lowercase_notMem (q.accepted.map Prod.snd)
  have unknown (f : Field) : (f, lowercase other) ∉ q.accepted :=
    fun mem => fresh (List.mem_map_of_mem mem)
  cases field with
  | id =>
    refine ⟨⟨text, other⟩, fun p mem => .inr (.inl mem), ?_⟩
    rw [accepts_iff_of_not_all notAll]
    exact fun accepts => accepts.resolve_right (unknown .topic)
  | topic =>
    refine ⟨⟨other, text⟩, fun p mem => .inr (.inr mem), ?_⟩
    rw [accepts_iff_of_not_all notAll]
    exact fun accepts => accepts.resolve_left (unknown .id)

theorem exists_not_accepts (notAll : q.acceptsAll = false) : ∃ r, ¬ q.Accepts r := by
  obtain ⟨fresh, unknown⟩ := exists_lowercase_notMem (q.accepted.map Prod.snd)
  obtain ⟨r, -, only⟩ := exists_rule q notAll .id fresh
  exact ⟨r, fun accepts => unknown (List.mem_map_of_mem (only accepts))⟩

theorem forall_accepts_iff : (∀ r, p.Accepts r) ↔ p.acceptsAll = true := by
  constructor
  · intro every
    by_contra notAll
    obtain ⟨r, refused⟩ := exists_not_accepts (Bool.eq_false_iff.mpr notAll)
    exact refused (every r)
  · exact fun all r => .inl all

/-- One filter accepts what another one does exactly if it accepts everything or all the names that
the other one accepts. -/
theorem forall_accepts_imp_iff (compiled : IsCompiled p) :
    (∀ r, p.Accepts r → q.Accepts r) ↔
      q.acceptsAll = true ∨ p.acceptsAll = false ∧ p.accepted ⊆ q.accepted := by
  constructor
  · intro imp
    refine or_iff_not_imp_left.mpr fun all => ?_
    have notAll : q.acceptsAll = false := Bool.eq_false_iff.mpr all
    constructor
    · by_contra every
      obtain ⟨r, refused⟩ := exists_not_accepts notAll
      exact refused (imp r (.inl (Bool.eq_true_of_not_eq_false every)))
    · -- A rule that has the name in its own field and is unknown to `q` in the other one.
      rintro ⟨field, name⟩ mem
      obtain ⟨text, rfl⟩ := compiled.exists_text _ mem
      obtain ⟨r, accepts, only⟩ := exists_rule q notAll field text
      exact only (imp r (accepts p mem))
  · rintro (all | ⟨notAll, sub⟩) r accepts
    · exact .inl all
    · rw [accepts_iff_of_not_all notAll] at accepts
      exact .inr (accepts.imp (sub ·) (sub ·))

/-- Flags and names are compared apart: where everything is accepted there are no names. -/
theorem forall_accepts_iff_accepts_iff (hp : IsCompiled p) (hq : IsCompiled q) :
    (∀ r, p.Accepts r ↔ q.Accepts r) ↔
      p.acceptsAll = q.acceptsAll ∧ p.accepted ⊆ q.accepted ∧ q.accepted ⊆ p.accepted := by
  have both : (∀ r, p.Accepts r ↔ q.Accepts r) ↔
      (∀ r, p.Accepts r → q.Accepts r) ∧ ∀ r, q.Accepts r → p.Accepts r := by
    simp only [iff_iff_implies_and_implies, forall_and]
  rw [both, forall_accepts_imp_iff hp, forall_accepts_imp_iff hq]
  cases allP : p.acceptsAll with
  | true =>
    cases allQ : q.acceptsAll with
    | true => simp [hp.accepted_eq_nil allP, hq.accepted_eq_nil allQ]
    | false => simp
  | false =>
    cases allQ : q.acceptsAll with
    | true => simp
    | false => simp

theorem forall_mem_accepted_iff : (∀ x, x ∈ p.accepted ↔ x ∈ q.accepted) ↔
    p.accepted ⊆ q.accepted ∧ q.accepted ⊆ p.accepted := by
  constructor
  · intro same
    exact ⟨fun x => (same x).mp, fun x => (same x).mpr⟩
  · rintro ⟨sub, super⟩ x
    exact ⟨fun mem => sub mem, fun mem => super mem⟩

/-- Two compiled filters accept the same rules exactly if they accept the same names, so that
filters are the same if they also ignored the same tokens. Only a filter for everything accepts
every rule. -/
theorem accepts_same_rules_iff (c d : Compiler) (a b : String) :
    let p := c.compile a
    let q := d.compile b
    ((∀ r, p.Accepts r ↔ q.Accepts r) ↔
      p.acceptsAll = q.acceptsAll ∧ ∀ x, x ∈ p.accepted ↔ x ∈ q.accepted) ∧
    (p.Same q ↔ (∀ r, p.Accepts r ↔ q.Accepts r) ∧ p.ignored = q.ignored) ∧
    ((∀ r, p.Accepts r) ↔ p.acceptsAll = true) := by
  intro p q
  have rules := forall_accepts_iff_accepts_iff (c.isCompiled_compile a) (d.isCompiled_compile b)
  refine ⟨?_, ?_, forall_accepts_iff⟩
  · rw [rules, forall_mem_accepted_iff]
  · rw [rules, Same, and_assoc, and_assoc]

example : ((Compiler.ofNames ["GC"] []).compile "gc").Same
    ((Compiler.ofNames ["gc"] ["gc"]).compile "Gc, GC") := by decide +kernel

end RuntimeMonitor.Filter

import RuntimeMonitor.Proofs.Filter.Compile

/-!
# Selecting from a known catalog

A compiler that was made for a catalog knows the names of its rules and no others. So what it knows
need not be asked: a token selects the rules that have it as their id, or else as their topic. No
token is accepted in vain, and nothing is selected only if every token was ignored.
-/

namespace RuntimeMonitor.Filter

open Text

/-- Whether a token names a rule of the catalog. Its topic does not count if the token is an id of
any rule. -/
def Catalog.Names (c : Catalog) (token : String) (r : Rule) : Prop :=
  lowercase r.id = lowercase token ∨
    lowercase r.topic = lowercase token ∧ ∀ s ∈ c.rules, lowercase s.id ≠ lowercase token

instance (c : Catalog) (token : String) (r : Rule) : Decidable (c.Names token r) :=
  inferInstanceAs (Decidable (_ ∨ _ ∧ ∀ _ ∈ _, _))

variable {c : Catalog} {token : String} {r : Rule}

theorem known_ids_iff :
    Known (c.rules.map (·.id)) token ↔ ∃ s ∈ c.rules, lowercase s.id = lowercase token := by
  simp [Known]

theorem known_topics_iff :
    Known (c.rules.map (·.topic)) token ↔ ∃ s ∈ c.rules, lowercase s.topic = lowercase token := by
  simp [Known]

theorem selects_iff_names (mem : r ∈ c.rules) :
    Selects (c.rules.map (·.id)) (c.rules.map (·.topic)) token r ↔ c.Names token r := by
  rw [Selects, known_ids_iff, known_topics_iff, Catalog.Names]
  constructor
  · rintro (⟨-, id⟩ | ⟨unknown, -, topic⟩)
    · exact .inl id
    · exact .inr ⟨topic, fun s hs same => unknown ⟨s, hs, same⟩⟩
  · rintro (id | ⟨topic, free⟩)
    · exact .inl ⟨⟨r, mem, id⟩, id⟩
    · exact .inr ⟨fun ⟨s, hs, same⟩ => free s hs same, ⟨r, mem, topic⟩, topic⟩

theorem exists_names_iff :
    (∃ r ∈ c.rules, c.Names token r) ↔
      Known (c.rules.map (·.id)) token ∨ Known (c.rules.map (·.topic)) token := by
  rw [known_ids_iff, known_topics_iff]
  constructor
  · rintro ⟨r, mem, id | ⟨topic, -⟩⟩
    · exact .inl ⟨r, mem, id⟩
    · exact .inr ⟨r, mem, topic⟩
  · intro known
    by_cases id : ∃ s ∈ c.rules, lowercase s.id = lowercase token
    · obtain ⟨r, mem, same⟩ := id
      exact ⟨r, mem, .inl same⟩
    · obtain ⟨r, mem, same⟩ := known.resolve_left id
      exact ⟨r, mem, .inr ⟨same, fun s hs other => id ⟨s, hs, other⟩⟩⟩

namespace Compiler

/-- A token is ignored exactly if it names no rule. -/
theorem mem_ignored_ofCatalog_iff {raw : String} :
    token ∈ ((ofCatalog c).compile raw).ignored ↔
      token ∈ tokens raw ∧ ¬ ∃ r ∈ c.rules, c.Names token r := by
  rw [ignored_compile, List.mem_filter, exists_names_iff, not_or, decide_eq_true_iff,
    field?_eq_none_iff, ofCatalog, knowsId_ofNames_iff, knowsTopic_ofNames_iff]

theorem select_ofCatalog {raw : String} (visible : ¬ Blank raw) :
    ((ofCatalog c).compile raw).select c =
      c.rules.filter (fun r => ∃ t ∈ tokens raw, c.Names t r) := by
  rw [select, compile_of_not_blank visible, ofCatalog]
  refine List.filter_congr fun r mem => decide_eq_decide.mpr ?_
  rw [accepts_foldl_iff]
  exact exists_congr fun t => and_congr_right fun _ => selects_iff_names mem

theorem select_of_blank {raw : String} (blank : Blank raw) :
    ((ofCatalog c).compile raw).select c = c.rules := by
  rw [compile_of_blank blank]
  exact List.filter_eq_self.mpr fun r _ => decide_eq_true (.inl rfl)

/-- No token is accepted in vain. -/
theorem exists_selected_of_not_ignored {raw : String} (mem : token ∈ tokens raw)
    (kept : token ∉ ((ofCatalog c).compile raw).ignored) :
    ∃ r ∈ ((ofCatalog c).compile raw).select c, c.Names token r := by
  have visible : ¬ Blank raw := by
    intro blank
    rw [tokens_of_blank blank] at mem
    exact List.not_mem_nil mem
  rw [mem_ignored_ofCatalog_iff, not_and, not_not] at kept
  obtain ⟨r, listed, names⟩ := kept mem
  refine ⟨r, ?_, names⟩
  rw [select_ofCatalog visible, List.mem_filter, decide_eq_true_iff]
  exact ⟨listed, token, mem, names⟩

theorem select_eq_nil_iff {raw : String} (visible : ¬ Blank raw) :
    ((ofCatalog c).compile raw).select c = [] ↔
      ∀ t ∈ tokens raw, t ∈ ((ofCatalog c).compile raw).ignored := by
  constructor
  · intro none t mem
    by_contra kept
    obtain ⟨r, selected, -⟩ := exists_selected_of_not_ignored mem kept
    rw [none] at selected
    exact List.not_mem_nil selected
  · intro ignored
    rw [select_ofCatalog visible, List.filter_eq_nil_iff]
    intro r listed selected
    obtain ⟨t, mem, names⟩ := decide_eq_true_iff.mp selected
    exact (mem_ignored_ofCatalog_iff.mp (ignored t mem)).2 ⟨r, listed, names⟩

/-- From the catalog that its compiler was made for, a filter selects the rules that a token names,
in order, and all of them if it is blank. A token that is not ignored names a selected rule, so
that nothing is selected only if every token is ignored. -/
theorem select_ofCatalog_eq_named (c : Catalog) (raw : String) :
    let p := (ofCatalog c).compile raw
    ∃ ts, (∀ us, Tokenizes raw us ↔ us = ts) ∧
      (Blank raw → p.select c = c.rules) ∧
      (¬ Blank raw → p.select c = c.rules.filter (fun r => ∃ t ∈ ts, c.Names t r) ∧
        (p.select c = [] ↔ ∀ t ∈ ts, t ∈ p.ignored)) ∧
      ∀ t ∈ ts, t ∉ p.ignored → ∃ r ∈ p.select c, c.Names t r := by
  intro p
  refine ⟨tokens raw, fun us => tokenizes_iff, select_of_blank, ?_, ?_⟩
  · intro visible
    exact ⟨select_ofCatalog visible, select_eq_nil_iff visible⟩
  · intro t mem kept
    exact exists_selected_of_not_ignored mem kept

/-- The topic `code` is hidden by the id `Code`, and a rule that is listed twice is selected twice. -/
theorem select_ofCatalog_eq_named_hidden_topic :
    let pause : Rule := ⟨"GcPause", "gc"⟩
    let c : Catalog := ⟨[pause, ⟨"Code", "jit"⟩, ⟨"HotMethods", "code"⟩, pause]⟩
    let p := (ofCatalog c).compile "GC, code ,bogus,, "
    (Blank " " ∧ ((ofCatalog c).compile " ").select c = c.rules) ∧
      (¬ Blank "GC, code ,bogus,, " ∧ p.select c = [pause, ⟨"Code", "jit"⟩, pause]) ∧
      "code" ∉ p.ignored ∧ ∃ r ∈ p.select c, c.Names "code" r := by
  intro pause c p
  have blank : Blank " " := by decide
  have visible : ¬ Blank "GC, code ,bogus,, " := by decide
  have kept : "code" ∉ p.ignored := by decide +kernel
  obtain ⟨-, -, all, -⟩ := select_ofCatalog_eq_named c " "
  obtain ⟨ts, unique, -, named, used⟩ := select_ofCatalog_eq_named c "GC, code ,bogus,, "
  obtain rfl : ["GC", "code", "bogus"] = ts := (unique _).mp (tokenizes_iff.mpr (by decide +kernel))
  refine ⟨⟨blank, all blank⟩, ⟨visible, ?_⟩, kept, used "code" (by decide) kept⟩
  rw [(named visible).1]
  decide +kernel

end Compiler
end RuntimeMonitor.Filter

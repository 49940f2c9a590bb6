import RuntimeMonitor.Proofs.Filter.Tokens

/-!
# What a compiled filter accepts

Compiling goes over the tokens once and puts each among the accepted names or among the ignored
tokens. The filter then accepts a rule exactly if some token names it: by its id if the token is
a known id, else by its topic if the token is a known topic. Case is folded on every side.
-/

namespace RuntimeMonitor.Filter

open Text

def Known (names : List String) (token : String) : Prop :=
  ∃ name ∈ names, lowercase name = lowercase token

instance (names : List String) (token : String) : Decidable (Known names token) :=
  inferInstanceAs (Decidable (∃ _ ∈ _, _))

/-- Whether a token selects a rule. An id comes before a topic of the same name. -/
def Selects (ids topics : List String) (token : String) (r : Rule) : Prop :=
  Known ids token ∧ lowercase r.id = lowercase token ∨
    ¬ Known ids token ∧ Known topics token ∧ lowercase r.topic = lowercase token

theorem accepts_iff_of_not_all {p : Filter} {r : Rule} (notAll : p.acceptsAll = false) :
    p.Accepts r ↔
      (.id, lowercase r.id) ∈ p.accepted ∨ (.topic, lowercase r.topic) ∈ p.accepted := by
  rw [Accepts, notAll]
  exact or_iff_right Bool.false_ne_true

namespace Compiler

variable {c : Compiler} {ids topics : List String} {p : Filter} {token : String}

theorem knowsId_ofNames_iff : (ofNames ids topics).KnowsId token ↔ Known ids token := by
  simp [KnowsId, ofNames, Known]

theorem knowsTopic_ofNames_iff : (ofNames ids topics).KnowsTopic token ↔ Known topics token := by
  simp [KnowsTopic, ofNames, Known]

theorem field?_eq_id_iff : c.field? token = some .id ↔ c.KnowsId token := by
  rw [field?]
  split_ifs with id topic
  · exact iff_of_true rfl id
  · exact iff_of_false nofun id
  · exact iff_of_false nofun id

theorem field?_eq_topic_iff :
    c.field? token = some .topic ↔ ¬ c.KnowsId token ∧ c.KnowsTopic token := by
  rw [field?]
  split_ifs with id topic
  · exact iff_of_false nofun (fun h => h.1 id)
  · exact iff_of_true rfl ⟨id, topic⟩
  · exact iff_of_false nofun (fun h => topic h.2)

theorem field?_eq_none_iff :
    c.field? token = none ↔ ¬ c.KnowsId token ∧ ¬ c.KnowsTopic token := by
  rw [field?]
  split_ifs with id topic
  · exact iff_of_false nofun (fun h => h.1 id)
  · exact iff_of_false nofun (fun h => h.2 topic)
  · exact iff_of_true rfl ⟨id, topic⟩

theorem acceptsAll_step : (c.step p token).acceptsAll = p.acceptsAll := by
  rw [step]
  split <;> rfl

theorem mem_accepted_step_iff {x : Field × String} :
    x ∈ (c.step p token).accepted ↔
      x ∈ p.accepted ∨ c.field? token = some x.1 ∧ lowercase token = x.2 := by
  obtain ⟨field, name⟩ := x
  rw [step]
  cases found : c.field? token with
  | some named => simp [List.mem_insert_iff, eq_comm, or_comm]
  | none => simp

theorem ignored_step :
    (c.step p token).ignored = p.ignored ++ [token].filter (fun t => c.field? t = none) := by
  rw [step]
  cases found : c.field? token with
  | some named => simp [found]
  | none => simp [found]

theorem acceptsAll_foldl {ts : List String} :
    (ts.foldl c.step p).acceptsAll = p.acceptsAll := by
  induction ts generalizing p with
  | nil => rfl
  | cons t ts ih => rw [List.foldl_cons, ih, acceptsAll_step]

/-- The names accepted in the end are the ones accepted before and the ones of the tokens. -/
theorem mem_accepted_foldl_iff {ts : List String} {x : Field × String} :
    x ∈ (ts.foldl c.step p).accepted ↔
      x ∈ p.accepted ∨ ∃ t ∈ ts, c.field? t = some x.1 ∧ lowercase t = x.2 := by
  induction ts generalizing p with
  | nil => simp
  | cons t ts ih =>
    rw [List.foldl_cons, ih, mem_accepted_step_iff, or_assoc]
    simp

theorem ignored_foldl {ts : List String} :
    (ts.foldl c.step p).ignored = p.ignored ++ ts.filter (fun t => c.field? t = none) := by
  induction ts generalizing p with
  | nil => simp
  | cons t ts ih =>
    rw [List.foldl_cons, ih, ignored_step, List.append_assoc, ← List.filter_append]
    rfl

theorem compile_of_blank {raw : String} (blank : ∀ c ∈ raw.toList, isBlank c) :
    c.compile raw = acceptAll := by
  rw [compile, if_pos (trimChars_eq_nil_iff.mpr blank)]

theorem compile_of_not_blank {raw : String} (text : ¬ ∀ c ∈ raw.toList, isBlank c) :
    c.compile raw = (tokens raw).foldl c.step rejectAll := by
  rw [compile, if_neg (mt trimChars_eq_nil_iff.mp text)]

theorem acceptsAll_compile_iff {raw : String} :
    (c.compile raw).acceptsAll = true ↔ Blank raw := by
  by_cases blank : Blank raw
  · rw [compile_of_blank blank]
    exact iff_of_true rfl blank
  · rw [compile_of_not_blank blank, acceptsAll_foldl]
    exact iff_of_false nofun blank

/-- What is accepted comes from the tokens alone; a blank filter has none. -/
theorem mem_accepted_compile_iff {raw : String} {x : Field × String} :
    x ∈ (c.compile raw).accepted ↔ ∃ t ∈ tokens raw, c.field? t = some x.1 ∧ lowercase t = x.2 := by
  by_cases blank : Blank raw
  · rw [compile_of_blank blank, tokens_of_blank blank]
    simp [acceptAll]
  · rw [compile_of_not_blank blank, mem_accepted_foldl_iff]
    simp [rejectAll]

theorem ignored_compile {raw : String} :
    (c.compile raw).ignored = (tokens raw).filter (fun t => c.field? t = none) := by
  by_cases blank : Blank raw
  · rw [compile_of_blank blank, tokens_of_blank blank]
    rfl
  · rw [compile_of_not_blank blank, ignored_foldl]
    rfl

theorem accepts_foldl_iff {ts : List String} {r : Rule} :
    (ts.foldl (ofNames ids topics).step rejectAll).Accepts r ↔ ∃ t ∈ ts, Selects ids topics t r := by
  simp only [Accepts, acceptsAll_foldl, mem_accepted_foldl_iff, rejectAll, List.not_mem_nil,
    false_or, Bool.false_eq_true, field?_eq_id_iff, field?_eq_topic_iff, knowsId_ofNames_iff,
    knowsTopic_ofNames_iff]
  constructor
  · rintro (⟨t, ht, id, name⟩ | ⟨t, ht, ⟨notId, topic⟩, name⟩)
    · exact ⟨t, ht, .inl ⟨id, name.symm⟩⟩
    · exact ⟨t, ht, .inr ⟨notId, topic, name.symm⟩⟩
  · rintro ⟨t, ht, ⟨id, name⟩ | ⟨notId, topic, name⟩⟩
    · exact .inl ⟨t, ht, id, name.symm⟩
    · exact .inr ⟨t, ht, ⟨notId, topic⟩, name.symm⟩

/-- A compiled filter accepts every rule if the raw one is blank, and otherwise the rules that
some token selects. It has ignored the tokens that are no known name, in order. -/
theorem compile_accepts_iff (ids topics : List String) (raw : String) :
    ∃ ts, (∀ us, Tokenizes raw us ↔ us = ts) ∧
      (∀ r, ((ofNames ids topics).compile raw).Accepts r ↔
        (∀ c ∈ raw.toList, isBlank c) ∨ ∃ t ∈ ts, Selects ids topics t r) ∧
      ((ofNames ids topics).compile raw).ignored =
        ts.filter (fun t => ¬ Known ids t ∧ ¬ Known topics t) := by
  refine ⟨tokens raw, fun us => tokenizes_iff, ?_⟩
  by_cases blank : ∀ c ∈ raw.toList, isBlank c
  · rw [compile_of_blank blank, tokens_of_blank blank]
    exact ⟨fun r => iff_of_true (.inl rfl) (.inl blank), rfl⟩
  · rw [compile_of_not_blank blank]
    constructor
    · intro r
      rw [accepts_foldl_iff, or_iff_right blank]
    · rw [ignored_foldl]
      simp only [field?_eq_none_iff, knowsId_ofNames_iff, knowsTopic_ofNames_iff, rejectAll,
        List.nil_append]

end Compiler
end RuntimeMonitor.Filter

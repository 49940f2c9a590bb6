import Mathlib
import RuntimeMonitor.Proofs.Recording.Pass

/-!
# The last text wins

A session stages texts, takes them back and applies what is staged, to one sink or to several. At
every point the text of an option is the one that was set last, if the option was not unset and
nothing was cleared since. A pass only reads the staged texts, so passes between two edits send
the same assignments, whatever their sinks answer.
-/

namespace RuntimeMonitor.Recording

/-- A pass to be made: a sink in some state, and what is to become of the failures. -/
structure Application : Type 1 where
  State : Type
  sink : Sink State
  state : State
  Report : Type
  report : Report → Failure → Report
  reports : Report

inductive Step : Type 1
  | set (k : Key) (raw : String)
  | unset (k : Key)
  | clear
  | apply (p : Application)

namespace Key

/-- The order in which options are declared. -/
def Before (j k : Key) : Prop := all.idxOf j < all.idxOf k

instance (j k : Key) : Decidable (j.Before k) := inferInstanceAs (Decidable (_ < _))

theorem pairwise_before_all : all.Pairwise Before := by decide

/-- What is gathered from the options one by one stands in their order. -/
theorem pairwise_before_filterMap {α : Type} {f : Key → Option (Key × α)}
    (own : ∀ k e, f k = some e → e.1 = k) :
    (all.filterMap f).Pairwise (fun e e' => e.1.Before e'.1) := by
  rw [List.pairwise_filterMap]
  apply pairwise_before_all.imp
  intro j k before e he e' he'
  rw [own j e he, own k e' he']
  exact before

end Key

namespace Staged

variable {staged : Staged} {step : Step}

/-- The assignments that a pass sends, in order, as a trace of the sink shows them. -/
def sends (staged : Staged) (p : Application) : List Assignment :=
  (staged.apply p.sink.traced p.report (p.state, []) p.reports).2.1.2.map Prod.fst

/-- What is staged after a step. A pass gives no staged texts back. -/
def perform (staged : Staged) : Step → Staged
  | .set k raw => staged.set k raw
  | .unset k => staged.unset k
  | .clear => empty
  | .apply _ => staged

/-- What is staged after a session that begins with nothing staged. -/
def after (history : List Step) : Staged := history.foldl perform empty

end Staged

/-- Whether a step has a say in what is staged for an option. -/
def Step.Edits (k : Key) : Step → Prop
  | .set j _ | .unset j => j = k
  | .clear => True
  | .apply _ => False

/-- The text that was set last for an option, which has not been unset or cleared since. -/
def Latest (history : List Step) (k : Key) (raw : String) : Prop :=
  ∃ before later, history = before ++ .set k raw :: later ∧ ∀ step ∈ later, ¬ step.Edits k

/-- A point of a list that grows at its end is the new end or a point from before. -/
theorem append_singleton_eq_append_cons_iff {α : Type*} {history before later : List α}
    {last point : α} :
    history ++ [last] = before ++ point :: later ↔
      history = before ∧ last = point ∧ later = [] ∨
        ∃ rest, history = before ++ point :: rest ∧ later = rest ++ [last] := by
  cases later using List.reverseRecOn with
  | nil => simp [List.append_singleton_inj]
  | append_singleton rest newest =>
    rw [← List.cons_append, ← List.append_assoc, List.append_singleton_inj, @eq_comm _ last]
    simp [List.append_singleton_inj]

/-- The last point of some kind with nothing behind it that overrides it is the new end of a list,
or it is that from before and the new end does not override it. -/
theorem last_append_singleton_iff {α : Type*} {history : List α} {last : α}
    {Kind Overrides : α → Prop} :
    (∃ point, Kind point ∧ ∃ before later, history ++ [last] = before ++ point :: later ∧
        ∀ x ∈ later, ¬ Overrides x) ↔
      Kind last ∨ ¬ Overrides last ∧
        ∃ point, Kind point ∧ ∃ before later, history = before ++ point :: later ∧
          ∀ x ∈ later, ¬ Overrides x := by
  constructor
  · rintro ⟨point, kind, before, later, split, idle⟩
    rcases append_singleton_eq_append_cons_iff.mp split with ⟨-, rfl, -⟩ | ⟨rest, rfl, rfl⟩
    · exact .inl kind
    · refine .inr ⟨idle last (by simp), point, kind, before, rest, rfl, ?_⟩
      intro other h
      exact idle other (List.mem_append_left _ h)
  · rintro (kind | ⟨idle, point, kind, before, later, rfl, rest⟩)
    · exact ⟨last, kind, history, [], rfl, nofun⟩
    · refine ⟨point, kind, before, later ++ [last], by simp, ?_⟩
      intro other h
      rcases List.mem_append.mp h with old | new
      · exact rest other old
      · rw [List.mem_singleton.mp new]
        exact idle

theorem latest_append_singleton {history : List Step} {step : Step} {k : Key} {raw : String} :
    Latest (history ++ [step]) k raw ↔
      step = .set k raw ∨ ¬ step.Edits k ∧ Latest history k raw := by
  have grown := @last_append_singleton_iff _ history step (· = .set k raw) (·.Edits k)
  simpa only [Latest, exists_eq_left] using grown

theorem Assignment.key_value_injective :
    Function.Injective (fun a : Assignment => (a.key, a.value)) := by
  intro a b same
  obtain ⟨key, value⟩ := Prod.mk.inj same
  have first : ofValue? a.key a.value = some a := ofValue?_eq_some_iff.mpr ⟨rfl, rfl⟩
  have second : ofValue? a.key a.value = some b := ofValue?_eq_some_iff.mpr ⟨key.symm, value.symm⟩
  exact Option.some.inj (first.symm.trans second)

namespace Staged

variable {staged : Staged}

theorem get?_perform_iff {step : Step} {k : Key} {raw : String} :
    (staged.perform step).get? k = some raw ↔
      step = .set k raw ∨ ¬ step.Edits k ∧ staged.get? k = some raw := by
  cases step with
  | set j text =>
    by_cases same : k = j
    · simp [perform, set, Step.Edits, same]
    · simp [perform, set, Step.Edits, same, Ne.symm same]
  | unset j =>
    by_cases same : k = j
    · simp [perform, unset, Step.Edits, same]
    · simp [perform, unset, Step.Edits, same, Ne.symm same]
  | clear => simp [perform, Step.Edits]
  | apply p => simp [perform, Step.Edits]

theorem after_append_singleton (history : List Step) (step : Step) :
    after (history ++ [step]) = (after history).perform step := List.foldl_append

theorem get?_after_iff {history : List Step} {k : Key} {raw : String} :
    (after history).get? k = some raw ↔ Latest history k raw := by
  induction history using List.reverseRecOn with
  | nil => simp [after, Latest]
  | append_singleton history step ih =>
    rw [after_append_singleton, get?_perform_iff, latest_append_singleton, ih]

theorem after_append_applications (history : List Step) (ps : List Application) :
    after (history ++ ps.map .apply) = after history := by
  induction ps using List.reverseRecOn with
  | nil => simp
  | append_singleton ps p ih =>
    rw [List.map_append, ← List.append_assoc]
    exact (after_append_singleton _ _).trans ih

theorem pairwise_before_entries (staged : Staged) :
    staged.entries.Pairwise (fun e e' => e.1.Before e'.1) := by
  apply Key.pairwise_before_filterMap
  intro k e h
  obtain ⟨raw, -, rfl⟩ := Option.map_eq_some_iff.mp h
  rfl

theorem size_eq_ncard (staged : Staged) :
    staged.size = {e : Key × String | staged.get? e.1 = some e.2}.ncard := by
  have listed : {e : Key × String | staged.get? e.1 = some e.2} = staged.entries.toFinset := by
    ext ⟨k, raw⟩
    simp [mem_entries]
  rw [listed, Set.ncard_coe_finset, List.toFinset_card_of_nodup staged.nodup_keys.of_map, size]

/-- An option and the value that is sent to it, for each staged text that can be read. -/
def readings (staged : Staged) : List (Key × Value) :=
  Key.all.filterMap (fun k => (staged.get? k).bind (fun raw => (k.read raw).toOption.map (k, ·)))

theorem mem_readings_iff {k : Key} {v : Value} :
    (k, v) ∈ staged.readings ↔ ∃ raw, staged.get? k = some raw ∧ k.read raw = .ok v := by
  constructor
  · intro h
    obtain ⟨j, -, found⟩ := List.mem_filterMap.mp h
    obtain ⟨raw, staged, value⟩ := Option.bind_eq_some_iff.mp found
    cases read : j.read raw with
    | error reason => simp [read, Except.toOption] at value
    | ok w =>
      rw [read] at value
      cases value
      exact ⟨raw, staged, read⟩
  · rintro ⟨raw, staged, value⟩
    exact List.mem_filterMap.mpr ⟨k, Key.mem_all k, by simp [staged, value, Except.toOption]⟩

theorem pairwise_before_readings (staged : Staged) :
    staged.readings.Pairwise (fun e e' => e.1.Before e'.1) := by
  apply Key.pairwise_before_filterMap
  intro k e h
  obtain ⟨raw, -, read⟩ := Option.bind_eq_some_iff.mp h
  obtain ⟨v, -, rfl⟩ := Option.map_eq_some_iff.mp read
  rfl

/-- Whatever the sink answers, it is sent the readings of the staged texts, each once. -/
theorem map_sends (staged : Staged) (p : Application) :
    (staged.sends p).map (fun a => (a.key, a.value)) = staged.readings := by
  obtain ⟨attempts, t, h⟩ := Attempts.exists_attempts p.sink staged.entries p.state
  rw [sends, apply, (h.traced []).applyAll_eq, List.map_map]
  exact h.passes.calls_eq

theorem sends_eq (staged : Staged) (p q : Application) : staged.sends p = staged.sends q := by
  apply List.map_injective_iff.mpr Assignment.key_value_injective
  rw [map_sends, map_sends]

end Staged

/-- At every point of a session exactly the latest texts are staged, in the order of options, and
passes do not change this. A pass sends the values of those texts that can be read, in the same
order and each once, and so does every other pass before the next edit. -/
theorem staged_after_eq_latest (history : List Step) (pauses : List Application)
    (p q : Application) :
    let staged := Staged.after history
    (∀ k raw, staged.get? k = some raw ↔ Latest history k raw) ∧
      (∀ k raw, (k, raw) ∈ staged.entries ↔ Latest history k raw) ∧
      staged.entries.Pairwise (fun e e' => e.1.Before e'.1) ∧
      staged.size = {e : Key × String | Latest history e.1 e.2}.ncard ∧
      Staged.after (history ++ pauses.map .apply) = staged ∧
      (∀ a, a ∈ staged.sends p ↔ ∃ raw, Latest history a.key raw ∧ a.key.read raw = .ok a.value) ∧
      (staged.sends p).Pairwise (fun a b => a.key.Before b.key) ∧
      (Staged.after (history ++ pauses.map .apply)).sends q = staged.sends p := by
  intro staged
  have latest (k : Key) (raw : String) : staged.get? k = some raw ↔ Latest history k raw :=
    Staged.get?_after_iff
  have paused := Staged.after_append_applications history pauses
  refine ⟨latest, ?_, staged.pairwise_before_entries, ?_, paused, ?_, ?_, ?_⟩
  · intro k raw
    rw [Staged.mem_entries, latest]
  · rw [staged.size_eq_ncard]
    simp only [latest]
  · intro a
    simp only [← latest, ← Staged.mem_readings_iff, ← staged.map_sends p]
    exact (List.mem_map_of_injective Assignment.key_value_injective).symm
  · have ordered := staged.pairwise_before_readings
    rwa [← staged.map_sends p, List.pairwise_map] at ordered
  · rw [paused]
    exact staged.sends_eq q p

end RuntimeMonitor.Recording

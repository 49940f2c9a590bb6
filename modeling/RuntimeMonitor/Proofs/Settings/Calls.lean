import Mathlib
import RuntimeMonitor.Proofs.Settings.Document

/-!
# The recording options of a session after any calls

Options are set by calls, some of which name no option and fail. The options of the settings can be
kept as a list that each call changes in place, by a deletion, an insertion at the end and a sort.
However many calls there were, the list is that of the texts kept by option: it stays in the order
of the options, and each option has the text of the last call for it. Staging the list is as good
as having staged the texts at once.
-/

namespace RuntimeMonitor

open Recording

namespace Recording.Staged

variable {s : Staged} {k : Key} {raw : String}

theorem setAll_append (s : Staged) (texts later : List (Key × String)) :
    s.setAll (texts ++ later) = (s.setAll texts).setAll later := List.foldl_append

theorem get?_set_iff {j : Key} {text : String} :
    (s.set j text).get? k = some raw ↔
      j = k ∧ text = raw ∨ j ≠ k ∧ s.get? k = some raw := by
  by_cases same : k = j
  · simp [set, same]
  · simp [set, same, Ne.symm same]

theorem get?_setAll_of_forall_ne {texts : List (Key × String)} (h : ∀ raw, (k, raw) ∉ texts) :
    (s.setAll texts).get? k = s.get? k := by
  induction texts generalizing s with
  | nil => rfl
  | cons e texts ih =>
    have other : k ≠ e.1 := by
      rintro rfl
      exact h e.2 List.mem_cons_self
    have rest := @ih (s.set e.1 e.2) fun raw found => h raw (List.mem_cons_of_mem _ found)
    refine rest.trans ?_
    rw [set, get?_put, if_neg other]

theorem get?_setAll_of_mem {texts : List (Key × String)}
    (different : (texts.map Prod.fst).Nodup) (h : (k, raw) ∈ texts) :
    (s.setAll texts).get? k = some raw := by
  induction texts generalizing s with
  | nil => cases h
  | cons e texts ih =>
    obtain ⟨fresh, different⟩ := List.nodup_cons.mp different
    rcases List.mem_cons.mp h with rfl | later
    · have none_later : ∀ text, (k, text) ∉ texts := by
        intro text found
        have named : k ∈ texts.map Prod.fst := List.mem_map_of_mem found
        exact fresh named
      exact (get?_setAll_of_forall_ne none_later).trans (get?_set_iff.mpr (.inl ⟨rfl, rfl⟩))
    · exact ih different later

theorem setAll_entries_empty (s : Staged) : empty.setAll s.entries = s := by
  apply ext_get?
  intro k
  cases found : s.get? k with
  | some raw => exact get?_setAll_of_mem s.nodup_keys (mem_entries.mpr found)
  | none =>
    have absent : ∀ raw, (k, raw) ∉ s.entries := by simp [mem_entries, found]
    exact (get?_setAll_of_forall_ne absent).trans (get?_empty k)

end Recording.Staged

namespace Settings

/-- Settings whose recording options are kept as a list. -/
structure Listed where
  recording : List (Key × String) := []
  ruleFilter : Option String := none
  deriving DecidableEq, Repr

def listed (s : Settings) : Listed := ⟨s.recording.entries, s.ruleFilter⟩

namespace Listed

/-- Sets a recording option by its name, in any spelling. What was kept for the option goes, the
new text comes last, and then the list is put in the order of the options. -/
def setOption (name raw : String) : ExceptT UnknownOption (StateM Listed) Unit :=
  match Key.ofName? name with
  | none => throw ⟨name⟩
  | some k => do
    modify fun s => { s with recording := s.recording.filter (·.1 ≠ k) }
    modify fun s => { s with recording := s.recording ++ [(k, raw)] }
    modify fun s =>
      { s with recording := s.recording.mergeSort fun e e' => e.1.index ≤ e'.1.index }

/-- The settings after calls, which go on when one of them fails. -/
def afterCalls (s : Listed) (calls : List (String × String)) : Listed :=
  calls.foldl (fun s c => ((setOption c.1 c.2).run.run s).2) s

def stageInto (s : Listed) (staged : Staged) : Staged := staged.setAll s.recording

theorem run_setOption_of_none {name : String} (h : Key.ofName? name = none) (s : Listed)
    (raw : String) : (setOption name raw).run.run s = (.error ⟨name⟩, s) := by
  rw [setOption, h]
  rfl

theorem run_setOption_of_some {name : String} {k : Key} (h : Key.ofName? name = some k)
    (s : Listed) (raw : String) :
    (setOption name raw).run.run s =
      (.ok (), { s with recording := setListed s.recording k raw }) := by
  rw [setOption, h]
  rfl

theorem run_setOption_fails_iff {name raw : String} {s : Listed} :
    (∃ e, ((setOption name raw).run.run s).1 = .error e) ↔ Key.ofName? name = none := by
  cases found : Key.ofName? name with
  | none => simp [run_setOption_of_none found]
  | some k => simp [run_setOption_of_some found]

end Listed

/-! ## Calls -/

variable {start : Settings} {calls : List (String × String)} {k : Key} {raw : String}

/-- The settings after a call, which are the same if it fails. -/
def afterCall (s : Settings) (c : String × String) : Settings :=
  match s.setOption c.1 c.2 with
  | .ok t => t
  | .error _ => s

def afterCalls (s : Settings) (calls : List (String × String)) : Settings :=
  calls.foldl afterCall s

/-- The option that a call names, with its text. -/
def named? (c : String × String) : Option (Key × String) := (Key.ofName? c.1).map (·, c.2)

theorem afterCall_eq (s : Settings) (c : String × String) :
    s.afterCall c = { s with recording := s.recording.setAll (named? c).toList } := by
  unfold afterCall setOption named?
  cases Key.ofName? c.1 <;> rfl

theorem afterCalls_eq (s : Settings) (calls : List (String × String)) :
    s.afterCalls calls = { s with recording := s.recording.setAll (calls.filterMap named?) } := by
  induction calls generalizing s with
  | nil => rfl
  | cons c calls ih =>
    have split : (c :: calls).filterMap named? = (named? c).toList ++ calls.filterMap named? := by
      cases h : named? c <;> simp [h]
    have rest : s.afterCalls (c :: calls) = (s.afterCall c).afterCalls calls := rfl
    rw [rest, ih, afterCall_eq, split, Staged.setAll_append]

/-- A call does to the list what it does to the texts kept by option. -/
theorem listed_afterCall (s : Settings) (c : String × String) :
    (s.afterCall c).listed = ((Listed.setOption c.1 c.2).run.run s.listed).2 := by
  cases found : Key.ofName? c.1 with
  | none =>
    rw [Listed.run_setOption_of_none found, afterCall_eq, named?, found]
    rfl
  | some k =>
    have step : s.afterCall c = { s with recording := s.recording.set k c.2 } := by
      rw [afterCall_eq, named?, found]
      rfl
    rw [Listed.run_setOption_of_some found, step, listed, Staged.entries_set]
    rfl

theorem listed_afterCalls (s : Settings) (calls : List (String × String)) :
    (s.afterCalls calls).listed = s.listed.afterCalls calls := by
  induction calls generalizing s with
  | nil => rfl
  | cons c calls ih =>
    have rest : s.listed.afterCalls (c :: calls) = (s.afterCall c).listed.afterCalls calls :=
      congrArg (Listed.afterCalls · calls) (s.listed_afterCall c).symm
    exact (ih (s.afterCall c)).trans rest.symm

/-! ## The last call for an option -/

/-- The text of the last call that names an option, in whatever spelling. -/
def LastNamed (calls : List (String × String)) (k : Key) (raw : String) : Prop :=
  ∃ c, (Key.ofName? c.1 = some k ∧ c.2 = raw) ∧
    ∃ before later, calls = before ++ c :: later ∧ ∀ d ∈ later, Key.ofName? d.1 ≠ some k

theorem lastNamed_append_singleton {c : String × String} :
    LastNamed (calls ++ [c]) k raw ↔
      Key.ofName? c.1 = some k ∧ c.2 = raw ∨ Key.ofName? c.1 ≠ some k ∧ LastNamed calls k raw :=
  last_append_singleton_iff

theorem get?_afterCall_iff {s : Settings} {c : String × String} :
    (s.afterCall c).recording.get? k = some raw ↔
      Key.ofName? c.1 = some k ∧ c.2 = raw ∨
        Key.ofName? c.1 ≠ some k ∧ s.recording.get? k = some raw := by
  rw [afterCall_eq, named?]
  cases found : Key.ofName? c.1 with
  | none => simp [Staged.setAll]
  | some j => simpa [Staged.setAll] using Staged.get?_set_iff

theorem get?_afterCalls_iff :
    (start.afterCalls calls).recording.get? k = some raw ↔
      LastNamed calls k raw ∨
        (∀ c ∈ calls, Key.ofName? c.1 ≠ some k) ∧ start.recording.get? k = some raw := by
  induction calls using List.reverseRecOn with
  | nil => simp [afterCalls, LastNamed]
  | append_singleton calls c ih =>
    have last : start.afterCalls (calls ++ [c]) = (start.afterCalls calls).afterCall c :=
      List.foldl_append
    rw [last, get?_afterCall_iff, lastNamed_append_singleton, ih]
    simp only [List.mem_append, List.mem_singleton, or_imp, forall_and, forall_eq]
    rw [and_or_left, or_assoc, and_assoc, and_left_comm]

/-- Calls with any names and texts, of which some may fail, turn any settings, read from a document
or the default ones, into settings whose options are in strict order, each with the text of the
last call for it, or else with that from the start. A call fails if its name names no option, and
then nothing changes. Staging the options gives each its text and leaves the others as they are;
where nothing was staged it gives just the list, and so do the initial texts and those of the
calls when they are staged one by one. -/
theorem listed_afterCalls_spec (start : Settings) (calls : List (String × String)) :
    let s := start.listed.afterCalls calls
    s = (start.afterCalls calls).listed ∧
      s.recording.Pairwise (fun e e' => e.1.Before e'.1) ∧
      (∀ k raw, (k, raw) ∈ s.recording ↔
        LastNamed calls k raw ∨
          (∀ c ∈ calls, Key.ofName? c.1 ≠ some k) ∧ (k, raw) ∈ start.listed.recording) ∧
      s.ruleFilter = start.ruleFilter ∧
      (∀ name raw,
        ((∃ e, ((Listed.setOption name raw).run.run s).1 = .error e) ↔ Key.ofName? name = none) ∧
          (Key.ofName? name = none →
            (Listed.setOption name raw).run.run s = (.error ⟨name⟩, s))) ∧
      (∀ staged k,
        (∀ raw, (k, raw) ∈ s.recording → (s.stageInto staged).get? k = some raw) ∧
          ((∀ raw, (k, raw) ∉ s.recording) → (s.stageInto staged).get? k = staged.get? k)) ∧
      (s.stageInto .empty).entries = s.recording ∧
      s.stageInto .empty =
        Staged.empty.setAll (start.listed.recording ++ calls.filterMap named?) := by
  intro s
  have same : s = (start.afterCalls calls).listed := (start.listed_afterCalls calls).symm
  have staged : s.stageInto .empty = (start.afterCalls calls).recording := by
    rw [same]
    exact Staged.setAll_entries_empty _
  refine ⟨same, ?_, ?_, ?_, ?_, ?_, ?_, ?_⟩
  · rw [same]
    exact Staged.pairwise_before_entries _
  · intro k raw
    rw [same, listed, listed, Staged.mem_entries, Staged.mem_entries]
    exact get?_afterCalls_iff
  · rw [same, afterCalls_eq]
    rfl
  · intro name raw
    exact ⟨Listed.run_setOption_fails_iff, fun h => Listed.run_setOption_of_none h s raw⟩
  · intro overlay k
    have different : (s.recording.map Prod.fst).Nodup := by
      rw [same]
      exact Staged.nodup_keys _
    exact ⟨fun raw => Staged.get?_setAll_of_mem different, Staged.get?_setAll_of_forall_ne⟩
  · rw [staged, same]
    rfl
  · rw [staged, afterCalls_eq, Staged.setAll_append]
    exact congrArg (Staged.setAll · _) (Staged.setAll_entries_empty start.recording).symm

/-- Two spellings of one option and a name that is none: the second text stays, and what was staged
for another option is not touched. -/
theorem listed_afterCalls_spec_respelled :
    let s := default.listed.afterCalls
      [("max-size", "1 KB"), ("disk", "true"), ("maxSize", "2 KB"), ("frobs", "1")]
    let staged := (Staged.empty.set .maxSize "9").set .name "kept"
    s.recording = [(.toDisk, "true"), (.maxSize, "2 KB")] ∧
      (Listed.setOption "frobs" "2").run.run s = (.error ⟨"frobs"⟩, s) ∧
      (s.stageInto staged).get? .maxSize = some "2 KB" ∧
      (s.stageInto staged).get? .name = some "kept" := by
  intro s staged
  obtain ⟨same, -, -, -, failing, staging, -⟩ := listed_afterCalls_spec default
    [("max-size", "1 KB"), ("disk", "true"), ("maxSize", "2 KB"), ("frobs", "1")]
  have recording : s.recording = [(.toDisk, "true"), (.maxSize, "2 KB")] :=
    (congrArg Listed.recording same).trans (by decide)
  refine ⟨recording, ?_, ?_, ?_⟩
  · exact (failing "frobs" "2").2 (by decide)
  · exact (staging staged .maxSize).1 "2 KB" (by rw [recording]; decide)
  · exact (staging staged .name).2 (by rw [recording]; simp)

end Settings
end RuntimeMonitor

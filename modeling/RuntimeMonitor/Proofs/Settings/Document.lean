import Mathlib
import RuntimeMonitor.Proofs.Recording.Session
import RuntimeMonitor.Proofs.Toml.Names
import RuntimeMonitor.Settings.File

/-!
# A document sets its options one by one

Settings that are read from a document are those that come of setting the options of the document
by their names, each once and in any order. Staged texts are kept by option; kept as a list, where
a new text goes to the end and the list is sorted again, they give the same entries.
-/

namespace RuntimeMonitor

open Recording

namespace Recording

def Key.index (k : Key) : Nat := all.idxOf k

theorem Key.index_injective : Function.Injective Key.index := by
  intro j k same
  exact (List.idxOf_inj (Key.mem_all j)).mp same

/-- A list of texts once the text of an option is set: the old one is dropped, the new one comes
last, and then all are sorted by their options. -/
def setListed (texts : List (Key × String)) (k : Key) (raw : String) : List (Key × String) :=
  (texts.filter (·.1 ≠ k) ++ [(k, raw)]).mergeSort (fun e e' => e.1.index ≤ e'.1.index)

theorem pairwise_setListed (texts : List (Key × String)) (k : Key) (raw : String) :
    (setListed texts k raw).Pairwise (fun e e' => e.1.index ≤ e'.1.index) := by
  have sorted := @List.pairwise_mergeSort _ (fun e e' : Key × String => e.1.index ≤ e'.1.index)
    (by intro a b c; simp; omega) (by intro a b; simp; omega) (texts.filter (·.1 ≠ k) ++ [(k, raw)])
  simpa only [setListed, decide_eq_true_eq] using sorted

namespace Staged

theorem entries_set_perm (s : Staged) (k : Key) (raw : String) :
    (s.set k raw).entries.Perm (s.entries.filter (·.1 ≠ k) ++ [(k, raw)]) := by
  have nodup : (s.entries.filter (·.1 ≠ k) ++ [(k, raw)]).Nodup := by
    rw [List.nodup_append]
    refine ⟨s.nodup_keys.of_map.filter _, List.nodup_singleton _, ?_⟩
    intro e kept e' new same
    rw [List.mem_singleton.mp new] at same
    subst same
    simp at kept
  rw [List.perm_ext_iff_of_nodup (s.set k raw).nodup_keys.of_map nodup]
  intro ⟨j, text⟩
  by_cases same : j = k
  · simp [mem_entries, set, same, eq_comm]
  · simp [mem_entries, set, same]

/-- Keeping texts by option gives the list that is sorted after each new text. -/
theorem entries_set (s : Staged) (k : Key) (raw : String) :
    (s.set k raw).entries = setListed s.entries k raw := by
  have perm : (s.set k raw).entries.Perm (setListed s.entries k raw) :=
    (s.entries_set_perm k raw).trans (List.mergeSort_perm _ _).symm
  have ordered := (s.set k raw).pairwise_before_entries.imp Nat.le_of_lt
  -- Sorting by options leaves no choice, since no two entries are of the same option.
  refine List.Perm.eq_of_pairwise ?_ ordered (pairwise_setListed s.entries k raw) perm
  intro e e' listed listed' le ge
  have same : e.1 = e'.1 := Key.index_injective (Nat.le_antisymm le ge)
  exact List.inj_on_of_nodup_map (s.set k raw).nodup_keys listed (perm.symm.subset listed') same

theorem set_comm (s : Staged) {j k : Key} (h : j ≠ k) (raw text : String) :
    (s.set j raw).set k text = (s.set k text).set j raw := by
  apply ext_get?
  intro i
  simp only [set, get?_put]
  split_ifs with hk hj
  · exact absurd (hj.symm.trans hk) h
  · rfl
  · rfl
  · rfl

/-- Texts of different options may be set in any order. -/
theorem setAll_perm (s : Staged) {texts order : List (Key × String)} (h : order.Perm texts)
    (different : (texts.map Prod.fst).Nodup) : s.setAll order = s.setAll texts := by
  refine (h.symm.foldl_eq' ?_ s).symm
  intro e he e' he' s
  by_cases same : e.1 = e'.1
  · rw [List.inj_on_of_nodup_map different he he' same]
  · exact s.set_comm same e.2 e'.2

end Staged
end Recording

namespace Settings

/-! ## Calls -/

/-- Sets options by their names one after the other. -/
def setOptions (s : Settings) (calls : List (String × String)) : Except UnknownOption Settings :=
  calls.foldlM (fun s c => s.setOption c.1 c.2) s

/-- Sets an option by its name in a list of texts. -/
def setListedOption (texts : List (Key × String)) (name raw : String) :
    Except UnknownOption (List (Key × String)) :=
  match Key.ofName? name with
  | some k => .ok (setListed texts k raw)
  | none => .error ⟨name⟩

def setListedOptions (texts : List (Key × String)) (calls : List (String × String)) :
    Except UnknownOption (List (Key × String)) :=
  calls.foldlM (fun texts c => setListedOption texts c.1 c.2) texts

theorem entries_setOption (s : Settings) (name raw : String) :
    (s.setOption name raw).map (·.recording.entries) =
      setListedOption s.recording.entries name raw := by
  unfold setOption setListedOption
  cases Key.ofName? name with
  | none => rfl
  | some k => exact congrArg Except.ok (s.recording.entries_set k raw)

/-- Calls do to the staged texts what they do to the list of them, also where one fails. -/
theorem entries_setOptions (s : Settings) (calls : List (String × String)) :
    (s.setOptions calls).map (·.recording.entries) =
      setListedOptions s.recording.entries calls := by
  induction calls generalizing s with
  | nil => rfl
  | cons c calls ih =>
    have step := s.entries_setOption c.1 c.2
    unfold setOptions setListedOptions at *
    rw [List.foldlM_cons, List.foldlM_cons, ← step]
    cases s.setOption c.1 c.2 with
    | error e => rfl
    | ok t => exact ih t

/-! ## Names -/

theorem ofName?_memberName (k : Key) : Key.ofName? (memberName k) = some k := by
  cases k <;> decide

theorem ofMemberName?_eq_some_iff {name : String} {k : Key} :
    ofMemberName? name = some k ↔ name = memberName k := by
  constructor
  · intro found
    have same := List.find?_some found
    exact (of_decide_eq_true same).symm
  · rintro rfl
    cases k <;> decide

/-- The member of a document that gives an option its text. -/
def member (e : Key × String) : String × Toml.Value := (memberName e.1, .string e.2)

/-- The call that gives an option its text. -/
def call (e : Key × String) : String × String := (memberName e.1, e.2)

theorem setOptions_call (s : Settings) (texts : List (Key × String)) :
    s.setOptions (texts.map call) = .ok { s with recording := s.recording.setAll texts } := by
  induction texts generalizing s with
  | nil => rfl
  | cons e texts ih =>
    have step : s.setOption (call e).1 (call e).2 =
        .ok { s with recording := s.recording.set e.1 e.2 } := by
      simp [setOption, call, ofName?_memberName]
    rw [setOptions, List.map_cons, List.foldlM_cons, step]
    exact ih _

theorem mem_range_member_iff {m : String × Toml.Value} :
    m ∈ Set.range member ↔
      m.1 ∈ ["disk", "max-age", "max-size", "name", "duration", "destination", "dump-on-exit"] ∧
        ∃ raw, m.2 = .string raw := by
  have names : ["disk", "max-age", "max-size", "name", "duration", "destination", "dump-on-exit"] =
      Key.all.map memberName := rfl
  rw [names, List.mem_map]
  constructor
  · rintro ⟨e, rfl⟩
    exact ⟨⟨e.1, Key.mem_all e.1, rfl⟩, e.2, rfl⟩
  · rintro ⟨⟨k, -, name⟩, raw, value⟩
    exact ⟨(k, raw), Prod.ext name value.symm⟩

theorem exists_texts_iff {members : List (String × Toml.Value)} :
    (∃ texts : List (Key × String), members = texts.map member) ↔
      ∀ m ∈ members, m ∈ Set.range member := by
  have ranges := Set.ext_iff.mp (Set.range_list_map member) members
  rw [Set.mem_range, Set.mem_ofPred_eq] at ranges
  rw [← ranges]
  exact exists_congr fun texts => eq_comm

/-- Calls in another order are the calls of the texts in another order. -/
theorem exists_texts_of_perm {texts : List (Key × String)} {order : List (String × String)}
    (h : order.Perm (texts.map call)) :
    ∃ other : List (Key × String), order = other.map call ∧ other.Perm texts :=
  (congrFun₂ (List.eq_map_comp_perm call) order texts).mpr h

theorem string?_eq_some_iff {v : Toml.Value} {raw : String} :
    string? v = some raw ↔ v = .string raw := by
  cases v <;> simp [string?]

theorem stage_eq_some_iff {s t : Staged} {m : String × Toml.Value} :
    (do return s.set (← ofMemberName? m.1) (← string? m.2)) = some t ↔
      ∃ e, m = member e ∧ t = s.set e.1 e.2 := by
  constructor
  · intro staged
    obtain ⟨k, name, staged⟩ := Option.bind_eq_some_iff.mp staged
    obtain ⟨raw, value, staged⟩ := Option.bind_eq_some_iff.mp staged
    have same : m = member (k, raw) :=
      Prod.ext (ofMemberName?_eq_some_iff.mp name) (string?_eq_some_iff.mp value)
    exact ⟨(k, raw), same, (Option.some.inj staged).symm⟩
  · rintro ⟨e, rfl, rfl⟩
    have name : ofMemberName? (memberName e.1) = some e.1 := ofMemberName?_eq_some_iff.mpr rfl
    simp [name, member, string?]

theorem recordingOfMembers?_eq_some_iff {members : List (String × Toml.Value)} {t : Staged} :
    recordingOfMembers? members = some t ↔
      ∃ texts, members = texts.map member ∧ t = Staged.empty.setAll texts := by
  unfold recordingOfMembers?
  generalize Staged.empty = s
  induction members generalizing s with
  | nil =>
    constructor
    · intro staged
      exact ⟨[], rfl, (Option.some.inj staged).symm⟩
    · rintro ⟨texts, none, rfl⟩
      rw [List.map_eq_nil_iff.mp none.symm]
      rfl
  | cons m members ih =>
    rw [List.foldlM_cons]
    constructor
    · intro staged
      obtain ⟨u, first, rest⟩ := Option.bind_eq_some_iff.mp staged
      obtain ⟨e, rfl, rfl⟩ := stage_eq_some_iff.mp first
      obtain ⟨texts, rfl, rfl⟩ := (ih _).mp rest
      exact ⟨e :: texts, rfl, rfl⟩
    · rintro ⟨texts, split, rfl⟩
      obtain ⟨e, texts, rfl, rfl, rfl⟩ := List.map_eq_cons_iff.mp split.symm
      exact Option.bind_eq_some_iff.mpr
        ⟨_, stage_eq_some_iff.mpr ⟨e, rfl, rfl⟩, (ih _).mpr ⟨texts, rfl, rfl⟩⟩

/-! ## Documents -/

/-- Under a name a table holds a table with these members, or nothing, which is as good as a table
without members. -/
inductive HoldsTable (document : List (String × Toml.Value)) (name : String) :
    List (String × Toml.Value) → Prop
  | missing (h : document.lookup name = none) : HoldsTable document name []
  | table {members : List (String × Toml.Value)}
      (h : document.lookup name = some (.table members)) : HoldsTable document name members

/-- Sets the rule filter to a text, if there is one. -/
def withFilter (s : Settings) : Option Toml.Value → Settings
  | some (.string raw) => { s with ruleFilter := some raw }
  | _ => s

@[simp] theorem recording_withFilter (s : Settings) (v : Option Toml.Value) :
    (s.withFilter v).recording = s.recording := by
  unfold withFilter
  split <;> rfl

variable {text : String} {document recording analysis : List (String × Toml.Value)}

theorem HoldsTable.nodup {name : String} {members : List (String × Toml.Value)}
    (h : HoldsTable document name members) (read : Toml.read? text = some document) :
    (members.map Prod.fst).Nodup := by
  cases h with
  | missing => exact List.nodup_nil
  | table found =>
    cases Toml.distinct_of_read? read with
    | table _ inner =>
      obtain ⟨before, after, rfl, -⟩ := List.lookup_eq_some_iff.mp found
      cases inner (name, .table members) (by simp) with
      | table names _ => exact names

theorem ofMembers?_eq (hr : HoldsTable document "recording" recording)
    (ha : HoldsTable document "analysis" analysis) :
    ofMembers? document = (recordingOfMembers? recording).bind (fun staged =>
      (ruleFilter? (.table analysis)).map (Settings.mk staged)) := by
  cases hr with
  | missing absent =>
    cases ha with
    | missing h => simp [ofMembers?, absent, h, recordingOfMembers?, ruleFilter?]
    | table h => simp [ofMembers?, absent, h, recordingOfMembers?, Option.map_eq_bind]
  | table found =>
    cases ha with
    | missing h => simp [ofMembers?, found, h, recording?, ruleFilter?]
    | table h => simp [ofMembers?, found, h, recording?, Option.map_eq_bind]

theorem ruleFilter?_eq_some_iff {staged : Staged} {s : Settings} :
    (ruleFilter? (.table analysis)).map (Settings.mk staged) = some s ↔
      (∀ v, analysis.lookup "rule-filter" = some v → ∃ raw, v = .string raw) ∧
        s = withFilter ⟨staged, none⟩ (analysis.lookup "rule-filter") := by
  cases found : analysis.lookup "rule-filter" with
  | none => simp [ruleFilter?, found, withFilter, eq_comm]
  | some v => cases v <;> simp [ruleFilter?, found, string?, withFilter, eq_comm]

theorem loadOrDefault_of_file {files : Files} {path : String} (h : files path = .file text.toUTF8) :
    loadOrDefault files path = (ofToml? text).getD default := by
  have decoded : String.fromUTF8? text.toUTF8 = some text := dif_pos text.isValidUTF8
  unfold loadOrDefault loadFrom
  simp only [h, decoded]
  cases ofToml? text <;> rfl

/-- Where a document has a table or nothing for the recording options, and likewise for the
analysis, its settings can be read if each option in it is known and has a string, and the rule
filter is a string if there is one. They are those that come of calling for the options in any
order and then setting the filter; the list of texts that the calls build up is that of the
settings. A file with the document gives them, or else the default settings. -/
theorem ofToml?_eq_setOptions (read : Toml.read? text = some document)
    (hr : HoldsTable document "recording" recording)
    (ha : HoldsTable document "analysis" analysis) :
    ((ofToml? text).isSome ↔
        (∀ m ∈ recording,
          m.1 ∈ ["disk", "max-age", "max-size", "name", "duration", "destination", "dump-on-exit"] ∧
            ∃ raw, m.2 = .string raw) ∧
          ∀ v, analysis.lookup "rule-filter" = some v → ∃ raw, v = .string raw) ∧
      (∀ s, ofToml? text = some s →
        ∃ calls : List (String × String), recording = calls.map (fun c => (c.1, .string c.2)) ∧
          ∀ order, order.Perm calls →
            (∃ t, default.setOptions order = .ok t ∧
              s = t.withFilter (analysis.lookup "rule-filter")) ∧
            setListedOptions [] order = .ok s.recording.entries) ∧
      ∀ files path, files path = .file text.toUTF8 →
        loadOrDefault files path = (ofToml? text).getD default := by
  have settings (s : Settings) : ofToml? text = some s ↔
      ∃ texts, recording = texts.map member ∧
        (∀ v, analysis.lookup "rule-filter" = some v → ∃ raw, v = .string raw) ∧
        s = withFilter ⟨Staged.empty.setAll texts, none⟩ (analysis.lookup "rule-filter") := by
    rw [ofToml?, read, Option.bind_some, ofMembers?_eq hr ha, Option.bind_eq_some_iff]
    simp only [recordingOfMembers?_eq_some_iff, ruleFilter?_eq_some_iff]
    constructor
    · rintro ⟨staged, ⟨texts, same, rfl⟩, filter⟩
      exact ⟨texts, same, filter⟩
    · rintro ⟨texts, same, filter⟩
      exact ⟨_, ⟨texts, same, rfl⟩, filter⟩
  refine ⟨?_, ?_, fun files path => loadOrDefault_of_file⟩
  · simp only [Option.isSome_iff_exists, settings, ← mem_range_member_iff, ← exists_texts_iff]
    constructor
    · rintro ⟨s, texts, same, filter, -⟩
      exact ⟨⟨texts, same⟩, filter⟩
    · rintro ⟨⟨texts, same⟩, filter⟩
      exact ⟨_, texts, same, filter, rfl⟩
  · intro s found
    obtain ⟨texts, rfl, -, rfl⟩ := (settings s).mp found
    -- No document names a member twice, hence no call undoes another.
    have different : (texts.map Prod.fst).Nodup := by
      have names := hr.nodup read
      rw [List.map_map] at names
      exact List.Nodup.of_map memberName (by rwa [List.map_map])
    refine ⟨texts.map call, by simp [call, member], ?_⟩
    intro order perm
    obtain ⟨other, rfl, shuffled⟩ := exists_texts_of_perm perm
    have calls := setOptions_call default other
    have same : Staged.empty.setAll other = Staged.empty.setAll texts :=
      Staged.empty.setAll_perm shuffled different
    refine ⟨⟨_, calls, ?_⟩, ?_⟩
    · exact congrArg (fun staged => withFilter ⟨staged, none⟩ _) same.symm
    · have listed := default.entries_setOptions (other.map call)
      rw [calls] at listed
      rw [recording_withFilter, ← same]
      exact listed.symm

/-- The options need not come in their order, and a member that means nothing does no harm. -/
theorem ofToml?_eq_setOptions_reordered :
    ∃ t, default.setOptions [("disk", "true"), ("name", "a")] = .ok t ∧
      ofToml? "[recording]\nname=\"a\"\ndisk=\"true\"\n[analysis]\nrule-filter=\"gc\"\nx=1" =
        some (t.withFilter (some (.string "gc"))) := by
  let text := "[recording]\nname=\"a\"\ndisk=\"true\"\n[analysis]\nrule-filter=\"gc\"\nx=1"
  have lines : Toml.readLines.readAll text.toList = some
      [("recording", .table .opened
          [("name", .value (.string "a")), ("disk", .value (.string "true"))]),
        ("analysis", .table .opened
          [("rule-filter", .value (.string "gc")), ("x", .value (.integer 1))])] := by cbv
  have read : Toml.read? text = some
      [("recording", .table [("name", .string "a"), ("disk", .string "true")]),
        ("analysis", .table [("rule-filter", .string "gc"), ("x", .integer 1)])] := by
    have unmarked : text.toList.head? ≠ some '\ufeff' := by decide
    rw [Toml.read?, if_neg unmarked, lines]
    rfl
  obtain ⟨success, settings, -⟩ := ofToml?_eq_setOptions read (.table rfl) (.table rfl)
  obtain ⟨s, found⟩ := Option.isSome_iff_exists.mp (success.mpr (by simp [List.lookup]))
  obtain ⟨calls, same, run⟩ := settings s found
  have injective : Function.Injective (fun c : String × String => (c.1, Toml.Value.string c.2)) := by
    intro c d h
    simpa [Prod.ext_iff] using h
  obtain rfl : [("name", "a"), ("disk", "true")] = calls := injective.list_map same
  obtain ⟨⟨t, called, rfl⟩, -⟩ := run [("disk", "true"), ("name", "a")] (.swap ..)
  exact ⟨t, called, found⟩

end Settings
end RuntimeMonitor

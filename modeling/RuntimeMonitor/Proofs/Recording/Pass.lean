import Mathlib.Data.List.Nodup
import RuntimeMonitor.Proofs.Recording.Attempts

/-!
# One pass over the staged options

The outcome of a pass, the calls that the sink receives and the failures that are reported belong
together exactly, whatever the sink answers: every text that can be read is sent once, and an
option fails if its own text cannot be read or its own call is answered by an error.
-/

namespace RuntimeMonitor.Recording

variable {σ ρ : Type}

theorem Staged.map_fst_entries (staged : Staged) :
    staged.entries.map Prod.fst = Key.all.filter (fun k => (staged.get? k).isSome) := by
  rw [entries, List.map_filterMap, ← List.filterMap_eq_filter]
  congr 1
  funext k
  cases found : staged.get? k <;> simp [Option.guard, found]

theorem Staged.nodup_keys (staged : Staged) : (staged.entries.map Prod.fst).Nodup := by
  rw [map_fst_entries]
  exact Key.nodup_all.filter _

/-- What a pass over staged texts gives, if these are the calls that the sink receives, with its
answers, and these the failures that are reported. -/
structure Staged.Passes (staged : Staged) (pass : Pass) (calls : List Call)
    (failures : List Failure) : Prop where
  /-- Each text that can be read is sent once, to its own option and in the order of options. -/
  calls_eq : calls.map (fun c => (c.1.key, c.1.value)) =
    Key.all.filterMap (fun k =>
      (staged.get? k).bind (fun raw => (k.read raw).toOption.map (k, ·)))
  applied_sublist : pass.applied.Sublist Key.all
  failed_sublist : pass.failed.Sublist Key.all
  disjoint : pass.applied.Disjoint pass.failed
  mem_or_mem_iff : ∀ k, k ∈ pass.applied ∨ k ∈ pass.failed ↔ (staged.get? k).isSome
  mem_failed_iff : ∀ k, k ∈ pass.failed ↔ ∃ raw, staged.get? k = some raw ∧
    ((∃ reason, k.read raw = .error reason) ∨ ∃ a e, a.key = k ∧ (a, .error e) ∈ calls)
  map_key_failures : failures.map Failure.key = pass.failed
  unreadable_mem_iff : ∀ k raw reason, .unreadable k raw reason ∈ failures ↔
    staged.get? k = some raw ∧ k.read raw = .error reason
  refused_mem_iff : ∀ k e, .refused k e ∈ failures ↔ ∃ a, a.key = k ∧ (a, .error e) ∈ calls

namespace Attempts

variable {sink : Sink σ} {staged : Staged} {s t : σ} {attempts : List Attempt}

theorem nodup_keys (h : Attempts sink staged.entries s attempts t) :
    (attempts.map Attempt.key).Nodup := by
  rw [h.map_key]
  exact staged.nodup_keys

theorem keys_sublist (h : Attempts sink staged.entries s attempts t) :
    (attempts.map Attempt.key).Sublist Key.all := by
  rw [h.map_key, staged.map_fst_entries]
  exact List.filter_sublist

theorem mem_keys_iff (h : Attempts sink staged.entries s attempts t) (k : Key) :
    k ∈ attempts.map Attempt.key ↔ (staged.get? k).isSome := by
  rw [h.map_key, staged.map_fst_entries, List.mem_filter]
  simp [Key.mem_all]

end Attempts

namespace Attempt

theorem failed_eq (attempts : List Attempt) :
    (outcome attempts).failed = (attempts.filter (·.failure?.isSome)).map key := by
  induction attempts with
  | nil => rfl
  | cons x rest ih =>
    cases hx : x.failure? with
    | none => simpa [outcome, hx] using ih
    | some f => simpa [outcome, hx, key_of_failure? hx] using ih

theorem refused_mem_iff {attempts : List Attempt} {k : Key} {e : SinkError} :
    .refused k e ∈ attempts.filterMap failure? ↔
      ∃ a, a.key = k ∧ (a, .error e) ∈ attempts.filterMap call? := by
  simp only [List.mem_filterMap, failure?_eq_refused_iff, call?_eq_some_iff]
  constructor
  · rintro ⟨_, mem, a, rfl, key⟩
    exact ⟨a, key, _, mem, rfl⟩
  · rintro ⟨a, key, _, mem, rfl⟩
    exact ⟨_, mem, a, rfl, key⟩

theorem unreadable_mem_iff {attempts : List Attempt} {k : Key} {raw : String}
    {reason : ValueError} :
    .unreadable k raw reason ∈ attempts.filterMap failure? ↔
      .unreadable k raw reason ∈ attempts := by
  simp only [List.mem_filterMap, failure?_eq_unreadable_iff, exists_eq_right]

theorem mem_failed_iff {attempts : List Attempt} {k : Key} :
    k ∈ (outcome attempts).failed ↔
      (∃ raw reason, .unreadable k raw reason ∈ attempts) ∨
        ∃ a e, a.key = k ∧ (a, .error e) ∈ attempts.filterMap call? := by
  simp only [outcome, List.mem_map, ← unreadable_mem_iff]
  constructor
  · rintro ⟨f, mem, rfl⟩
    cases f with
    | unreadable k raw reason => exact .inl ⟨raw, reason, mem⟩
    | refused k e =>
      obtain ⟨a, key, call⟩ := refused_mem_iff.mp mem
      exact .inr ⟨a, e, key, call⟩
  · rintro (⟨raw, reason, mem⟩ | ⟨a, e, key, call⟩)
    · exact ⟨_, mem, rfl⟩
    · exact ⟨.refused k e, refused_mem_iff.mpr ⟨a, key, call⟩, rfl⟩

theorem mem_applied_or_mem_failed {attempts : List Attempt} {k : Key} :
    k ∈ (outcome attempts).applied ∨ k ∈ (outcome attempts).failed ↔
      k ∈ attempts.map key := by
  rw [failed_eq, outcome, List.mem_map, List.mem_map, List.mem_map, ← exists_or]
  refine exists_congr fun x => ?_
  cases hx : x.failure? <;> simp [hx]

/-- An option that is attempted only once cannot both be applied and fail. -/
theorem disjoint_outcome {attempts : List Attempt} (distinct : (attempts.map key).Nodup) :
    (outcome attempts).applied.Disjoint (outcome attempts).failed := by
  rw [failed_eq]
  intro k applied failed
  obtain ⟨x, hx, rfl⟩ := List.mem_map.mp applied
  obtain ⟨y, hy, same⟩ := List.mem_map.mp failed
  rw [List.mem_filter] at hx hy
  obtain rfl : y = x := List.inj_on_of_nodup_map distinct hy.1 hx.1 same
  cases hf : y.failure? <;> simp [hf] at hx hy

end Attempt

/-- The list of attempts decides what the pass gives. -/
theorem Attempts.passes {sink : Sink σ} {staged : Staged} {s t : σ} {attempts : List Attempt}
    (h : Attempts sink staged.entries s attempts t) :
    staged.Passes (Attempt.outcome attempts) (attempts.filterMap Attempt.call?)
      (attempts.filterMap Attempt.failure?) where
  calls_eq := by
    rw [h.calls_eq, Staged.entries, List.filterMap_filterMap]
    congr 1
    funext k
    cases staged.get? k <;> rfl
  applied_sublist := (List.filter_sublist.map _).trans h.keys_sublist
  failed_sublist := by
    rw [Attempt.failed_eq]
    exact (List.filter_sublist.map _).trans h.keys_sublist
  disjoint := Attempt.disjoint_outcome h.nodup_keys
  mem_or_mem_iff k := by rw [Attempt.mem_applied_or_mem_failed, h.mem_keys_iff]
  mem_failed_iff k := by
    rw [Attempt.mem_failed_iff]
    simp only [h.unreadable_mem_iff, Staged.mem_entries]
    constructor
    · rintro (⟨raw, reason, staged, read⟩ | ⟨a, e, rfl, call⟩)
      · exact ⟨raw, staged, .inl ⟨reason, read⟩⟩
      · have key : a.key ∈ attempts.map Attempt.key := by
          obtain ⟨x, hx, sent⟩ := List.mem_filterMap.mp call
          exact List.mem_map.mpr ⟨x, hx, by rw [Attempt.call?_eq_some_iff.mp sent]; rfl⟩
        obtain ⟨raw, found⟩ := Option.isSome_iff_exists.mp ((h.mem_keys_iff a.key).mp key)
        exact ⟨raw, found, .inr ⟨a, e, rfl, call⟩⟩
    · rintro ⟨raw, staged, ⟨reason, read⟩ | sent⟩
      · exact .inl ⟨raw, reason, staged, read⟩
      · exact .inr sent
  map_key_failures := rfl
  unreadable_mem_iff k raw reason := by
    rw [Attempt.unreadable_mem_iff, h.unreadable_mem_iff, Staged.mem_entries]
  refused_mem_iff k e := Attempt.refused_mem_iff

/-- One pass over any staged texts, for any sink and whatever takes the failures. The sink is
called once for every text that can be read, which a trace of its calls shows, and no value is
rejected on the way to it. -/
theorem apply_passes (staged : Staged) (sink : Sink σ) (s : σ) :
    ∃ pass calls t failures,
      (∀ (ρ : Type) (report : ρ → Failure → ρ) (r : ρ),
        staged.apply sink report s r = (pass, t, failures.foldl report r) ∧
          staged.apply sink.traced report (s, []) r =
            (pass, (t, calls), failures.foldl report r)) ∧
      sink.answerAll (calls.map Prod.fst) s = (calls, t) ∧
      staged.Passes pass calls failures ∧
      ∀ k raw v, Key.read k raw = .ok v →
        ∃ a, a.key = k ∧ a.value = v ∧ ∀ s, sink.dispatch k v s = sink a s := by
  obtain ⟨attempts, t, h⟩ := Attempts.exists_attempts sink staged.entries s
  refine ⟨_, _, t, _, fun ρ report r => ⟨h.applyAll_eq report r, (h.traced []).applyAll_eq report r⟩,
    h.answerAll_eq, h.passes, fun k raw v read => ?_⟩
  rcases k.read_cases raw with ⟨reason, error⟩ | ⟨a, rfl, ok⟩
  · cases read.symm.trans error
  · obtain rfl : v = a.value := Except.ok.inj (read.symm.trans ok)
    exact ⟨a, rfl, rfl, sink.dispatch_value a⟩

end RuntimeMonitor.Recording

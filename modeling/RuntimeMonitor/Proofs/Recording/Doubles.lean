import Mathlib
import RuntimeMonitor.Proofs.Recording.Session
import RuntimeMonitor.Recording.Double

/-!
# Passes on a double

A pass on a double puts one call into its log for each staged text that can be read, whatever the
double rejects. It fails for the options whose text cannot be read and for those that this double
rejects, with one failure each.
-/

namespace RuntimeMonitor.Recording

/-- The failure of a staged text when it is applied to a double that rejects some options. -/
def failureOf? (rejects : List Key) (k : Key) (raw : String) : Option Failure :=
  match k.read raw with
  | .error reason => some (.unreadable k raw reason)
  | .ok _ =>
    if k ∈ rejects then some (.refused k (.rejected s!"mock rejects {k.label}")) else none

theorem isSome_failureOf? {rejects : List Key} {k : Key} {raw : String} :
    (failureOf? rejects k raw).isSome ↔ (∃ reason, k.read raw = .error reason) ∨ k ∈ rejects := by
  unfold failureOf?
  cases k.read raw with
  | error reason => simp
  | ok v => by_cases rejected : k ∈ rejects <;> simp [rejected]

theorem key_of_failureOf? {rejects : List Key} {k : Key} {raw : String} {f : Failure}
    (failed : failureOf? rejects k raw = some f) : f.key = k := by
  unfold failureOf? at failed
  split at failed
  · cases failed
    rfl
  · obtain ⟨-, refused⟩ := Option.ite_none_right_eq_some.mp failed
    cases refused
    rfl

namespace Staged

/-- Whether the text that is staged for an option can be read. -/
def Readable (staged : Staged) (k : Key) : Prop :=
  ∃ raw v, staged.get? k = some raw ∧ k.read raw = .ok v

/-- The failures of one pass, in the order of options. -/
def failures (staged : Staged) (rejects : List Key) : List Failure :=
  staged.entries.filterMap (fun e => failureOf? rejects e.1 e.2)

theorem mem_keys_failures_iff {staged : Staged} {rejects : List Key} {k : Key} :
    k ∈ (staged.failures rejects).map Failure.key ↔
      ∃ raw, staged.get? k = some raw ∧ ((∃ reason, k.read raw = .error reason) ∨ k ∈ rejects) := by
  simp only [failures, List.mem_map, List.mem_filterMap, ← isSome_failureOf?]
  constructor
  · rintro ⟨f, ⟨⟨j, raw⟩, staged, failed⟩, rfl⟩
    rw [key_of_failureOf? failed]
    exact ⟨raw, mem_entries.mp staged, Option.isSome_iff_exists.mpr ⟨f, failed⟩⟩
  · rintro ⟨raw, staged, failed⟩
    obtain ⟨f, failed⟩ := Option.isSome_iff_exists.mp failed
    exact ⟨f, ⟨(k, raw), mem_entries.mpr staged, failed⟩, key_of_failureOf? failed⟩

theorem nodup_keys_readings (staged : Staged) : (staged.readings.map Prod.fst).Nodup := by
  rw [List.Nodup, List.pairwise_map]
  apply staged.pairwise_before_readings.imp
  intro e e' before same
  rw [same] at before
  exact Nat.lt_irrefl _ before

theorem mem_keys_readings_iff {staged : Staged} {k : Key} :
    k ∈ staged.readings.map Prod.fst ↔ staged.Readable k := by
  simp [mem_readings_iff, Readable, exists_comm]

end Staged

namespace Attempts

variable {d : Double} {texts : List (Key × String)} {logs t : Logs} {attempts : List Attempt}

/-- All calls of a pass stand in the log behind those before, also the rejected ones. -/
theorem logs_eq (h : Attempts d.sink texts logs attempts t) :
    t = logs.put d.place (d.calls logs ++ (attempts.filterMap Attempt.call?).map Prod.fst) := by
  induction h with
  | nil =>
    funext place
    by_cases same : place = d.place <;> simp [same, Double.calls]
  | unreadable _ _ ih => exact ih
  | sent _ _ ih =>
    rw [ih]
    funext place
    by_cases same : place = d.place
    · simp [same, Attempt.call?, Double.sink, Double.calls, Sink.logging]
    · simp [same, Double.sink]

theorem failures_eq (h : Attempts d.sink texts logs attempts t) :
    attempts.filterMap Attempt.failure? =
      texts.filterMap (fun e => failureOf? d.rejects e.1 e.2) := by
  induction h with
  | nil => rfl
  | unreadable read _ ih =>
    simp only [List.filterMap_cons, Attempt.failure?, failureOf?, read, ih]
  | @sent a _ _ logs _ _ read _ ih =>
    have answer : (d.sink a logs).1 = if a.key ∈ d.rejects then
        .error (.rejected s!"mock rejects {a.key.label}") else .ok () := rfl
    simp only [List.filterMap_cons, failureOf?, read, ih, answer]
    by_cases rejected : a.key ∈ d.rejects <;> simp [rejected, Attempt.failure?]

open Classical in
/-- An option is called once if its text can be read, and not at all otherwise. -/
theorem callCount_eq {staged : Staged} (h : Attempts d.sink staged.entries logs attempts t)
    (k : Key) :
    callCount k ((attempts.filterMap Attempt.call?).map Prod.fst) =
      if staged.Readable k then 1 else 0 := by
  have calls : (attempts.filterMap Attempt.call?).map (fun c => (c.1.key, c.1.value)) =
      staged.readings := h.passes.calls_eq
  have keys : ((attempts.filterMap Attempt.call?).map Prod.fst).map Assignment.key =
      staged.readings.map Prod.fst := by
    rw [← calls, List.map_map, List.map_map]
    rfl
  calc callCount k ((attempts.filterMap Attempt.call?).map Prod.fst)
    _ = (((attempts.filterMap Attempt.call?).map Prod.fst).map Assignment.key).count k := by
      rw [List.count, List.countP_map, callCount]
      rfl
    _ = if k ∈ staged.readings.map Prod.fst then 1 else 0 := by
      rw [keys, staged.nodup_keys_readings.count]
    _ = if staged.Readable k then 1 else 0 := by simp only [Staged.mem_keys_readings_iff]

end Attempts

theorem callCount_append (k : Key) (log more : List Assignment) :
    callCount k (log ++ more) = callCount k log + callCount k more := List.countP_append

theorem Reporter.foldl_report (earlier failures : List Failure) :
    failures.foldl report (.collecting earlier) = .collecting (earlier ++ failures) := by
  induction failures generalizing earlier with
  | nil => rw [List.append_nil, List.foldl_nil]
  | cons f rest ih => rw [List.foldl_cons, report, ih, List.append_assoc, List.singleton_append]

end RuntimeMonitor.Recording

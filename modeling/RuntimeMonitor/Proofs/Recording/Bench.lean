import RuntimeMonitor.Proofs.Recording.Doubles

/-!
# Sessions on a bench of doubles

A session stages texts, applies them to copies of one double, makes further copies, lets some of
them reject options, and resets the log. At every point all copies show the same log. It holds one
call to an option for each pass since the last reset in which the option's text could be read,
whichever copy the pass went to and whatever that copy rejects. The reporter keeps one failure for
each option that failed in some pass, and no reset takes it away.
-/

namespace RuntimeMonitor.Recording

/-- Staged texts, a reporter, and doubles under any names. -/
structure Bench (ι : Type) where
  staged : Staged
  reporter : Reporter
  logs : Logs
  doubles : ι → Double

inductive Act (ι : Type)
  | set (k : Key) (raw : String)
  | unset (k : Key)
  | clear
  | apply (i : ι)
  | copy (source target : ι)
  | reject (i : ι) (k : Key)
  | reset (i : ι)

variable {ι : Type}

/-- The edit of the staged texts that an act makes. -/
def Act.edit? : Act ι → Option Step
  | set k raw => some (.set k raw)
  | unset k => some (.unset k)
  | clear => some .clear
  | _ => none

/-- What is staged after a session. Only its edits have a say in that. -/
def stagedAfter (history : List (Act ι)) : Staged := .after (history.filterMap Act.edit?)

/-- What the doubles reject after a session. Only copies and rejections have a say in that. -/
def rejectsAfter [DecidableEq ι] (rejects : ι → List Key) (history : List (Act ι)) :
    ι → List Key :=
  history.foldl (fun current act => match act with
    | .copy source target => Function.update current target (current source)
    | .reject i k => Function.update current i (k :: current i)
    | _ => current) rejects

/-- The points of a session at which the text of an option could be read and was applied, up to
which nothing has been reset since. -/
def sending (k : Key) (history : List (Act ι)) : Set (List (Act ι)) :=
  {before | ∃ i later, history = before ++ .apply i :: later ∧ (∀ j, .reset j ∉ later) ∧
    (stagedAfter before).Readable k}

/-- The acts of a session, each behind all acts before it. -/
def points (before : List (Act ι)) : List (Act ι) → List (List (Act ι) × Act ι)
  | [] => []
  | act :: later => (before, act) :: points (before ++ [act]) later

theorem points_append_singleton (before history : List (Act ι)) (act : Act ι) :
    points before (history ++ [act]) = points before history ++ [(before ++ history, act)] := by
  induction history generalizing before with
  | nil => simp [points]
  | cons first later ih => simp [points, ih]

theorem mem_sending_append_singleton {k : Key} {history before : List (Act ι)} {act : Act ι} :
    before ∈ sending k (history ++ [act]) ↔
      (∀ j, act ≠ .reset j) ∧ before ∈ sending k history ∨
        (∃ i, act = .apply i) ∧ before = history ∧ (stagedAfter history).Readable k := by
  constructor
  · rintro ⟨i, later, split, unreset, readable⟩
    rcases append_singleton_eq_append_cons_iff.mp split with ⟨rfl, last, -⟩ | ⟨rest, rfl, rfl⟩
    · exact .inr ⟨⟨i, last⟩, rfl, readable⟩
    · refine .inl ⟨?_, i, rest, rfl, ?_, readable⟩
      · rintro j rfl
        exact unreset j (by simp)
      · intro j earlier
        exact unreset j (List.mem_append_left _ earlier)
  · rintro (⟨other, i, later, rfl, unreset, readable⟩ | ⟨⟨i, rfl⟩, rfl, readable⟩)
    · refine ⟨i, later ++ [act], by simp, ?_, readable⟩
      intro j member
      rcases List.mem_append.mp member with earlier | last
      · exact unreset j earlier
      · exact other j (List.mem_singleton.mp last).symm
    · exact ⟨i, [], rfl, nofun, readable⟩

theorem finite_sending (k : Key) (history : List (Act ι)) : (sending k history).Finite := by
  apply (List.finite_toSet history.inits).subset
  rintro before ⟨i, later, rfl, -⟩
  exact (List.mem_inits _ _).mpr (List.prefix_append _ _)

/-- A point of a session is not its end. -/
theorem not_mem_sending_self (k : Key) (history : List (Act ι)) : history ∉ sending k history := by
  rintro ⟨i, later, split, -⟩
  have length := congrArg List.length split
  simp at length

theorem sending_of_reset (k : Key) (history : List (Act ι)) (i : ι) :
    sending k (history ++ [.reset i]) = ∅ := by
  ext before
  simp [mem_sending_append_singleton]

open Classical in
theorem ncard_sending_of_apply (k : Key) (history : List (Act ι)) (i : ι) :
    (sending k (history ++ [.apply i])).ncard =
      (sending k history).ncard + if (stagedAfter history).Readable k then 1 else 0 := by
  by_cases readable : (stagedAfter history).Readable k
  · have more : sending k (history ++ [.apply i]) = insert history (sending k history) := by
      ext before
      simp [mem_sending_append_singleton, readable, or_comm]
    rw [more, Set.ncard_insert_of_notMem (not_mem_sending_self k history) (finite_sending k history),
      if_pos readable]
  · have same : sending k (history ++ [.apply i]) = sending k history := by
      ext before
      simp [mem_sending_append_singleton, readable]
    rw [same, if_neg readable, Nat.add_zero]

theorem sending_of_ne {k : Key} {history : List (Act ι)} {act : Act ι} (idle : ∀ i, act ≠ .apply i)
    (other : ∀ i, act ≠ .reset i) : sending k (history ++ [act]) = sending k history := by
  ext before
  simp [mem_sending_append_singleton, idle, other]

theorem stagedAfter_append_singleton (history : List (Act ι)) (act : Act ι) :
    stagedAfter (history ++ [act]) = match act.edit? with
      | none => stagedAfter history
      | some step => (stagedAfter history).perform step := by
  rw [stagedAfter, List.filterMap_append]
  cases edit : act.edit? with
  | none => simp [edit, stagedAfter]
  | some step => simp [edit, Staged.after_append_singleton, stagedAfter]

theorem rejectsAfter_append_singleton [DecidableEq ι] (rejects : ι → List Key)
    (history : List (Act ι)) (act : Act ι) :
    rejectsAfter rejects (history ++ [act]) = match act with
      | .copy source target => Function.update (rejectsAfter rejects history) target
          (rejectsAfter rejects history source)
      | .reject i k => Function.update (rejectsAfter rejects history) i
          (k :: rejectsAfter rejects history i)
      | _ => rejectsAfter rejects history := List.foldl_append

/-- The failures that an act adds to those before. -/
def failuresAt [DecidableEq ι] (rejects : ι → List Key) (before : List (Act ι)) :
    Act ι → List Failure
  | .apply i => (stagedAfter before).failures (rejectsAfter rejects before i)
  | _ => []

namespace Bench

/-- One pass, on the double of that name. -/
def apply (b : Bench ι) (i : ι) : Pass × Bench ι :=
  let (pass, logs, reporter) := b.staged.apply (b.doubles i).sink Reporter.report b.logs b.reporter
  (pass, { b with logs, reporter })

open Classical in
/-- What a pass on a double gives, and what it leaves behind. -/
theorem exists_apply (b : Bench ι) (i : ι) {earlier : List Failure}
    (collecting : b.reporter = .collecting earlier) :
    ∃ pass calls, b.apply i = (pass, { b with
        logs := b.logs.put (b.doubles i).place ((b.doubles i).calls b.logs ++ calls)
        reporter := .collecting (earlier ++ b.staged.failures (b.doubles i).rejects) }) ∧
      pass.failed = (b.staged.failures (b.doubles i).rejects).map Failure.key ∧
      ∀ k, callCount k calls = if b.staged.Readable k then 1 else 0 := by
  obtain ⟨attempts, t, h⟩ := Attempts.exists_attempts (b.doubles i).sink b.staged.entries b.logs
  refine ⟨Attempt.outcome attempts, (attempts.filterMap Attempt.call?).map Prod.fst, ?_, ?_, ?_⟩
  · rw [apply, Staged.apply, h.applyAll_eq, collecting, h.failures_eq, Reporter.foldl_report,
      h.logs_eq]
    rfl
  · rw [Attempt.outcome, h.failures_eq]
    rfl
  · exact h.callCount_eq

variable [DecidableEq ι]

/-- Copies of one double, each with the options that it rejects, and nothing logged so far. -/
def start (rejects : ι → List Key) : Bench ι where
  staged := .empty
  reporter := .collecting []
  logs := fun _ => []
  doubles i := ⟨0, rejects i⟩

def perform (b : Bench ι) : Act ι → Bench ι
  | .set k raw => { b with staged := b.staged.set k raw }
  | .unset k => { b with staged := b.staged.unset k }
  | .clear => { b with staged := .empty }
  | .apply i => (b.apply i).2
  | .copy source target => { b with doubles := Function.update b.doubles target (b.doubles source) }
  | .reject i k => { b with doubles := Function.update b.doubles i ((b.doubles i).rejecting k) }
  | .reset i => { b with logs := (b.doubles i).reset b.logs }

def after (rejects : ι → List Key) (history : List (Act ι)) : Bench ι :=
  history.foldl perform (start rejects)

/-- The state of a bench, told from the session alone. -/
structure Follows (rejects : ι → List Key) (history : List (Act ι)) (b : Bench ι) : Prop where
  staged : b.staged = stagedAfter history
  doubles : ∀ i, b.doubles i = ⟨0, rejectsAfter rejects history i⟩
  reporter : b.reporter =
    .collecting ((points [] history).flatMap (fun p => failuresAt rejects p.1 p.2))
  callCount : ∀ k, callCount k (b.logs 0) = (sending k history).ncard

namespace Follows

variable {rejects : ι → List Key} {history : List (Act ι)} {b : Bench ι} {act : Act ι}

theorem start (rejects : ι → List Key) : Follows rejects [] (start rejects) where
  staged := rfl
  doubles _ := rfl
  reporter := rfl
  callCount k := by
    have none : sending k ([] : List (Act ι)) = ∅ := by
      ext before
      simp [sending]
    rw [none, Set.ncard_empty]
    rfl

theorem apply (h : b.Follows rejects history) (i : ι) :
    (b.apply i).2.Follows rejects (history ++ [.apply i]) := by
  classical
  obtain ⟨pass, calls, applied, -, counted⟩ := b.exists_apply i h.reporter
  rw [applied]
  refine ⟨?_, ?_, ?_, ?_⟩
  · rw [stagedAfter_append_singleton]
    exact h.staged
  · rw [rejectsAfter_append_singleton]
    exact h.doubles
  · rw [points_append_singleton, List.flatMap_append, List.flatMap_singleton, h.staged, h.doubles]
    rfl
  · intro k
    -- Every double logs at the same place, so the pass adds to the one log that is counted.
    have log : (b.doubles i).calls b.logs = b.logs 0 := by rw [Double.calls, h.doubles]
    simp only [h.doubles i, Logs.put_apply, if_pos]
    rw [← h.doubles i, log, callCount_append, h.callCount, counted, h.staged, ncard_sending_of_apply]

theorem reset (h : b.Follows rejects history) (i : ι) :
    (b.perform (.reset i)).Follows rejects (history ++ [.reset i]) := by
  refine ⟨?_, ?_, ?_, ?_⟩
  · rw [stagedAfter_append_singleton]
    exact h.staged
  · rw [rejectsAfter_append_singleton]
    exact h.doubles
  · have none : failuresAt rejects history (.reset i) = [] := rfl
    rw [points_append_singleton, List.flatMap_append, List.flatMap_singleton, List.nil_append, none,
      List.append_nil]
    exact h.reporter
  · intro k
    have empty : (b.perform (.reset i)).logs 0 = [] := by
      simp [Bench.perform, Double.reset, h.doubles]
    rw [empty, sending_of_reset, Set.ncard_empty]
    rfl

/-- An act that neither applies nor resets leaves the log and the reporter alone. -/
theorem of_quiet {b' : Bench ι} (h : b.Follows rejects history) (idle : ∀ i, act ≠ .apply i)
    (unreset : ∀ i, act ≠ .reset i) (staged : b'.staged = stagedAfter (history ++ [act]))
    (doubles : ∀ i, b'.doubles i = ⟨0, rejectsAfter rejects (history ++ [act]) i⟩)
    (reporter : b'.reporter = b.reporter) (logs : b'.logs = b.logs) :
    b'.Follows rejects (history ++ [act]) where
  staged := staged
  doubles := doubles
  reporter := by
    have none : failuresAt rejects history act = [] := by
      cases act with
      | apply i => exact absurd rfl (idle i)
      | _ => rfl
    rw [reporter, h.reporter, points_append_singleton, List.flatMap_append, List.flatMap_singleton,
      List.nil_append, none, List.append_nil]
  callCount k := by rw [logs, h.callCount, sending_of_ne idle unreset]

/-- An edit of the staged texts is one of three acts, none of which concerns the doubles. -/
theorem edit (h : b.Follows rejects history) (step : Step) (edit : act.edit? = some step) :
    Follows rejects (history ++ [act]) { b with staged := b.staged.perform step } := by
  refine h.of_quiet ?_ ?_ ?_ ?_ rfl rfl
  · rintro i rfl
    cases edit
  · rintro i rfl
    cases edit
  · rw [stagedAfter_append_singleton, edit, h.staged]
  · rw [rejectsAfter_append_singleton]
    cases act with
    | set | unset | clear => exact h.doubles
    | apply | copy | reject | reset => cases edit

theorem perform (h : b.Follows rejects history) (act : Act ι) :
    (b.perform act).Follows rejects (history ++ [act]) := by
  cases act with
  | apply i => exact h.apply i
  | reset i => exact h.reset i
  | set k raw => exact h.edit (.set k raw) rfl
  | unset k => exact h.edit (.unset k) rfl
  | clear => exact h.edit .clear rfl
  | copy source target =>
    refine h.of_quiet nofun nofun ?_ ?_ rfl rfl
    · rw [stagedAfter_append_singleton]
      exact h.staged
    · intro i
      rw [rejectsAfter_append_singleton]
      by_cases same : i = target
      · simp [Bench.perform, same, h.doubles]
      · simp [Bench.perform, same, h.doubles]
  | reject j k =>
    refine h.of_quiet nofun nofun ?_ ?_ rfl rfl
    · rw [stagedAfter_append_singleton]
      exact h.staged
    · intro i
      rw [rejectsAfter_append_singleton]
      by_cases same : i = j
      · simp [Bench.perform, same, h.doubles, Double.rejecting]
      · simp [Bench.perform, same, h.doubles]

end Follows

theorem follows_after (rejects : ι → List Key) (history : List (Act ι)) :
    (after rejects history).Follows rejects history := by
  induction history using List.reverseRecOn with
  | nil => exact .start rejects
  | append_singleton history act ih =>
    rw [after, List.foldl_append]
    exact ih.perform act

end Bench

/-- At every point of a session the texts that are staged are the latest ones that were set, and all
doubles show the same log. How often an option stands in it is the number of passes since the last
reset in which its text could be read. A pass made now fails for the options whose text cannot be
read or that the very double rejects, with one failure each, and the reporter holds the failures of
all passes in their order. -/
theorem doubles_count_passes_and_reporter_keeps_failures [DecidableEq ι] (rejects : ι → List Key)
    (history : List (Act ι)) :
    let b := Bench.after rejects history
    b.staged = stagedAfter history ∧
      (∀ k raw, (stagedAfter history).get? k = some raw ↔
        Latest (history.filterMap Act.edit?) k raw) ∧
      (∀ i j, (b.doubles i).calls b.logs = (b.doubles j).calls b.logs) ∧
      (∀ i k, (b.doubles i).count k b.logs = (sending k history).ncard) ∧
      (∀ i k, k ∈ (b.apply i).1.failed ↔ ∃ raw, (stagedAfter history).get? k = some raw ∧
        ((∃ reason, k.read raw = .error reason) ∨ k ∈ rejectsAfter rejects history i)) ∧
      (∀ i, (failuresAt rejects history (.apply i)).map Failure.key = (b.apply i).1.failed) ∧
      b.reporter =
        .collecting ((points [] history).flatMap (fun p => failuresAt rejects p.1 p.2)) := by
  intro b
  have h : b.Follows rejects history := Bench.follows_after rejects history
  have calls (i : ι) : (b.doubles i).calls b.logs = b.logs 0 := by rw [Double.calls, h.doubles]
  have failed (i : ι) :
      (failuresAt rejects history (.apply i)).map Failure.key = (b.apply i).1.failed := by
    obtain ⟨pass, _, applied, failed, -⟩ := b.exists_apply i h.reporter
    rw [applied, failed, h.staged, h.doubles]
    rfl
  refine ⟨h.staged, fun k raw => Staged.get?_after_iff, ?_, ?_, ?_, failed, h.reporter⟩
  · intro i j
    rw [calls, calls]
  · intro i k
    rw [Double.count, calls, h.callCount]
  · intro i k
    rw [← failed]
    exact Staged.mem_keys_failures_iff

/-- Three passes on a double and its copy, the last two behind a reset. The copy rejects the name
and logs it all the same; a duration that cannot be read is logged nowhere. The age that was staged
and taken back counts for the first pass only, which was reset. -/
theorem doubles_count_passes_and_reporter_keeps_failures_two_copies :
    let edits : List (Act Bool) :=
      [.set .name "first", .set .duration "soon", .set .maxAge "1 h", .set .name "second"]
    let history := edits ++ [.apply false, .reset true, .unset .maxAge, .copy false true,
      .reject true .name, .apply true, .apply false]
    let b := Bench.after (fun _ => []) history
    Latest (history.filterMap Act.edit?) .name "second" ∧
      (b.doubles true).calls b.logs = (b.doubles false).calls b.logs ∧
      (sending .name history).ncard = 2 ∧ (sending .maxAge history).ncard = 0 ∧
      (sending .duration history).ncard = 0 ∧
      (b.apply true).1.failed = [.name, .duration] ∧ (b.apply false).1.failed = [.duration] ∧
      b.reporter.collected.map Failure.key = [.duration, .name, .duration, .duration] := by
  intro edits history b
  obtain ⟨-, latest, calls, count, -⟩ :=
    doubles_count_passes_and_reporter_keeps_failures (fun _ => []) history
  refine ⟨(latest _ _).mp ?_, calls _ _, ?_, ?_, ?_, ?_, ?_, ?_⟩
  · decide
  · rw [← count true]
    decide
  · rw [← count true]
    decide
  · rw [← count true]
    decide
  · decide
  · decide
  · decide

end RuntimeMonitor.Recording

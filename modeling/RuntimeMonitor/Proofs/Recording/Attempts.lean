import RuntimeMonitor.Recording.Apply

/-!
# The attempts of a pass

What becomes of each staged text is one attempt: either it cannot be read or it is sent to the
sink, which answers. The two lists of the outcome, the calls that the sink receives and the
failures that are reported can all be read off the list of attempts.
-/

namespace RuntimeMonitor.Recording

variable {σ ρ : Type}

theorem Key.read_cases (k : Key) (raw : String) :
    (∃ reason, k.read raw = .error reason) ∨
      ∃ a : Assignment, a.key = k ∧ k.read raw = .ok a.value := by
  cases read : k.read raw with
  | error reason => exact .inl ⟨reason, rfl⟩
  | ok v =>
    obtain ⟨a, ha⟩ := Assignment.exists_of_domain_eq (domain_of_read read)
    obtain ⟨key, value⟩ := Assignment.ofValue?_eq_some_iff.mp ha
    exact .inr ⟨a, key, by rw [value]⟩

/-- No value that was read for an option is rejected before the sink sees it. -/
theorem Sink.dispatch_value (sink : Sink σ) (a : Assignment) (s : σ) :
    sink.dispatch a.key a.value s = sink a s := by
  rw [dispatch, Assignment.ofValue?_eq_some_iff.mpr ⟨rfl, rfl⟩]

/-- An assignment that was sent, with the answer. -/
abbrev Call := Assignment × Except SinkError Unit

/-- The same sink, with a list of all calls that it receives. -/
def Sink.traced (sink : Sink σ) : Sink (σ × List Call) := fun a (s, calls) =>
  ((sink a s).1, (sink a s).2, calls ++ [(a, (sink a s).1)])

/-- The answers of a sink to assignments that are sent to it one after the other. -/
def Sink.answerAll (sink : Sink σ) : List Assignment → σ → List Call × σ
  | [], s => ([], s)
  | a :: rest, s =>
    let (calls, t) := sink.answerAll rest (sink a s).2
    ((a, (sink a s).1) :: calls, t)

inductive Attempt where
  | unreadable (key : Key) (raw : String) (reason : ValueError)
  | sent (a : Assignment) (answer : Except SinkError Unit)

namespace Attempt

def key : Attempt → Key
  | unreadable key _ _ => key
  | sent a _ => a.key

def call? : Attempt → Option Call
  | unreadable _ _ _ => none
  | sent a answer => some (a, answer)

def failure? : Attempt → Option Failure
  | unreadable key raw reason => some (.unreadable key raw reason)
  | sent a (.error e) => some (.refused a.key e)
  | sent _ (.ok ()) => none

theorem key_of_failure? {x : Attempt} {f : Failure} (h : x.failure? = some f) : f.key = x.key := by
  rcases x with _ | ⟨a, _ | _⟩ <;> cases h <;> rfl

theorem failure?_eq_unreadable_iff {x : Attempt} {k : Key} {raw : String} {reason : ValueError} :
    x.failure? = some (.unreadable k raw reason) ↔ x = .unreadable k raw reason := by
  rcases x with _ | ⟨a, _ | _⟩ <;> simp [failure?]

theorem failure?_eq_refused_iff {x : Attempt} {k : Key} {e : SinkError} :
    x.failure? = some (.refused k e) ↔ ∃ a, x = .sent a (.error e) ∧ a.key = k := by
  rcases x with _ | ⟨a, _ | _⟩ <;> simp [failure?, and_assoc, and_comm]

theorem call?_eq_some_iff {x : Attempt} {a : Assignment} {answer : Except SinkError Unit} :
    x.call? = some (a, answer) ↔ x = .sent a answer := by
  rcases x with _ | _ <;> simp [call?]

/-- The outcome of a pass that consists of these attempts. -/
def outcome (attempts : List Attempt) : Pass where
  applied := (attempts.filter (·.failure?.isNone)).map key
  failed := (attempts.filterMap failure?).map Failure.key

end Attempt

/-- The attempts at texts, and the state of the sink behind them. -/
inductive Attempts (sink : Sink σ) : List (Key × String) → σ → List Attempt → σ → Prop
  | nil {s} : Attempts sink [] s [] s
  | unreadable {k raw reason texts s attempts t} :
      k.read raw = .error reason → Attempts sink texts s attempts t →
      Attempts sink ((k, raw) :: texts) s (.unreadable k raw reason :: attempts) t
  | sent {a raw texts s attempts t} :
      a.key.read raw = .ok a.value → Attempts sink texts (sink a s).2 attempts t →
      Attempts sink ((a.key, raw) :: texts) s (.sent a (sink a s).1 :: attempts) t

namespace Attempts

variable {sink : Sink σ} {texts : List (Key × String)} {s t : σ} {attempts : List Attempt}

theorem exists_attempts (sink : Sink σ) (texts : List (Key × String)) (s : σ) :
    ∃ attempts t, Attempts sink texts s attempts t := by
  induction texts generalizing s with
  | nil => exact ⟨[], s, .nil⟩
  | cons e texts ih =>
    obtain ⟨k, raw⟩ := e
    rcases k.read_cases raw with ⟨reason, read⟩ | ⟨a, rfl, read⟩
    · obtain ⟨attempts, t, h⟩ := ih s
      exact ⟨_, t, .unreadable read h⟩
    · obtain ⟨attempts, t, h⟩ := ih (sink a s).2
      exact ⟨_, t, .sent read h⟩

/-- A pass makes just these attempts, and reports the failures among them in order. -/
theorem applyAll_eq (h : Attempts sink texts s attempts t) (report : ρ → Failure → ρ) (r : ρ) :
    applyAll sink report texts s r =
      (Attempt.outcome attempts, t, (attempts.filterMap Attempt.failure?).foldl report r) := by
  induction h generalizing r with
  | nil => rfl
  | unreadable read _ ih =>
    simp only [applyAll, applyOne, read, ih]
    rfl
  | @sent a _ _ s _ _ read _ ih =>
    simp only [applyAll, applyOne, read, Sink.dispatch_value]
    rcases answer : sink a s with ⟨_ | _, s'⟩
    all_goals
      rw [answer] at ih
      simp only [ih]
      rfl

/-- A trace does not change what a sink answers, and holds the calls in order. -/
theorem traced (h : Attempts sink texts s attempts t) (calls : List Call) :
    Attempts sink.traced texts (s, calls) attempts
      (t, calls ++ attempts.filterMap Attempt.call?) := by
  induction h generalizing calls with
  | nil => simpa using .nil
  | unreadable read _ ih => exact .unreadable read (ih calls)
  | @sent a _ _ s _ _ read _ ih =>
    have rest := ih (calls ++ [(a, (sink a s).1)])
    rw [List.append_assoc] at rest
    exact .sent read rest

theorem answerAll_eq (h : Attempts sink texts s attempts t) :
    sink.answerAll ((attempts.filterMap Attempt.call?).map Prod.fst) s =
      (attempts.filterMap Attempt.call?, t) := by
  induction h with
  | nil => rfl
  | unreadable _ _ ih => exact ih
  | sent _ _ ih =>
    simp only [List.filterMap_cons, Attempt.call?, List.map_cons, Sink.answerAll, ih]

theorem map_key (h : Attempts sink texts s attempts t) :
    attempts.map Attempt.key = texts.map Prod.fst := by
  induction h with
  | nil => rfl
  | unreadable _ _ ih | sent _ _ ih => exact congrArg _ ih

/-- The calls are the texts that can be read, each sent to its own option as what it was read. -/
theorem calls_eq (h : Attempts sink texts s attempts t) :
    (attempts.filterMap Attempt.call?).map (fun c => (c.1.key, c.1.value)) =
      texts.filterMap (fun e => (e.1.read e.2).toOption.map (e.1, ·)) := by
  induction h with
  | nil => rfl
  | unreadable read _ ih =>
    simpa [List.filterMap_cons, read, Attempt.call?, Except.toOption] using ih
  | sent read _ ih =>
    simpa [List.filterMap_cons, read, Attempt.call?, Except.toOption] using ih

theorem unreadable_mem_iff (h : Attempts sink texts s attempts t) {k : Key} {raw : String}
    {reason : ValueError} :
    .unreadable k raw reason ∈ attempts ↔ (k, raw) ∈ texts ∧ k.read raw = .error reason := by
  induction h with
  | nil => simp
  | unreadable read _ ih =>
    simp only [List.mem_cons, ih, Attempt.unreadable.injEq, Prod.mk.injEq]
    constructor
    · rintro (⟨rfl, rfl, rfl⟩ | ⟨mem, error⟩)
      · exact ⟨.inl ⟨rfl, rfl⟩, read⟩
      · exact ⟨.inr mem, error⟩
    · rintro ⟨⟨rfl, rfl⟩ | mem, error⟩
      · exact .inl ⟨rfl, rfl, by simpa [error] using read⟩
      · exact .inr ⟨mem, error⟩
  | sent read _ ih =>
    simp only [List.mem_cons, ih, reduceCtorEq, false_or, Prod.mk.injEq]
    constructor
    · exact fun ⟨mem, error⟩ => ⟨.inr mem, error⟩
    · rintro ⟨⟨rfl, rfl⟩ | mem, error⟩
      · simp [error] at read
      · exact ⟨mem, error⟩

end Attempts
end RuntimeMonitor.Recording

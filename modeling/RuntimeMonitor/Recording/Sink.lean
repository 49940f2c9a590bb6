import RuntimeMonitor.Recording.Assignment

/-!
# Sinks

A sink receives assignments. It may answer each of them with an error, and the answer may depend
on all that the sink has seen.
-/

namespace RuntimeMonitor.Recording

inductive SinkError where
  | rejected (reason : String)
  | unavailable (reason : String)
  deriving DecidableEq, Repr

def SinkError.message : SinkError → String
  | rejected reason => s!"value rejected: {reason}"
  | unavailable reason => s!"sink unavailable: {reason}"

/-- How a sink with states `σ` takes an assignment. -/
abbrev Sink (σ : Type) := Assignment → σ → Except SinkError Unit × σ

namespace Sink

/-- Sends a value to an option. A value of another kind than the option takes is rejected, and
the sink does not see it. -/
def dispatch {σ : Type} (sink : Sink σ) (k : Key) (v : Value) (s : σ) :
    Except SinkError Unit × σ :=
  match Assignment.ofValue? k v with
  | some a => sink a s
  | none =>
    (.error (.rejected s!"{v.describe} is not a {k.domain.describe} value for {k.label}"), s)

/-- A sink that logs every assignment and rejects those of the given options. -/
def logging (rejects : List Key) : Sink (List Assignment) := fun a log =>
  (if a.key ∈ rejects then .error (.rejected s!"mock rejects {a.key.label}") else .ok (),
   log ++ [a])

/-- Lets the given options fail before they reach the sink. -/
def withOutages {σ : Type} (outages : List (Key × String)) (sink : Sink σ) : Sink σ := fun a s =>
  match outages.lookup a.key with
  | some reason => (.error (.unavailable reason), s)
  | none => sink a s

end Sink

/-- How many of the logged assignments set the option. -/
def callCount (k : Key) (log : List Assignment) : Nat := log.countP (fun a => a.key = k)

end RuntimeMonitor.Recording

import RuntimeMonitor.Recording.Sink
import RuntimeMonitor.Recording.Staged

/-!
# Applying staged options

Every staged text is read and sent to the sink, in the order in which the options are declared.
A failure is reported and does not keep the others from being applied.
-/

namespace RuntimeMonitor.Recording

inductive Failure where
  | unreadable (key : Key) (raw : String) (reason : ValueError)
  | refused (key : Key) (source : SinkError)
  deriving DecidableEq, Repr

namespace Failure

def key : Failure → Key
  | unreadable key _ _ => key
  | refused key _ => key

def message : Failure → String
  | unreadable key raw reason =>
    s!"cannot parse {key.label} value {Text.quote raw}: {reason.message}"
  | refused key source => s!"sink rejected {key.label}: {source.message}"

end Failure

/-- What becomes of reported failures. -/
inductive Reporter where
  | discarding
  | collecting (failures : List Failure)
  deriving DecidableEq, Repr

namespace Reporter

def collected : Reporter → List Failure
  | discarding => []
  | collecting failures => failures

def report : Reporter → Failure → Reporter
  | discarding, _ => discarding
  | collecting failures, failure => collecting (failures ++ [failure])

end Reporter

/-- The outcome of one pass: the options that were applied and those that failed. -/
structure Pass where
  applied : List Key := []
  failed : List Key := []
  deriving DecidableEq, Repr

def Pass.isClean (p : Pass) : Bool := p.failed.isEmpty

variable {σ ρ : Type}

def applyOne (sink : Sink σ) (k : Key) (raw : String) (s : σ) : Except Failure Unit × σ :=
  match k.read raw with
  | .error reason => (.error (.unreadable k raw reason), s)
  | .ok v =>
    match sink.dispatch k v s with
    | (.ok (), s) => (.ok (), s)
    | (.error source, s) => (.error (.refused k source), s)

/-- Applies staged texts in order. Any type of states can take the failures, one by one. -/
def applyAll (sink : Sink σ) (report : ρ → Failure → ρ) :
    List (Key × String) → σ → ρ → Pass × σ × ρ
  | [], s, r => ({}, s, r)
  | (k, raw) :: rest, s, r =>
    match applyOne sink k raw s with
    | (.ok (), s) =>
      let (pass, s, r) := applyAll sink report rest s r
      ({ pass with applied := k :: pass.applied }, s, r)
    | (.error failure, s) =>
      let (pass, s, r) := applyAll sink report rest s (report r failure)
      ({ pass with failed := k :: pass.failed }, s, r)

def Staged.apply (staged : Staged) (sink : Sink σ) (report : ρ → Failure → ρ) (s : σ) (r : ρ) :
    Pass × σ × ρ :=
  applyAll sink report staged.entries s r

end RuntimeMonitor.Recording

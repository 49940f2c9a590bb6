import RuntimeMonitor.Recording.Apply

/-!
# Doubles

A double stands in for a real sink. It logs every assignment, also those that it rejects. Copies
of a double log to the same place, but what one of them rejects is its own affair.
-/

namespace RuntimeMonitor.Recording

/-- The logs that doubles refer to, by their places. -/
abbrev Logs := Nat → List Assignment

def Logs.put (logs : Logs) (place : Nat) (log : List Assignment) : Logs := fun other =>
  if other = place then log else logs other

@[simp] theorem Logs.put_apply (logs : Logs) (place other : Nat) (log : List Assignment) :
    logs.put place log other = if other = place then log else logs other := rfl

structure Double where
  place : Nat
  rejects : List Key := []
  deriving DecidableEq, Repr

namespace Double

def rejecting (d : Double) (k : Key) : Double := { d with rejects := k :: d.rejects }

def calls (d : Double) (logs : Logs) : List Assignment := logs d.place

/-- How many of the calls set the option. -/
def count (d : Double) (k : Key) (logs : Logs) : Nat := callCount k (d.calls logs)

def reset (d : Double) (logs : Logs) : Logs := logs.put d.place []

/-- What a double does with an assignment: it logs it at its place and answers. -/
def sink (d : Double) : Sink Logs := fun a logs =>
  let (answer, log) := Sink.logging d.rejects a (d.calls logs)
  (answer, logs.put d.place log)

end Double
end RuntimeMonitor.Recording

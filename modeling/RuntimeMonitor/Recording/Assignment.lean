import RuntimeMonitor.Recording.Key
import RuntimeMonitor.Recording.Value

/-!
# Assignments

An assignment gives an option a value of the kind that the option takes.
-/

namespace RuntimeMonitor.Recording

inductive Assignment where
  | toDisk (enabled : Bool)
  | maxAge (age : Duration)
  | maxSize (bytes : Nat)
  | name (text : String)
  | duration (span : Duration)
  | destination (path : String)
  | dumpOnExit (enabled : Bool)
  deriving DecidableEq, Repr

namespace Assignment

def key : Assignment → Key
  | toDisk _ => .toDisk
  | maxAge _ => .maxAge
  | maxSize _ => .maxSize
  | name _ => .name
  | duration _ => .duration
  | destination _ => .destination
  | dumpOnExit _ => .dumpOnExit

def value : Assignment → Value
  | toDisk enabled => .boolean enabled
  | maxAge age => .duration age
  | maxSize bytes => .size bytes
  | name text => .text text
  | duration span => .duration span
  | destination path => .text path
  | dumpOnExit enabled => .boolean enabled

/-- Gives an option a value, if the option takes values of that kind. -/
def ofValue? : Key → Value → Option Assignment
  | .toDisk, .boolean enabled => some (toDisk enabled)
  | .maxAge, .duration age => some (maxAge age)
  | .maxSize, .size bytes => some (maxSize bytes)
  | .name, .text text => some (name text)
  | .duration, .duration span => some (duration span)
  | .destination, .text path => some (destination path)
  | .dumpOnExit, .boolean enabled => some (dumpOnExit enabled)
  | _, _ => none

theorem ofValue?_eq_some_iff {k : Key} {v : Value} {a : Assignment} :
    ofValue? k v = some a ↔ a.key = k ∧ a.value = v := by
  constructor
  · intro h
    cases k <;> cases v <;> cases h <;> exact ⟨rfl, rfl⟩
  · rintro ⟨rfl, rfl⟩
    cases a <;> rfl

/-- Every value of the right kind can be given. -/
theorem exists_of_domain_eq {k : Key} {v : Value} (h : v.domain = k.domain) :
    ∃ a, ofValue? k v = some a := by
  cases k <;> cases v <;> first | exact ⟨_, rfl⟩ | cases h

end Assignment
end RuntimeMonitor.Recording

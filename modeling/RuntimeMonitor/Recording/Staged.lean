import RuntimeMonitor.Recording.Key
import RuntimeMonitor.Text.Quoted

/-!
# Staged options

The raw texts that wait to be applied, at most one for each option. Setting an option again
replaces its text. Texts are not read before they are applied.
-/

namespace RuntimeMonitor.Recording

structure Staged where
  toDisk : Option String := none
  maxAge : Option String := none
  maxSize : Option String := none
  name : Option String := none
  duration : Option String := none
  destination : Option String := none
  dumpOnExit : Option String := none
  deriving DecidableEq, Repr

namespace Staged

def empty : Staged := {}

def get? (s : Staged) : Key → Option String
  | .toDisk => s.toDisk
  | .maxAge => s.maxAge
  | .maxSize => s.maxSize
  | .name => s.name
  | .duration => s.duration
  | .destination => s.destination
  | .dumpOnExit => s.dumpOnExit

def put (s : Staged) (k : Key) (text : Option String) : Staged :=
  match k with
  | .toDisk => { s with toDisk := text }
  | .maxAge => { s with maxAge := text }
  | .maxSize => { s with maxSize := text }
  | .name => { s with name := text }
  | .duration => { s with duration := text }
  | .destination => { s with destination := text }
  | .dumpOnExit => { s with dumpOnExit := text }

def set (s : Staged) (k : Key) (raw : String) : Staged := s.put k (some raw)

def unset (s : Staged) (k : Key) : Staged := s.put k none

@[simp] theorem get?_empty (k : Key) : empty.get? k = none := by cases k <;> rfl

@[simp] theorem get?_put (s : Staged) (k j : Key) (text : Option String) :
    (s.put k text).get? j = if j = k then text else s.get? j := by
  cases k <;> cases j <;> rfl

theorem ext_get? {s t : Staged} (h : ∀ k, s.get? k = t.get? k) : s = t := by
  cases s
  cases t
  have := h .toDisk; have := h .maxAge; have := h .maxSize; have := h .name
  have := h .duration; have := h .destination; have := h .dumpOnExit
  simp_all [get?]

/-- The staged texts in the order in which the options are declared. -/
def entries (s : Staged) : List (Key × String) :=
  Key.all.filterMap (fun k => (s.get? k).map (fun raw => (k, raw)))

theorem mem_entries {s : Staged} {k : Key} {raw : String} :
    (k, raw) ∈ s.entries ↔ s.get? k = some raw := by
  simp [entries, Key.mem_all]

def size (s : Staged) : Nat := s.entries.length

def isEmpty (s : Staged) : Bool := s.entries.isEmpty

/-- Stages the given texts one after the other. -/
def setAll (s : Staged) (texts : List (Key × String)) : Staged :=
  texts.foldl (fun s t => s.set t.1 t.2) s

def variantName : Key → String
  | .toDisk => "ToDisk"
  | .maxAge => "MaxAge"
  | .maxSize => "MaxSize"
  | .name => "Name"
  | .duration => "Duration"
  | .destination => "Destination"
  | .dumpOnExit => "DumpOnExit"

/-- All staged texts on one line, for diagnosis. -/
def describe (s : Staged) : String :=
  let texts := s.entries.map (fun e => s!"{variantName e.1}: {Text.quote e.2}")
  "OptionOverlay \x7b staged: \x7b" ++ ", ".intercalate texts ++ "\x7d \x7d"

end Staged
end RuntimeMonitor.Recording

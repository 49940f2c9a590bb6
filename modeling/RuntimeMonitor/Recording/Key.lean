import RuntimeMonitor.Text.Blank

/-!
# Recording options

The options of a recording, in the order in which they are declared, with their names and the
kinds of values that they take.
-/

namespace RuntimeMonitor.Recording

open Text

inductive Key where
  | toDisk
  /-- The greatest age of data kept on disk. -/
  | maxAge
  /-- The greatest size of data kept on disk. -/
  | maxSize
  | name
  /-- How long the recording lasts. -/
  | duration
  /-- The path that the recording is dumped to. -/
  | destination
  | dumpOnExit
  deriving DecidableEq, Repr

inductive Domain where
  | boolean
  | duration
  | size
  | text
  deriving DecidableEq, Repr

def Domain.describe : Domain → String
  | boolean => "Boolean"
  | duration => "Duration"
  | size => "Size"
  | text => "Text"

namespace Key

def all : List Key := [toDisk, maxAge, maxSize, name, duration, destination, dumpOnExit]

theorem mem_all (k : Key) : k ∈ all := by cases k <;> decide

theorem nodup_all : all.Nodup := by decide

def label : Key → String
  | toDisk => "disk"
  | maxAge => "maxAge"
  | maxSize => "maxSize"
  | name => "name"
  | duration => "duration"
  | destination => "destination"
  | dumpOnExit => "dumpOnExit"

def domain : Key → Domain
  | toDisk | dumpOnExit => .boolean
  | maxAge | duration => .duration
  | maxSize => .size
  | name | destination => .text

/-- The plain spellings of the options: lower case, without separators. -/
def spellings : List (List Char × Key) :=
  [("disk".toList, toDisk), ("todisk".toList, toDisk), ("maxage".toList, maxAge),
   ("maxsize".toList, maxSize), ("name".toList, name), ("duration".toList, duration),
   ("destination".toList, destination), ("dumponexit".toList, dumpOnExit)]

/-- A name without the blanks around it and the separators in it, in lower case. -/
def plain (s : List Char) : List Char :=
  ((trimChars s).filter (fun c => c ≠ '-' ∧ c ≠ '_')).map Char.toLower

/-- The option of that name, in any case and with separators anywhere inside. -/
def ofName? (s : String) : Option Key := spellings.lookup (plain s.toList)

/-- Says that no option has that name. -/
def unknownMessage (s : String) : String := s!"unknown recording option: {s}"

end Key
end RuntimeMonitor.Recording

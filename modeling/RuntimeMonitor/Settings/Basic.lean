import RuntimeMonitor.Filter.Compiler
import RuntimeMonitor.Recording.Staged
import RuntimeMonitor.Toml.Document

/-!
# Session settings

The raw recording options and the raw rule filter of a session, from a TOML document or set one
by one. In the table `recording` every member has to be an option with a string, in the table
`analysis` only the member `rule-filter` matters. An array stands for a table with all of its
members in order.
-/

namespace RuntimeMonitor

open Recording

structure Settings where
  recording : Staged := .empty
  ruleFilter : Option String := none
  deriving DecidableEq, Repr

namespace Settings

def default : Settings := {}

/-- The name of an option in a document. -/
def memberName : Key → String
  | .toDisk => "disk"
  | .maxAge => "max-age"
  | .maxSize => "max-size"
  | .name => "name"
  | .duration => "duration"
  | .destination => "destination"
  | .dumpOnExit => "dump-on-exit"

def ofMemberName? (name : String) : Option Key := Key.all.find? (fun k => memberName k = name)

def string? : Toml.Value → Option String
  | .string s => some s
  | _ => none

/-- Stages the members of a table. -/
def recordingOfMembers? (members : List (String × Toml.Value)) : Option Staged :=
  members.foldlM (fun s m => do
    return s.set (← ofMemberName? m.1) (← string? m.2)) .empty

def recording? : Toml.Value → Option Staged
  | .table members => recordingOfMembers? members
  | .array items => do
    guard (Key.all.length ≤ items.length)
    let texts ← (items.take Key.all.length).mapM string?
    return Staged.empty.setAll (Key.all.zip texts)
  | _ => none

/-- Reads the rule filter. A date or a time has no members, hence no filter. -/
def ruleFilter? : Toml.Value → Option (Option String)
  | .table members =>
    match members.lookup "rule-filter" with
    | none => some none
    | some value => (string? value).map some
  | .array (value :: _) => (string? value).map some
  | .datetime _ => some none
  | _ => none

def ofMembers? (members : List (String × Toml.Value)) : Option Settings := do
  let recording ← match members.lookup "recording" with
    | none => some .empty
    | some value => recording? value
  let ruleFilter ← match members.lookup "analysis" with
    | none => some none
    | some value => ruleFilter? value
  return { recording, ruleFilter }

def ofToml? (text : String) : Option Settings := (Toml.read? text).bind ofMembers?

structure UnknownOption where
  name : String
  deriving DecidableEq, Repr

def UnknownOption.message (e : UnknownOption) : String :=
  s!"Invalid recording option: {Key.unknownMessage e.name}"

/-- Sets a recording option by its name, in any spelling. -/
def setOption (s : Settings) (name raw : String) : Except UnknownOption Settings :=
  match Key.ofName? name with
  | some k => .ok { s with recording := s.recording.set k raw }
  | none => .error ⟨name⟩

/-- Stages the recording options over those that are staged already. -/
def stageInto (s : Settings) (staged : Staged) : Staged := staged.setAll s.recording.entries

/-- The rule filter, blank when none is set. -/
def effectiveFilter (s : Settings) : String := s.ruleFilter.getD ""

/-- The rules of a catalog that the rule filter selects, and the tokens that it ignores. -/
def select (s : Settings) (c : Filter.Catalog) : List Filter.Rule × List String :=
  let p := (Filter.Compiler.ofCatalog c).compile s.effectiveFilter
  (p.select c, p.ignored)

end Settings
end RuntimeMonitor

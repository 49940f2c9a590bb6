import RuntimeMonitor.Json.Form

/-!
# Cached values

A value is a text, a list of texts, a sequence of bytes or any JSON value. It has a plain JSON
view, in which these kinds cannot be told apart, and a tagged form, in which they can.
-/

namespace RuntimeMonitor.Cache

inductive Value where
  | text (value : String)
  | list (items : List String)
  | bytes (bytes : List UInt8)
  | json (value : Json)
  deriving Repr

namespace Value

def toJson : Value → Json
  | text s => JsonForm.toJson s
  | list items => JsonForm.toJson items
  | bytes bs => JsonForm.toJson bs
  | json j => j

def kind : Value → String
  | text _ => "text"
  | list _ => "list"
  | bytes _ => "bytes"
  | json _ => "json"

def toTagged (v : Value) : Json :=
  .object [("type", .string v.kind), ("value", v.toJson)]

/-- Reads the plain view of a value of the given kind. -/
def ofKind? (kind : String) (j : Json) : Option Value :=
  if kind = "text" then (JsonForm.ofJson? j).map text
  else if kind = "list" then (JsonForm.ofJson? j).map list
  else if kind = "bytes" then (JsonForm.ofJson? j).map bytes
  else if kind = "json" then some (json j)
  else none

/-- Among the members of an object a tag is a name, or an object with that name for its only
member, which is null. -/
def tag? : Json → Option String
  | .string kind => some kind
  | .object [(kind, .null)] => some kind
  | _ => none

/-- Reads the tagged form, or an array of the kind and the plain view. -/
def ofTagged? : Json → Option Value
  | .object members => do ofKind? (← tag? (← members.lookup "type")) (← members.lookup "value")
  | .array [.string kind, value] => ofKind? kind value
  | _ => none

end Value

instance : JsonForm Value := ⟨Value.toTagged, Value.ofTagged?⟩

end RuntimeMonitor.Cache

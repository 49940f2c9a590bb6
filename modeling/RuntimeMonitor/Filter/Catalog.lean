import RuntimeMonitor.Json.Form

/-!
# Rule catalogs

The analysis rules that there are, each with its id and its topic.
-/

namespace RuntimeMonitor.Filter

structure Rule where
  id : String
  topic : String
  deriving DecidableEq, Repr

instance : JsonForm Rule where
  toJson r := .object [("id", JsonForm.toJson r.id), ("topic", JsonForm.toJson r.topic)]
  ofJson? j := do
    match ← j.fields? ["id", "topic"] with
    | [id, topic] => return ⟨← JsonForm.ofJson? id, ← JsonForm.ofJson? topic⟩
    | _ => none

structure Catalog where
  rules : List Rule
  deriving DecidableEq, Repr

namespace Catalog

def size (c : Catalog) : Nat := c.rules.length

def isEmpty (c : Catalog) : Bool := c.rules.isEmpty

end Catalog

instance : JsonForm Catalog where
  toJson c := .object [("rules", JsonForm.toJson c.rules)]
  ofJson? j := do
    match ← j.fields? ["rules"] with
    | [rules] => return ⟨← JsonForm.ofJson? rules⟩
    | _ => none

end RuntimeMonitor.Filter

import RuntimeMonitor.Json.Writer

/-!
# Types with a JSON form

A type has a JSON form when its values can be written as JSON and read back. Integers are read
from JSON integers within their range only, never from doubles. A record is read from an object,
whose other members do not matter, or from an array of its fields in order.
-/

namespace RuntimeMonitor

class JsonForm (α : Type) where
  toJson : α → Json
  ofJson? : Json → Option α

namespace Json

def string? : Json → Option String
  | .string s => some s
  | _ => none

def boolean? : Json → Option Bool
  | .boolean b => some b
  | _ => none

/-- The integer that a number holds, if it is no double. -/
def integer? : Json → Option Int
  | .number (.integer n _) => some n
  | _ => none

/-- The double that a number holds or that is nearest to it. -/
def double? : Json → Option Number.Double
  | .number (.integer n _) => some (.ofInt n)
  | .number (.real x _) => some x
  | _ => none

def items? : Json → Option (List Json)
  | .array items => some items
  | _ => none

/-- An integer within some bounds. -/
def bounded? (low high : Int) (j : Json) : Option Int :=
  j.integer?.filter (fun n => low ≤ n ∧ n < high)

def fields? (names : List String) : Json → Option (List Json)
  | .object members => names.mapM (fun name => members.lookup name)
  | .array items => if items.length = names.length then some items else none
  | _ => none

end Json

open Json

-- Powers are the core library's whatever is in scope; literal exponents are typed for its sake.
attribute [local instance (20000)] instPowNat

instance : JsonForm Json := ⟨id, some⟩

instance : JsonForm String := ⟨.string, string?⟩

instance : JsonForm Bool := ⟨.boolean, boolean?⟩

instance : JsonForm UInt8 :=
  ⟨fun n => .ofNat n.toNat (by have := n.toNat_lt; omega),
    fun j => (j.bounded? 0 (2 ^ (8 : Nat))).map (fun n => .ofNat n.toNat)⟩

instance : JsonForm UInt16 :=
  ⟨fun n => .ofNat n.toNat (by have := n.toNat_lt; omega),
    fun j => (j.bounded? 0 (2 ^ (16 : Nat))).map (fun n => .ofNat n.toNat)⟩

instance : JsonForm UInt64 :=
  ⟨fun n => .ofNat n.toNat n.toNat_lt,
    fun j => (j.bounded? 0 (2 ^ (64 : Nat))).map (fun n => .ofNat n.toNat)⟩

instance : JsonForm Int64 :=
  ⟨fun n => .number (.integer n.toInt (by
      have := n.le_toInt
      have := n.toInt_lt
      omega)),
    fun j => (j.bounded? (-2 ^ (63 : Nat)) (2 ^ (63 : Nat))).map .ofInt⟩

instance {α : Type} [JsonForm α] : JsonForm (List α) :=
  ⟨fun xs => .array (xs.map JsonForm.toJson),
    fun j => j.items?.bind (fun items => items.mapM JsonForm.ofJson?)⟩

/-- Nothing is written as `null`. -/
instance {α : Type} [JsonForm α] : JsonForm (Option α) where
  toJson
    | none => .null
    | some x => JsonForm.toJson x
  ofJson?
    | .null => some none
    | j => (JsonForm.ofJson? j).map some

end RuntimeMonitor

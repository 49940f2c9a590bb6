import RuntimeMonitor.Number.Floating

/-!
# JSON values

Integers keep their exact value within the range of 64-bit words, signed or not; every other
number is a finite double. The members of an object stand in strictly increasing order of their
names.
-/

namespace RuntimeMonitor

open Number

-- Powers are the core library's whatever is in scope; literal exponents are typed for its sake.
attribute [local instance (20000)] instPowNat

inductive JsonNumber where
  | integer (value : Int) (inRange : -2 ^ (63 : Nat) ≤ value ∧ value < 2 ^ (64 : Nat))
  | real (value : Double) (finite : value.isFinite = true)
  deriving DecidableEq, Repr

inductive Json where
  | null
  | boolean (value : Bool)
  | number (value : JsonNumber)
  | string (value : String)
  | array (items : List Json)
  | object (members : List (String × Json))
  deriving Repr

namespace Json

/-- Puts a member at its place, in the stead of an earlier one of that name. -/
def insertMember (name : String) (value : Json) : List (String × Json) → List (String × Json)
  | [] => [(name, value)]
  | (n, v) :: rest =>
    if name < n then (name, value) :: (n, v) :: rest
    else if name = n then (name, value) :: rest
    else (n, v) :: insertMember name value rest

/-- An object with the given members, of which the last of each name counts. -/
def ofMembers (members : List (String × Json)) : Json :=
  .object (members.foldl (fun ms m => insertMember m.1 m.2 ms) [])

def ofNat (n : Nat) (h : n < 2 ^ (64 : Nat)) : Json :=
  .number (.integer n (by constructor <;> omega))

end Json
end RuntimeMonitor

import RuntimeMonitor.Number.Floating

/-!
# TOML values

What a document denotes once its tables have been put together. The members of a table stand in
the order in which the document names them, no name twice.
-/

namespace RuntimeMonitor.Toml

open Number

structure Date where
  year : Nat
  month : Nat
  day : Nat
  deriving DecidableEq, Repr

structure Time where
  hour : Nat
  minute : Nat
  second : Nat
  /-- The digits after the seconds' point. -/
  fraction : List Char
  deriving DecidableEq, Repr

/-- A date, a time of day, or both; both may stand with their distance from universal time in
minutes. -/
inductive Datetime where
  | date (date : Date)
  | time (time : Time)
  | unzoned (date : Date) (time : Time)
  | zoned (date : Date) (time : Time) (minutes : Int)
  deriving DecidableEq, Repr

inductive Value where
  | string (value : String)
  | integer (value : Int)
  | float (value : Double)
  | boolean (value : Bool)
  | datetime (value : Datetime)
  | array (items : List Value)
  | table (members : List (String × Value))
  deriving Repr

end RuntimeMonitor.Toml

import RuntimeMonitor.Identity.Error
import RuntimeMonitor.Identity.FloatText
import RuntimeMonitor.Json.Form

/-!
# Input arguments

The arguments that a runtime was started with, as an array of one element type. Arrays found in
JSON get the first type that all their elements have: strings, booleans, integers, numbers, or
anything but nested values.
-/

namespace RuntimeMonitor.Identity

open Number

inductive Arguments where
  | strings (items : List String)
  | booleans (items : List Bool)
  | bytes (items : List Int8)
  | chars (items : List Char)
  | shorts (items : List Int16)
  | ints (items : List Int32)
  | longs (items : List Int64)
  | floats (items : List Single)
  | doubles (items : List Double)
  /-- Objects by their text, `none` for an absent one. -/
  | objects (items : List (Option String))
  deriving DecidableEq, Repr

namespace Arguments

def texts : Arguments → List String
  | strings items => items
  | booleans items => items.map (fun b => if b then "true" else "false")
  | bytes items => items.map (fun n => integerText n.toInt)
  | chars items => items.map (fun c => String.ofList [c])
  | shorts items => items.map (fun n => integerText n.toInt)
  | ints items => items.map (fun n => integerText n.toInt)
  | longs items => items.map (fun n => integerText n.toInt)
  | floats items => items.map floatText
  | doubles items => items.map floatText
  | objects items => items.map (fun o => o.getD "null")

/-- Texts in brackets, with a comma and a space between them. -/
def bracketed (items : List String) : String := "[" ++ ", ".intercalate items ++ "]"

def render (a : Arguments) : String := bracketed a.texts

def size (a : Arguments) : Nat := a.texts.length

/-- The text of an element among objects. -/
def objectText? : Json → Except Error (Option String)
  | .null => .ok none
  | .string s => .ok (some s)
  | .boolean b => .ok (some (Json.boolean b).text)
  | .number n => .ok (some (Json.number n).text)
  | nested => .error (.nested nested)

/-- Types the elements of an array. -/
def ofItems (items : List Json) : Except Error Arguments :=
  match items.mapM Json.string? with
  | some xs => .ok (strings xs)
  | none => match items.mapM Json.boolean? with
    | some xs => .ok (booleans xs)
    | none => match items.mapM (JsonForm.ofJson? (α := Int64)) with
      | some xs => .ok (longs xs)
      | none => match items.mapM Json.double? with
        | some xs => .ok (doubles xs)
        | none => (items.mapM objectText?).map objects

/-- Reads the arguments that discovery reports; `null` stands for none. -/
def ofJson : Json → Except Error Arguments
  | .null => .ok (strings [])
  | .array items => ofItems items
  | other => .error (.notArray other)

end Arguments
end RuntimeMonitor.Identity

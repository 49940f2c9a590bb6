import RuntimeMonitor.Json.Numeral
import RuntimeMonitor.Number.Radix

/-!
# Reading JSON text

Strict JSON, with at most 127 containers inside each other. Of several members of one name the
last counts.
-/

namespace RuntimeMonitor.Json

open Number Text Text.Reader

def isSpace (c : Char) : Bool := c = ' ' ∨ c = '\t' ∨ c = '\n' ∨ c = '\r'

def skipSpace : Reader Unit := skipWhile isSpace

def readUnit : Reader Nat := do return ofRadix 16 (← times (isDigitOf 16) 4)

/-- Reads the unit of an escape, and the low surrogate that has to follow a high one. -/
def readUnicodeEscape : Reader Char := do
  let unit ← readUnit
  if 0xD800 ≤ unit ∧ unit < 0xDC00 then
    word ['\\', 'u']
    let low ← readUnit
    guard (0xDC00 ≤ low ∧ low < 0xE000)
    return Char.ofNat (0x10000 + (unit - 0xD800) * 0x400 + (low - 0xDC00))
  else
    guard (unit < 0xDC00 ∨ 0xE000 ≤ unit)
    return Char.ofNat unit

def readEscape : Reader Char := do
  match ← next with
  | '"' => return '"'
  | '\\' => return '\\'
  | '/' => return '/'
  | 'b' => return '\x08'
  | 'f' => return '\x0c'
  | 'n' => return '\n'
  | 'r' => return '\r'
  | 't' => return '\t'
  | 'u' => readUnicodeEscape
  | _ => failure

def readString : Reader String := do
  char '"'
  iterate (fun done : List Char => do
    match ← next with
    | '"' => return .inr (String.ofList done.reverse)
    | '\\' => return .inl ((← readEscape) :: done)
    | c =>
      guard (0x20 ≤ c.toNat)
      return .inl (c :: done)) []

/-- Reads parts with commas between them, after the opening bracket and up to the closing one. -/
def readList {α : Type} (close : Char) (part : Reader α) : Reader (List α) := do
  skipSpace
  if (← peek) = some close then
    let _ ← next
    return []
  iterate (fun done : List α => do
    skipSpace
    let a ← part
    skipSpace
    let c ← next
    if c = close then return .inr (a :: done).reverse
    guard (c = ',')
    return .inl (a :: done)) []

def readScalar : Reader Json := do
  match ← peek with
  | some 'n' => word ['n', 'u', 'l', 'l']; return .null
  | some 't' => word ['t', 'r', 'u', 'e']; return .boolean true
  | some 'f' => word ['f', 'a', 'l', 's', 'e']; return .boolean false
  | some '"' => return .string (← readString)
  | _ => return .number (← readNumber)

/-- Reads a value with at most `depth` containers inside each other. -/
def readValue : (depth : Nat) → Reader Json
  | 0 => readScalar
  | depth + 1 => do
    match ← peek with
    | some '[' =>
      char '['
      return .array (← readList ']' (readValue depth))
    | some '{' =>
      char '{'
      return ofMembers (← readList '}' do
        let name ← readString
        skipSpace
        char ':'
        skipSpace
        return (name, ← readValue depth))
    | _ => readScalar

def read? (text : String) : Option Json :=
  let document := do
    skipSpace
    let value ← readValue 127
    skipSpace
    return value
  document.readAll text.toList

end RuntimeMonitor.Json

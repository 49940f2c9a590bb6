import RuntimeMonitor.Toml.Value
import RuntimeMonitor.Toml.Strings

/-!
# TOML numbers, dates and times

Underscores may stand between digits. Integers fit in 64 bits with a sign; a float may be as
small as it likes but not beyond the greatest double. Dates have to exist.
-/

namespace RuntimeMonitor.Toml

open Number Text Text.Reader

-- Powers are the core library's whatever is in scope; literal exponents are typed for its sake.
attribute [local instance (20000)] instPowNat

/-- Reads digits, single underscores between them left out. -/
def readDigits (isDigit : Char → Bool) : Reader (List Char) :=
  iterate (fun done : List Char => do
    let d ← satisfy isDigit
    match ← peek with
    | some '_' =>
      let _ ← next
      return .inl (d :: done)
    | some c => if isDigit c then return .inl (d :: done) else return .inr (d :: done).reverse
    | none => return .inr (d :: done).reverse) []

/-- Reads an optional sign: whether it is a minus. -/
def readSign : Reader Bool := do
  match ← peek with
  | some '+' => let _ ← next; return false
  | some '-' => let _ ← next; return true
  | _ => return false

/-- Reads decimal digits, of which the first is zero only if it is the only one. -/
def readWhole : Reader (List Char) := do
  match ← peek with
  | some '0' => char '0'; return ['0']
  | _ => readDigits Char.isDigit

/-- Reads digits in a base announced by a letter. -/
def readBased (letter : Char) (base : Nat) : Reader Int := do
  word ['0', letter]
  return (ofRadix base (← readDigits (isDigitOf base)) : Nat)

def readDecimalInteger : Reader Int := do
  let negative ← readSign
  let n := ofDigits (← readWhole)
  return if negative then -n else n

def readInteger : Reader Value := do
  let n ← readBased 'x' 16 <|> readBased 'o' 8 <|> readBased 'b' 2 <|>
    readDecimalInteger
  guard (-2 ^ (63 : Nat) ≤ n ∧ n < 2 ^ (63 : Nat))
  return .integer n

def readPower : Reader Int := do
  let _ ← satisfy (fun c => c = 'e' ∨ c = 'E')
  let negative ← readSign
  let n := ofDigits (← readDigits Char.isDigit)
  return if negative then -n else n

def readDecimalFloat : Reader Double := do
  let negative ← readSign
  let whole ← readWhole
  let fraction ← (do char '.'; readDigits Char.isDigit) <|> return []
  let power ← if fraction = [] then readPower else readPower <|> return 0
  let magnitude := Format.binary64.ofDecimal ⟨ofDigits (whole ++ fraction), power - fraction.length⟩
  guard (negative ∨ magnitude < Format.binary64.infinity)
  return .ofMagnitude negative magnitude

def readSpecialFloat : Reader Double := do
  let negative ← readSign
  (do word ['i', 'n', 'f']; return .ofMagnitude negative Format.binary64.infinity) <|>
    (do
      word ['n', 'a', 'n']
      return .ofMagnitude negative (Format.binary64.infinity + 2 ^ (51 : Nat)))

def readFloat : Reader Value := do
  return .float (← readDecimalFloat <|> readSpecialFloat)

/-- Reads `n` digits whose number lies between two bounds. -/
def readBounded (n least greatest : Nat) : Reader Nat := do
  let k := ofDigits (← times Char.isDigit n)
  guard (least ≤ k ∧ k ≤ greatest)
  return k

def isLeapYear (year : Nat) : Bool := year % 4 = 0 ∧ (year % 100 ≠ 0 ∨ year % 400 = 0)

def daysOfMonth (year month : Nat) : Nat :=
  if month = 2 then if isLeapYear year then 29 else 28
  else if month = 4 ∨ month = 6 ∨ month = 9 ∨ month = 11 then 30
  else 31

def readDate : Reader Date := do
  let year ← readBounded 4 0 9999
  char '-'
  let month ← readBounded 2 1 12
  char '-'
  let day ← readBounded 2 1 (daysOfMonth year month)
  return ⟨year, month, day⟩

/-- Reads a time of day; the second 60 is a leap second. -/
def readTime : Reader Time := do
  let hour ← readBounded 2 0 23
  char ':'
  let minute ← readBounded 2 0 59
  char ':'
  let second ← readBounded 2 0 60
  let fraction ← (do
    char '.'
    let ds ← takeWhile Char.isDigit
    guard (ds ≠ [])
    return ds) <|> return []
  return ⟨hour, minute, second, fraction⟩

/-- Reads a distance from universal time, in minutes. -/
def readOffset : Reader Int := do
  match ← next with
  | 'Z' | 'z' => return 0
  | '+' => distance
  | '-' => return -(← distance)
  | _ => failure
where
  distance : Reader Int := do
    let hours ← readBounded 2 0 23
    char ':'
    let minutes ← readBounded 2 0 59
    return (hours * 60 + minutes : Nat)

def readDatetime : Reader Datetime :=
  (do
    let date ← readDate
    (do
      let _ ← satisfy (fun c => c = 'T' ∨ c = 't' ∨ c = ' ')
      let time ← readTime
      (do return .zoned date time (← readOffset)) <|> return .unzoned date time) <|>
      return .date date) <|>
    (do return .time (← readTime))

def readScalar : Reader Value := do
  match ← peek with
  | some '"' => return .string (← readString .basic)
  | some '\'' => return .string (← readString .literal)
  | some 't' => word ['t', 'r', 'u', 'e']; return .boolean true
  | some 'f' => word ['f', 'a', 'l', 's', 'e']; return .boolean false
  | _ => (do return .datetime (← readDatetime)) <|> readFloat <|> readInteger

end RuntimeMonitor.Toml

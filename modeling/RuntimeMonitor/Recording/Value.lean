import RuntimeMonitor.Number.Decimal
import RuntimeMonitor.Recording.Key
import RuntimeMonitor.Text.Blank
import RuntimeMonitor.Text.Quoted

/-!
# Option values

Raw texts are read as truth values, durations, sizes or plain text. A quantity is a whole number
below `2 ^ 64` with a unit behind it; the unit may be left out, may stand apart and is read in any
case.
-/

namespace RuntimeMonitor.Recording

open Text Number

-- Powers are the core library's whatever is in scope; literal exponents are typed for its sake.
attribute [local instance (20000)] instPowNat

structure Duration where
  nanoseconds : Nat
  deriving DecidableEq, Repr

namespace Duration

/-- The whole seconds of a span. -/
def seconds (d : Duration) : Nat := d.nanoseconds / 10 ^ (9 : Nat)

/-- The nanoseconds of a span beyond its whole seconds. -/
def subseconds (d : Duration) : Nat := d.nanoseconds % 10 ^ (9 : Nat)

/-- A number of units of `10 ^ places`, with a fraction that does not end in a zero. -/
def units (places n : Nat) : String :=
  let fraction := (digits (10 ^ places + n % 10 ^ places)).tail
  let fraction := (fraction.reverse.dropWhile (· = '0')).reverse
  String.ofList (digits (n / 10 ^ places) ++ if fraction = [] then [] else '.' :: fraction)

/-- The span in the greatest unit up to seconds that it reaches, for diagnosis. -/
def describe (d : Duration) : String :=
  if 10 ^ (9 : Nat) ≤ d.nanoseconds then units 9 d.nanoseconds ++ "s"
  else if 10 ^ (6 : Nat) ≤ d.nanoseconds then units 6 d.nanoseconds ++ "ms"
  else if 10 ^ (3 : Nat) ≤ d.nanoseconds then units 3 d.nanoseconds ++ "µs"
  else units 0 d.nanoseconds ++ "ns"

end Duration

/-- A value of one of the kinds that options take. -/
inductive Value where
  | boolean (value : Bool)
  | duration (value : Duration)
  | size (bytes : Nat)
  | text (value : String)
  deriving DecidableEq, Repr

namespace Value

def domain : Value → Domain
  | boolean _ => .boolean
  | duration _ => .duration
  | size _ => .size
  | text _ => .text

/-- The kind and the value, for diagnosis. -/
def describe (v : Value) : String :=
  let inner := match v with
    | boolean b => if b then "true" else "false"
    | duration d => d.describe
    | size n => String.ofList (digits n)
    | text s => quote s
  s!"{v.domain.describe}({inner})"

end Value

inductive ValueError where
  | notBoolean (text : String)
  | noQuantity (text : String)
  | greatNumber (digits : String)
  | unknownDurationUnit (unit : String)
  | longDuration (text : String)
  | unknownSizeUnit (unit : String)
  | greatSize (text : String)
  | blankText
  deriving DecidableEq, Repr

def ValueError.message : ValueError → String
  | notBoolean text => s!"expected true or false, got {quote text}"
  | noQuantity text => s!"expected a non-negative integer, got {quote text}"
  | greatNumber digits =>
    s!"invalid number {quote digits}: number too large to fit in target type"
  | unknownDurationUnit unit => s!"unknown duration unit {quote unit}"
  | longDuration text => s!"duration {quote text} is out of range"
  | unknownSizeUnit unit => s!"unknown size unit {quote unit}"
  | greatSize text => s!"size {quote text} is out of range"
  | blankText => "value must not be empty"

/-- Numbers, sizes and whole seconds stay below this bound. -/
def wordLimit : Nat := 2 ^ (64 : Nat)

def lower (s : List Char) : List Char := s.map Char.toLower

def readBoolean (raw : String) : Except ValueError Bool :=
  let text := trimChars raw.toList
  if lower text = "true".toList then .ok true
  else if lower text = "false".toList then .ok false
  else .error (.notBoolean (trim raw))

/-- Splits a text into its number and its unit, in lower case. -/
def readQuantity (raw : String) : Except ValueError (Nat × List Char) :=
  let text := trimChars raw.toList
  let ds := text.takeWhile Char.isDigit
  let unit := lower (trimChars (text.dropWhile Char.isDigit))
  if ds = [] then .error (.noQuantity (trim raw))
  else if wordLimit ≤ ofDigits ds then .error (.greatNumber (String.ofList ds))
  else .ok (ofDigits ds, unit)

/-- The units of durations in nanoseconds. -/
def durationUnits : List (List Char × Nat) :=
  let second := 10 ^ (9 : Nat)
  [("ns".toList, 1), ("us".toList, 1000), ("".toList, 1000000), ("ms".toList, 1000000),
   ("s".toList, second), ("m".toList, 60 * second), ("min".toList, 60 * second),
   ("h".toList, 3600 * second), ("d".toList, 86400 * second)]

/-- The units of sizes in bytes. -/
def sizeUnits : List (List Char × Nat) :=
  [("".toList, 1), ("b".toList, 1), ("k".toList, 1 <<< 10), ("kb".toList, 1 <<< 10),
   ("m".toList, 1 <<< 20), ("mb".toList, 1 <<< 20), ("g".toList, 1 <<< 30), ("gb".toList, 1 <<< 30),
   ("t".toList, 1 <<< 40), ("tb".toList, 1 <<< 40)]

/-- Reads a duration; a bare number counts milliseconds. -/
def readDuration (raw : String) : Except ValueError Duration := do
  let (n, unit) ← readQuantity raw
  match durationUnits.lookup unit with
  | none => .error (.unknownDurationUnit (String.ofList unit))
  | some nanoseconds =>
    let d : Duration := ⟨n * nanoseconds⟩
    if d.seconds < wordLimit then .ok d else .error (.longDuration (trim raw))

/-- Reads a size in bytes; a bare number counts bytes. -/
def readSize (raw : String) : Except ValueError Nat := do
  let (n, unit) ← readQuantity raw
  match sizeUnits.lookup unit with
  | none => .error (.unknownSizeUnit (String.ofList unit))
  | some bytes =>
    if n * bytes < wordLimit then .ok (n * bytes) else .error (.greatSize (trim raw))

/-- Reads a text that is not blank, without the blanks around it. -/
def readText (raw : String) : Except ValueError String :=
  if trimChars raw.toList = [] then .error .blankText else .ok (trim raw)

/-- Reads a raw text as a value of some kind. -/
def Domain.read (domain : Domain) (raw : String) : Except ValueError Value :=
  match domain with
  | .boolean => (readBoolean raw).map .boolean
  | .duration => (readDuration raw).map .duration
  | .size => (readSize raw).map .size
  | .text => (readText raw).map .text

theorem domain_of_read {d : Domain} {raw : String} {v : Value} (h : d.read raw = .ok v) :
    v.domain = d := by
  cases d <;> simp only [Domain.read, Except.map] at h <;> split at h <;> cases h <;> rfl

def Key.read (k : Key) (raw : String) : Except ValueError Value := k.domain.read raw

end RuntimeMonitor.Recording

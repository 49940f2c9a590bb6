import RuntimeMonitor.Json.Value
import RuntimeMonitor.Number.Shortest
import RuntimeMonitor.Text.Reader

/-!
# Numbers in JSON text

A numeral without point and exponent is an integer if a 64-bit word holds it, save that a zero
with a minus sign is a double. Any other numeral is read as a double: its digits are gathered into
a 64-bit significand, and the significand is scaled by powers of ten, each step rounded to
nearest.
-/

namespace RuntimeMonitor.Json

open Number Text Text.Reader

-- Powers are the core library's whatever is in scope; literal exponents are typed for its sake.
attribute [local instance (20000)] instPowNat

/-- A significand of at most 64 bits and the power of ten that scales it. -/
structure Scaled where
  significand : Nat
  exponent : Int

/-- Gathers digits up to the first that would overflow the significand, and counts them. -/
def gather (significand count : Nat) : List Char → Nat × Nat × List Char
  | [] => (significand, count, [])
  | d :: rest =>
    let more := significand * 10 + (d.toNat - '0'.toNat)
    if more < 2 ^ (64 : Nat) then gather more (count + 1) rest else (significand, count, d :: rest)

/-- The double nearest to `10 ^ k`. -/
def powerOfTen (k : Nat) : Nat := Format.binary64.ofDecimal ⟨1, k⟩

/-- The greatest power of ten that a double holds. -/
def greatestPower : Nat := 308

/-- Divides by `10 ^ k`, one representable power after the other, until nothing is left. -/
def scaleDown (magnitude k : Nat) : Nat :=
  if k ≤ greatestPower then Format.binary64.div magnitude (powerOfTen k)
  else if magnitude = 0 then 0
  else scaleDown (Format.binary64.div magnitude (powerOfTen greatestPower)) (k - greatestPower)
  termination_by k
  decreasing_by unfold greatestPower at *; omega

/-- The magnitude of the double that a scaled significand is read as. -/
def Scaled.magnitude (s : Scaled) : Nat :=
  let start := Format.binary64.ofRatio s.significand 1
  if s.exponent < 0 then scaleDown start s.exponent.natAbs
  else if s.exponent ≤ greatestPower then
    Format.binary64.mul start (powerOfTen s.exponent.natAbs)
  else if start = 0 then 0
  else Format.binary64.infinity

def finite? (negative : Bool) (magnitude : Nat) : Option JsonNumber :=
  let x : Double := .ofMagnitude negative magnitude
  if h : x.isFinite = true then some (.real x h) else none

/-- Reads the fraction after its point. The significand takes as many of its digits as it can
hold; the others only have to be digits. -/
def readFraction (s : Scaled) : Reader Scaled := do
  let ds ← takeWhile Char.isDigit
  guard (ds ≠ [])
  let (significand, count, _) := gather s.significand 0 ds
  return ⟨significand, s.exponent - count⟩

/-- Reads the exponent after its letter. An exponent beyond 32 bits leaves zero, or an overflow
when it is positive and the significand is not zero. -/
def readExponent (s : Scaled) : Reader Scaled := do
  let sign ← peek
  if sign = some '+' ∨ sign = some '-' then let _ ← next
  let ds ← takeWhile Char.isDigit
  guard (ds ≠ [])
  let power := ofDigits ds
  if sign = some '-' then
    return if power < 2 ^ (31 : Nat) then ⟨s.significand, s.exponent - power⟩ else ⟨0, 0⟩
  else
    guard (power < 2 ^ (31 : Nat) ∨ s.significand = 0)
    return ⟨s.significand, s.exponent + power⟩

def readUnsigned (negative : Bool) : Reader JsonNumber := do
  let ds ← takeWhile Char.isDigit
  guard (ds = ['0'] ∨ ds.head?.any (· ≠ '0'))
  let (significand, _, dropped) := gather 0 0 ds
  let mut s : Scaled := ⟨significand, dropped.length⟩
  let mut whole := dropped.isEmpty
  if (← peek) = some '.' then
    let _ ← next
    s ← readFraction s
    whole := false
  if (← peek) = some 'e' ∨ (← peek) = some 'E' then
    let _ ← next
    s ← readExponent s
    whole := false
  let value : Int := if negative then -significand else significand
  if h : -2 ^ (63 : Nat) ≤ value ∧ value < 2 ^ (64 : Nat) then
    if whole ∧ ¬ (negative ∧ value = 0) then return .integer value h
  finite? negative s.magnitude

def readNumber : Reader JsonNumber := do
  if (← peek) = some '-' then
    let _ ← next
    readUnsigned true
  else readUnsigned false

end RuntimeMonitor.Json

namespace RuntimeMonitor.JsonNumber

open Number

/-- Doubles with exponents of ten from -5 to 15 are written with a point, the others with an
exponent that shows its sign. -/
def realText (x : Double) : List Char :=
  let d := Format.binary64.shortest .even x.magnitude
  let body :=
    if x.magnitude = 0 then ['0', '.', '0']
    else if -5 ≤ d.leadingExponent ∧ d.leadingExponent ≤ 15 then d.positional
    else d.scientific ⟨'e', false, true⟩
  if x.negative then '-' :: body else body

def text : JsonNumber → List Char
  | .integer n _ => (integerText n).toList
  | .real x _ => realText x

end RuntimeMonitor.JsonNumber

import RuntimeMonitor.Number.Decimal

/-!
# Binary floating point

Values are bit patterns of an interchange format. A pattern without its sign is called a
magnitude; magnitudes are ordered as the numbers that they stand for, and every finite one is
a whole number of units, a unit being the smallest positive value of the format. Rounding
therefore compares natural numbers only.
-/

namespace RuntimeMonitor.Number

-- Powers are those of the core library, also where another instance is in scope.
attribute [local instance (20000)] instPowNat

/-- A sign bit, then the exponent, then the fraction. -/
structure Format where
  exponentBits : Nat
  fractionBits : Nat
  deriving DecidableEq, Repr

namespace Format

def binary32 : Format := ⟨8, 23⟩

def binary64 : Format := ⟨11, 52⟩

variable (f : Format)

def width : Nat := f.exponentBits + f.fractionBits + 1

/-- The magnitude of the infinities. Greater ones are not numbers. -/
def infinity : Nat := (2 ^ f.exponentBits - 1) * 2 ^ f.fractionBits

/-- A unit is `2 ^ (-scale)`. -/
def scale : Nat := 2 ^ (f.exponentBits - 1) + f.fractionBits - 2

def units (n : Nat) : Nat :=
  let exponent := n / 2 ^ f.fractionBits
  if exponent = 0 then n
  else (2 ^ f.fractionBits + n % 2 ^ f.fractionBits) * 2 ^ (exponent - 1)

/-- The greatest magnitude of at most `q` units. -/
def floor (q : Nat) : Nat :=
  let excess := q.log2 - f.fractionBits
  if q < 2 ^ f.fractionBits then q
  else excess * 2 ^ f.fractionBits + q / 2 ^ excess

/-- The magnitude nearest to `num / den` units, the even one of two equally near; infinity from
the middle between the greatest finite value and the next power of two on. -/
def nearest (num den : Nat) : Nat :=
  let n := f.floor (num / den)
  let middle := (f.units n + f.units (n + 1)) * den
  min f.infinity (if 2 * num < middle ∨ 2 * num = middle ∧ n % 2 = 0 then n else n + 1)

def ofRatio (num den : Nat) : Nat := f.nearest (num * 2 ^ f.scale) den

/-- The magnitude nearest to a decimal. A leading digit beyond the exponents of the format
settles the answer without the power of ten being written out. -/
def ofDecimal (d : Decimal) : Nat :=
  if d.coefficient = 0 ∨ d.leadingExponent < -f.scale then 0
  else if f.scale < d.leadingExponent then f.infinity
  else if 0 ≤ d.exponent then f.ofRatio (d.coefficient * 10 ^ d.exponent.toNat) 1
  else f.ofRatio d.coefficient (10 ^ d.exponent.natAbs)

def mul (a b : Nat) : Nat := f.nearest (f.units a * f.units b) (2 ^ f.scale)

def div (a b : Nat) : Nat := f.nearest (f.units a * 2 ^ f.scale) (f.units b)

end Format

/-- A bit pattern of the format. -/
structure Floating (f : Format) where
  bits : BitVec f.width
  deriving DecidableEq, Repr

abbrev Single := Floating .binary32

abbrev Double := Floating .binary64

namespace Floating

variable {f : Format}

def negative (x : Floating f) : Bool := x.bits.msb

def magnitude (x : Floating f) : Nat := x.bits.toNat % 2 ^ (f.width - 1)

def isNaN (x : Floating f) : Bool := f.infinity < x.magnitude

def isFinite (x : Floating f) : Bool := x.magnitude < f.infinity

def ofMagnitude (negative : Bool) (n : Nat) : Floating f :=
  ⟨.ofNat _ (if negative then 2 ^ (f.width - 1) + n else n)⟩

def ofInt (n : Int) : Floating f := ofMagnitude (n < 0) (f.ofRatio n.natAbs 1)

end Floating
end RuntimeMonitor.Number

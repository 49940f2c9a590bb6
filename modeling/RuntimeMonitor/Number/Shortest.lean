import RuntimeMonitor.Number.Floating

/-!
# The shortest decimal that reads back

A decimal reads back as a magnitude when rounding to nearest, ties to even, returns that
magnitude. Of the decimals that do, the one with the fewest digits is taken, and of those the
nearest. A unit of the format is a whole number of decimal units, `10 ^ (-scale)`, so the search
stays among natural numbers: it walks down the powers of ten and asks for a multiple that reads
back.
-/

namespace RuntimeMonitor.Number

-- Powers are those of the core library, also where another instance is in scope.
attribute [local instance (20000)] instPowNat

/-- Which of two equally near decimals is taken. -/
inductive Tie where
  | up
  | even
  deriving DecidableEq, Repr

/-- The numbers that round to a value: those between the middles to its two neighbours. Both
middles belong to them if the value has the even magnitude. The middles are doubled. -/
structure Roundings where
  value : Nat
  low : Nat
  high : Nat
  closed : Bool

namespace Roundings

variable (r : Roundings)

def Contains (p : Nat) : Prop :=
  r.low < 2 * p ∧ 2 * p < r.high ∨ r.closed = true ∧ (2 * p = r.low ∨ 2 * p = r.high)

instance (p : Nat) : Decidable (r.Contains p) := inferInstanceAs (Decidable (_ ∨ _))

/-- Of the multiples of `step` next to the value, the nearest that rounds to it, as a multiple. -/
def multiple? (tie : Tie) (step : Nat) : Option Nat :=
  let below := r.value / step
  let rest := r.value % step
  if r.Contains (below * step) then
    if r.Contains ((below + 1) * step) then
      if 2 * rest < step then some below
      else if step < 2 * rest then some (below + 1)
      else match tie with
        | .up => some (below + 1)
        | .even => some (below + below % 2)
    else some below
  else if r.Contains ((below + 1) * step) then some (below + 1)
  else none

/-- The coarsest multiple of a power of ten, from `10 ^ power` down, that rounds to the value,
with that power. -/
def coarsest (tie : Tie) : (power : Nat) → Nat × Nat
  | 0 => (r.value, 0)
  | power + 1 =>
    match r.multiple? tie (10 ^ (power + 1)) with
    | some c => (c, power + 1)
    | none => coarsest tie power

end Roundings

namespace Format

variable (f : Format)

/-- The value of a magnitude in decimal units, multiples of `10 ^ (-scale)`. -/
def decimalUnits (n : Nat) : Nat := f.units n * 5 ^ f.scale

def roundings (n : Nat) : Roundings where
  value := f.decimalUnits n
  low := f.decimalUnits (n - 1) + f.decimalUnits n
  high := f.decimalUnits n + f.decimalUnits (n + 1)
  closed := n % 2 = 0

/-- A power of ten above the number; `10 ^ 1234` is above `2 ^ 4099`. -/
def powerAbove (n : Nat) : Nat := (n.log2 + 1) * 1234 / 4099 + 1

/-- The shortest decimal that reads back as the positive finite magnitude `n`. -/
def shortest (tie : Tie) (n : Nat) : Decimal :=
  let r := f.roundings n
  let (c, power) := r.coarsest tie (powerAbove r.value)
  ⟨c, power - f.scale⟩

end Format
end RuntimeMonitor.Number

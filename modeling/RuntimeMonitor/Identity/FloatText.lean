import RuntimeMonitor.Number.Shortest

/-!
# Floating point arguments as text

Values from a thousandth to below ten million are written with a point, greater and smaller ones
with a power of ten behind an `E`. Integral values keep a fraction of one zero.
-/

namespace RuntimeMonitor.Identity

open Number

variable {f : Format}

/-- The text of a magnitude that is a number. -/
def magnitudeText (f : Format) (n : Nat) : List Char :=
  if n = f.infinity then "Infinity".toList
  else if n = 0 then ['0', '.', '0']
  else
    let d := f.shortest .up n
    if f.ofDecimal ⟨1, -3⟩ ≤ n ∧ n < f.ofDecimal ⟨1, 7⟩ then d.positional
    else d.scientific ⟨'E', true, false⟩

def floatText (x : Floating f) : String :=
  String.ofList (
    if x.isNaN then ['N', 'a', 'N']
    else if x.negative then '-' :: magnitudeText f x.magnitude
    else magnitudeText f x.magnitude)

end RuntimeMonitor.Identity

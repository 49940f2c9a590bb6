/-!
# Decimal numerals

A decimal is a coefficient with a power of ten. It is written either with a point between
its digits or with one digit before the point and the power of ten behind.
-/

namespace RuntimeMonitor.Number

def digits (n : Nat) : List Char := Nat.toDigits 10 n

/-- The number that a run of digits denotes. -/
def ofDigits (ds : List Char) : Nat := Nat.ofDigitChars 10 ds 0

theorem ofDigits_digits (n : Nat) : ofDigits (digits n) = n :=
  Nat.ofDigitChars_toDigits (by decide) (by decide)

def integerText (n : Int) : String :=
  String.ofList (if n < 0 then '-' :: digits n.natAbs else digits n.natAbs)

/-- The number `coefficient * 10 ^ exponent`. -/
structure Decimal where
  coefficient : Nat
  exponent : Int
  deriving DecidableEq, Repr

namespace Decimal

/-- The power of ten that the leading digit stands for. -/
def leadingExponent (d : Decimal) : Int :=
  (digits d.coefficient).length - 1 + d.exponent

/-- Digits on both sides of a point. -/
def positional (d : Decimal) : List Char :=
  let ds := digits d.coefficient
  let before := (ds.length : Int) + d.exponent
  if 0 ≤ d.exponent then ds ++ List.replicate d.exponent.toNat '0' ++ ['.', '0']
  else if 0 < before then ds.take before.toNat ++ '.' :: ds.drop before.toNat
  else '0' :: '.' :: List.replicate (-before).toNat '0' ++ ds

/-- What stands around the digits of a numeral with a power of ten. -/
structure Style where
  /-- The letter before the power of ten. -/
  mark : Char
  /-- Whether a lone digit is followed by `.0`. -/
  fraction : Bool
  /-- Whether a power of ten that is not negative has a plus sign. -/
  plus : Bool

/-- One digit before the point, and the power of ten. -/
def scientific (style : Style) (d : Decimal) : List Char :=
  let power := d.leadingExponent
  let mantissa := match digits d.coefficient with
    | [] => []
    | [a] => if style.fraction then [a, '.', '0'] else [a]
    | a :: rest => a :: '.' :: rest
  let sign := if power < 0 then ['-'] else if style.plus then ['+'] else []
  mantissa ++ style.mark :: sign ++ digits power.natAbs

end Decimal
end RuntimeMonitor.Number

import RuntimeMonitor.Number.Decimal

/-!
# URL-safe Base64

Three bytes give four symbols of an alphabet that is safe in file names and addresses; one or two
bytes at the end give two or three symbols, without padding.
-/

namespace RuntimeMonitor.Digest.Base64Url

def alphabet : List Char :=
  "ABCDEFGHIJKLMNOPQRSTUVWXYZabcdefghijklmnopqrstuvwxyz0123456789-_".toList

def symbol (n : Nat) : Char := alphabet.getD n 'A'

/-- The symbols of a number of `24` bits, the highest first. -/
def symbols (n : Nat) : List Char :=
  [symbol (n / 0x40000), symbol (n / 0x1000 % 0x40), symbol (n / 0x40 % 0x40), symbol (n % 0x40)]

def encodeBytes : List UInt8 → List Char
  | a :: b :: c :: rest =>
    symbols (a.toNat * 0x10000 + b.toNat * 0x100 + c.toNat) ++ encodeBytes rest
  | [a, b] => (symbols (a.toNat * 0x10000 + b.toNat * 0x100)).take 3
  | [a] => (symbols (a.toNat * 0x10000)).take 2
  | [] => []

def encode (bytes : List UInt8) : String := String.ofList (encodeBytes bytes)

def value? (c : Char) : Option Nat := alphabet.idxOf? c

/-- Reads bytes back from their symbols; bits beyond the last byte do not matter. -/
def decodeSymbols : List Char → Option (List UInt8)
  | a :: b :: c :: d :: rest => do
    let n := (← value? a) * 0x40000 + (← value? b) * 0x1000 + (← value? c) * 0x40 + (← value? d)
    return .ofNat (n / 0x10000) :: .ofNat (n / 0x100) :: .ofNat n :: (← decodeSymbols rest)
  | [a, b, c] => do
    let n := (← value? a) * 0x1000 + (← value? b) * 0x40 + (← value? c)
    return [.ofNat (n / 0x400), .ofNat (n / 0x4)]
  | [a, b] => do
    let n := (← value? a) * 0x40 + (← value? b)
    return [.ofNat (n / 0x10)]
  | [_] => none
  | [] => some []

def decode? (text : String) : Option (List UInt8) := decodeSymbols text.toList

end RuntimeMonitor.Digest.Base64Url

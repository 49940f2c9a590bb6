/-!
# Modified UTF-8

Text is cut into 16-bit units, a supplementary character giving two surrogates, and each
unit is written in one to three bytes. NUL takes two bytes, so the output holds no zero byte.
-/

namespace RuntimeMonitor.Text.ModifiedUtf8

def units (c : Char) : List Nat :=
  if c.toNat < 0x10000 then [c.toNat]
  else [0xD800 + (c.toNat - 0x10000) / 0x400, 0xDC00 + (c.toNat - 0x10000) % 0x400]

def encodeUnit (u : Nat) : List UInt8 :=
  if 1 ≤ u ∧ u < 0x80 then [.ofNat u]
  else if u < 0x800 then [.ofNat (0xC0 + u / 0x40), .ofNat (0x80 + u % 0x40)]
  else [.ofNat (0xE0 + u / 0x1000), .ofNat (0x80 + u / 0x40 % 0x40), .ofNat (0x80 + u % 0x40)]

def encodeChar (c : Char) : List UInt8 := (units c).flatMap encodeUnit

def encode (s : String) : List UInt8 := s.toList.flatMap encodeChar

def decodeUnits : List UInt8 → Option (List Nat)
  | [] => some []
  | a :: rest =>
    if a.toNat < 0x80 then (decodeUnits rest).map (a.toNat :: ·)
    else match rest with
      | [] => none
      | b :: rest =>
        let high := (a.toNat - 0xC0) * 0x40 + (b.toNat - 0x80)
        if a.toNat < 0xE0 then (decodeUnits rest).map (high :: ·)
        else match rest with
          | [] => none
          | c :: rest =>
            let low := (b.toNat - 0x80) * 0x40 + (c.toNat - 0x80)
            (decodeUnits rest).map (((a.toNat - 0xE0) * 0x1000 + low) :: ·)

/-- Joins each high surrogate with the low one behind it. -/
def joinUnits : List Nat → Option (List Char)
  | [] => some []
  | u :: rest =>
    if 0xD800 ≤ u ∧ u < 0xDC00 then
      match rest with
      | [] => none
      | v :: rest =>
        (joinUnits rest).map (Char.ofNat (0x10000 + (u - 0xD800) * 0x400 + (v - 0xDC00)) :: ·)
    else (joinUnits rest).map (Char.ofNat u :: ·)

def decode? (bytes : List UInt8) : Option String :=
  ((decodeUnits bytes).bind joinUnits).map String.ofList

theorem encode_append (s t : String) : encode (s ++ t) = encode s ++ encode t := by
  simp [encode]

end RuntimeMonitor.Text.ModifiedUtf8

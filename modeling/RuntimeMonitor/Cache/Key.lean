import RuntimeMonitor.Number.Decimal

/-!
# Cache keys

A generated key is written as its sequence number, the word `store` and, if it belongs to a
family, the family's name, with underscores between them. Every other text is a key of its own.
-/

namespace RuntimeMonitor.Cache

open Number

-- Powers are the core library's whatever is in scope; literal exponents are typed for its sake.
attribute [local instance (20000)] instPowNat

inductive Key where
  | generated (seq : UInt64) (family : Option String)
  | custom (raw : String)
  deriving DecidableEq, Repr

namespace Key

def tag : List Char := "store".toList

/-- A generated key; the empty name stands for no family. -/
def generate (seq : UInt64) (family : Option String) : Key :=
  generated seq (family.filter (· ≠ ""))

/-- Cuts a text at its first underscore, if it has one. -/
def cut (s : List Char) : List Char × Option (List Char) :=
  match s.dropWhile (· ≠ '_') with
  | [] => (s, none)
  | _ :: rest => (s.takeWhile (· ≠ '_'), some rest)

/-- The number that a numeral without superfluous zeros denotes, if it fits in 64 bits. -/
def sequence? (ds : List Char) : Option UInt64 :=
  if ds ≠ [] ∧ ds.all Char.isDigit ∧ (ds = ['0'] ∨ ds.head? ≠ some '0') ∧
      ofDigits ds < 2 ^ (64 : Nat) then
    some (.ofNat (ofDigits ds))
  else none

/-- The parts of a text that has the form of a generated key. -/
def parts? (s : List Char) : Option (UInt64 × Option String) := do
  let (seq, rest) := cut s
  let (word, family) := cut (← rest)
  let seq ← sequence? seq
  guard (word = tag ∧ family ≠ some [])
  return (seq, family.map String.ofList)

def parse (raw : String) : Key :=
  match parts? raw.toList with
  | some (seq, family) => generated seq family
  | none => custom raw

def chars : Key → List Char
  | generated seq none => digits seq.toNat ++ '_' :: tag
  | generated seq (some family) => digits seq.toNat ++ '_' :: tag ++ '_' :: family.toList
  | custom raw => raw.toList

def text (k : Key) : String := String.ofList k.chars

def family? : Key → Option String
  | generated _ family => family
  | custom _ => none

def Belongs (k : Key) (family : String) : Prop := k.family? = some family

instance (k : Key) (family : String) : Decidable (k.Belongs family) :=
  inferInstanceAs (Decidable (_ = _))

end Key
end RuntimeMonitor.Cache

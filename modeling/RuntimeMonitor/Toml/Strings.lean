import RuntimeMonitor.Number.Radix
import RuntimeMonitor.Toml.Space

/-!
# TOML strings and keys

Basic strings have escapes and stand between double quotes, literal strings have none and stand
between single ones. Tripled delimiters allow line ends, each read as a line feed; the first is
left out. Up to two delimiters may stand together inside, also right before the closing three.
-/

namespace RuntimeMonitor.Toml

open Number Text Text.Reader

/-- Reads a character given by its code point in `n` hexadecimal digits. -/
def readCodePoint (n : Nat) : Reader Char := do
  let code := ofRadix 16 (← times (isDigitOf 16) n)
  guard code.isValidChar
  return Char.ofNat code

def readEscape : Reader Char := do
  match ← next with
  | 'b' => return '\x08'
  | 'f' => return '\x0c'
  | 'n' => return '\n'
  | 'r' => return '\r'
  | 't' => return '\t'
  | 'u' => readCodePoint 4
  | 'U' => readCodePoint 8
  | '\\' => return '\\'
  | '"' => return '"'
  | _ => failure

/-- How a string is delimited: by its quote, and whether the backslash escapes. -/
structure Delimiter where
  quote : Char
  escapes : Bool

def Delimiter.basic : Delimiter := ⟨'"', true⟩

def Delimiter.literal : Delimiter := ⟨'\'', false⟩

def readLineString (d : Delimiter) : Reader String :=
  iterate (fun done : List Char => do
    let c ← next
    if c = d.quote then return .inr (String.ofList done.reverse)
    if d.escapes ∧ c = '\\' then return .inl ((← readEscape) :: done)
    guard (isPlain c)
    return .inl (c :: done)) []

/-- After a backslash: spaces up to the end of the line, then all blank lines and the spaces that
begin the next. -/
def joinLines : Reader Unit := do
  skipSpace
  newline
  iterate (fun _ => do
    match ← peek with
    | some ' ' | some '\t' => skipSpace; return .inl ()
    | some '\n' | some '\r' => newline; return .inl ()
    | _ => return .inr ()) ()

def readLinesString (d : Delimiter) : Reader String := do
  newline <|> return ()
  iterate (fun done : List Char => do
    match ← peek with
    | none => failure
    | some c =>
      if c = d.quote then
        let run ← takeWhile (· = d.quote)
        if run.length < 3 then return .inl (run ++ done)
        guard (run.length ≤ 5)
        return .inr (String.ofList (List.replicate (run.length - 3) d.quote ++ done).reverse)
      else if d.escapes ∧ c = '\\' then
        let _ ← next
        (do joinLines; return .inl done) <|> (do return .inl ((← readEscape) :: done))
      else if c = '\n' ∨ c = '\r' then
        newline
        return .inl ('\n' :: done)
      else
        guard (isPlain c)
        let _ ← next
        return .inl (c :: done)) []

def readString (d : Delimiter) : Reader String :=
  (do word [d.quote, d.quote, d.quote]; readLinesString d) <|>
    (do char d.quote; readLineString d)

def isBare (c : Char) : Bool := c.isAlphanum ∨ c = '-' ∨ c = '_'

def readSegment : Reader String := do
  match ← peek with
  | some '"' => char '"'; readLineString .basic
  | some '\'' => char '\''; readLineString .literal
  | _ =>
    let cs ← takeWhile isBare
    guard (cs ≠ [])
    return String.ofList cs

/-- The segments of a key are fewer than this, and values are nested in fewer containers. -/
def nestingLimit : Nat := 80

def readKey : Reader (List String) := do
  let segments ← iterate (fun done : List String => do
    skipSpace
    let segment ← readSegment
    skipSpace
    if (← peek) = some '.' then
      let _ ← next
      return .inl (segment :: done)
    return .inr (segment :: done).reverse) []
  guard (segments.length < nestingLimit)
  return segments

end RuntimeMonitor.Toml

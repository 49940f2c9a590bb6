import RuntimeMonitor.Text.Reader

/-!
# Spaces, comments and line ends in TOML

A line ends with a line feed, or with a carriage return and a line feed. A comment runs up to
the end of its line and holds no control characters but tabs.
-/

namespace RuntimeMonitor.Toml

open Text Text.Reader

def isSpace (c : Char) : Bool := c = ' ' ∨ c = '\t'

/-- Whether a character may stand in a comment, and between the delimiters of a string. -/
def isPlain (c : Char) : Bool := c = '\t' ∨ 0x20 ≤ c.toNat ∧ c ≠ '\x7f'

def skipSpace : Reader Unit := skipWhile isSpace

def newline : Reader Unit := char '\n' <|> word ['\r', '\n']

def skipComment : Reader Unit := do
  if (← peek) = some '#' then skipWhile isPlain

/-- Reads the rest of a line: spaces, a comment, and the end of the line or of the document. -/
def lineEnd : Reader Unit := do
  skipSpace
  skipComment
  if (← peek).isSome then newline

/-- Skips spaces, comments and line ends. -/
def skipLines : Reader Unit :=
  iterate (fun _ => do
    match ← peek with
    | some ' ' | some '\t' => skipSpace; return .inl ()
    | some '#' => skipComment; return .inl ()
    | some '\n' | some '\r' => newline; return .inl ()
    | _ => return .inr ()) ()

end RuntimeMonitor.Toml

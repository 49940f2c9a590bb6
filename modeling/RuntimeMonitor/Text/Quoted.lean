import RuntimeMonitor.Text.Unprintable

/-!
# Quoted text in messages

A text is shown between double quotes. Line breaks, tabs, NUL, quotes and backslashes
have short escapes; every other character that would not be seen on its own is written
by its code point, as `\u{200b}`. Single quotes stand for themselves.
-/

namespace RuntimeMonitor.Text

/-- The code point in lower-case hexadecimal, without leading zeros. -/
def codePointEscape (c : Char) : List Char :=
  '\\' :: 'u' :: '{' :: Nat.toDigits 16 c.toNat ++ ['}']

def quoteChar (c : Char) : List Char :=
  if c = '\x00' then ['\\', '0']
  else if c = '\t' then ['\\', 't']
  else if c = '\r' then ['\\', 'r']
  else if c = '\n' then ['\\', 'n']
  else if c = '"' ∨ c = '\\' then ['\\', c]
  else if isExtender c ∨ isUnprintable c then codePointEscape c
  else [c]

/-- The text between double quotes, with what cannot be seen escaped. -/
def quote (s : String) : String :=
  String.ofList ('"' :: s.toList.flatMap quoteChar ++ ['"'])

end RuntimeMonitor.Text

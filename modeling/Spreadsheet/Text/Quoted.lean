import Spreadsheet.Text.Visible

/-!
# `Text/Quoted.lean` — a name quoted in a message

A message shows a faulty name between double quotes, with whatever a reader could mistake written
out: quotes and backslashes after a backslash, the four common controls by their letters, and any
other character that cannot be seen by its code point in braces.
-/

set_option autoImplicit false

namespace Spreadsheet.Text

/-- A code point in lower-case hexadecimal, between `\u{` and `}`. -/
def codePointEscape (c : Char) : List Char :=
  ['\\', 'u', '\x7b'] ++ Nat.toDigits 16 c.toNat ++ ['\x7d']

/-- How one character stands between the quotes. -/
def escapeChar (c : Char) : List Char :=
  if c = '\x00' then ['\\', '0']
  else if c = '\t' then ['\\', 't']
  else if c = '\r' then ['\\', 'r']
  else if c = '\n' then ['\\', 'n']
  else if c = '"' then ['\\', '"']
  else if c = '\\' then ['\\', '\\']
  else if isVisible c then [c]
  else codePointEscape c

/-- A text between double quotes, written out where it could not be seen. -/
def quoted (s : String) : String :=
  String.ofList (['"'] ++ s.toList.flatMap escapeChar ++ ['"'])

end Spreadsheet.Text

import Spreadsheet.Text.Regex

/-!
# `Text/Glob.lean` — wildcard patterns

In a pattern `*` stands for any run of characters, `?` for any one character, and a tilde takes
the character after it literally. A pattern matches a whole text, ignoring case.

A pattern is translated to a regular expression, character by character, and an engine for such
expressions decides what matches. A text without a wildcard, or with escaped ones only, is no
pattern, and neither is one whose expression the engine refuses to compile.
-/

set_option autoImplicit false

namespace Spreadsheet.Text.Glob

variable (engine : Regex.Engine)

/-- The expression for a character that stands for itself. -/
def literal (c : Char) : String := engine.escape (String.singleton c)

/-- The expression for a pattern, between the marks for the start and the end of a text. A tilde at
the end of a pattern stands for itself. -/
def body : List Char → String
  | [] => ""
  | ['~'] => literal engine '~'
  | '~' :: c :: rest => literal engine c ++ body rest
  | c :: rest =>
    (if c = '*' then ".*" else if c = '?' then "." else literal engine c) ++ body rest

/-- Whether a pattern has a wildcard that is not escaped. -/
def hasWildcard : List Char → Bool
  | [] => false
  | ['~'] => false
  | '~' :: _ :: rest => hasWildcard rest
  | c :: rest => c = '*' || c = '?' || hasWildcard rest

/-- The expression that a pattern is translated to. -/
def expression (s : String) : String := Regex.opening ++ body engine s.toList ++ Regex.closing

/-- The test that a text spells as a pattern, if it has a wildcard that is not escaped and if its
expression can be compiled. -/
def ofText? (s : String) : Option (String → Bool) :=
  if hasWildcard s.toList then engine.compile? (expression engine s) else none

end Spreadsheet.Text.Glob

/-!
# `Formula/SyntaxError.lean` — what can be wrong with a formula's text

Every fault carries the place where it was found, in bytes from the start of the formula's body
(the text without the equals sign in front).
-/

set_option autoImplicit false

namespace Spreadsheet

/-- Why a text is not a formula, and where. -/
inductive SyntaxError where
  /-- A character that starts no token, or breaks one off. -/
  | unexpectedChar (c : Char) (offset : Nat)
  /-- A numeral too large for a number. -/
  | numberOutOfRange (offset : Nat)
  /-- A quote or apostrophe that is never closed. -/
  | unterminated (offset : Nat)
  /-- A token, shown as in messages, where another was called for. -/
  | unexpectedToken (found : String) (offset : Nat)
  /-- A parenthesis that is never closed. -/
  | unmatchedParen (offset : Nat)
  /-- A token behind a complete formula. -/
  | trailingInput (found : String) (offset : Nat)
  /-- The text ends where more was called for. -/
  | unexpectedEnd (offset : Nat)
  deriving DecidableEq, Repr

namespace SyntaxError

/-- Where the fault was found. -/
def offset : SyntaxError → Nat
  | .unexpectedChar _ offset => offset
  | .numberOutOfRange offset => offset
  | .unterminated offset => offset
  | .unexpectedToken _ offset => offset
  | .unmatchedParen offset => offset
  | .trailingInput _ offset => offset
  | .unexpectedEnd offset => offset

/-- The message for a fault. -/
def message : SyntaxError → String
  | .unexpectedChar c offset => s!"Unexpected character '{c}' at offset {offset}"
  | .numberOutOfRange offset => s!"Number out of range at offset {offset}"
  | .unterminated offset => s!"Unterminated string starting at offset {offset}"
  | .unexpectedToken found offset => s!"Unexpected {found} at offset {offset}"
  | .unmatchedParen offset => s!"Unmatched '(' at offset {offset}"
  | .trailingInput found offset => s!"Unexpected {found} after end of formula at offset {offset}"
  | .unexpectedEnd offset => s!"Formula ended unexpectedly at offset {offset}"

end SyntaxError

end Spreadsheet

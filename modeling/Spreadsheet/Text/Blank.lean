import Spreadsheet.Text.CharSet

/-!
# `Text/Blank.lean` — white space and trimming

White space is the property of that name in the standard for characters: the space, the controls
from tab to carriage return, the next-line control, and the typographic spaces. The zero-width
space is not among them. Every reader in this library (cell input, sheet lines, addresses,
numeric text) trims by this one set.
-/

set_option autoImplicit false

namespace Spreadsheet.Text

/-- The characters with the property White_Space. -/
def whiteSpace : CharSet := ⟨[
  0x9, 0xE, 0x20, 0x21, 0x85, 0x86, 0xA0, 0xA1, 0x1680, 0x1681, 0x2000, 0x200B, 0x2028, 0x202A,
  0x202F, 0x2030, 0x205F, 0x2060, 0x3000, 0x3001]⟩

/-- Whether a character is white space. -/
def isBlank (c : Char) : Bool := whiteSpace.contains c

/-- A text without the white space it starts with. -/
def trimStart (s : List Char) : List Char := s.dropWhile isBlank

/-- A text without the white space it ends with. -/
def trimEnd (s : List Char) : List Char := (s.reverse.dropWhile isBlank).reverse

/-- A text without white space at either end. -/
def trim (s : List Char) : List Char := trimEnd (trimStart s)

/-- A string without white space at either end. -/
def trimmed (s : String) : String := String.ofList (trim s.toList)

end Spreadsheet.Text

import Spreadsheet.Address.Column
import Spreadsheet.Address.Position
import Spreadsheet.Text.Case

/-!
# `Address/Basic.lean` — addresses as formulas write them

An address names a position, says on which axes it stays put when its formula is copied, and may
name a sheet. Written out, a sheet name that could be mistaken for something else goes between
apostrophes, with its own apostrophes doubled.
-/

set_option autoImplicit false

namespace Spreadsheet

/-- A cell reference as written in a formula. -/
structure Address where
  sheet : Option String
  row : Nat
  column : Nat
  /-- A dollar sign stands before the row number. -/
  rowFixed : Bool
  /-- A dollar sign stands before the column letters. -/
  columnFixed : Bool
  deriving DecidableEq, Repr

namespace Address

/-- Rows that an address can name. -/
def rowLimit : Nat := 1048576

/-- Columns that an address can name: as many as three letters spell. -/
def columnLimit : Nat := 18278

def position (a : Address) : Position := ⟨a.row, a.column⟩

/-- The plain address of a position on a sheet, or on the sheet at hand. -/
def ofPosition (sheet : Option String) (p : Position) : Address :=
  ⟨sheet, p.row, p.column, false, false⟩

end Address

/-! ## Writing -/

namespace SheetName

/-- Whether a character may stand in a sheet name without apostrophes. -/
def isPlainChar (c : Char) : Bool := c.isAlphanum || c == '_' || c == '.'

/-- Whether a sheet name may start with a character and go without apostrophes. -/
def isPlainStart (c : Char) : Bool := c.isAlpha || c == '_'

/-- Whether a sheet name needs no apostrophes. -/
def isPlain : List Char → Bool
  | [] => false
  | c :: rest => isPlainStart c && rest.all isPlainChar

/-- Doubles each apostrophe. -/
def doubleApostrophes (s : List Char) : List Char :=
  s.flatMap fun c => if c = '\'' then ['\'', '\''] else [c]

/-- A sheet name as it stands before the exclamation mark. -/
def write (s : List Char) : List Char :=
  if isPlain s then s else ['\''] ++ doubleApostrophes s ++ ['\'']

end SheetName

/-- A position as column letters and a row number that counts from one. -/
def Position.write (p : Position) : List Char :=
  Column.letters p.column ++ Nat.toDigits 10 (p.row + 1)

namespace Address

/-- An address as it stands in a formula. -/
def write (a : Address) : List Char :=
  (match a.sheet with
    | some name => SheetName.write name.toList ++ ['!']
    | none => []) ++
  (if a.columnFixed then ['$'] else []) ++ Column.letters a.column ++
  (if a.rowFixed then ['$'] else []) ++ Nat.toDigits 10 (a.row + 1)

/-- The text of an address. -/
def text (a : Address) : String := String.ofList a.write

end Address

end Spreadsheet

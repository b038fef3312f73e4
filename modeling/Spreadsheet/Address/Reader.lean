import Spreadsheet.Address.Basic
import Spreadsheet.Decimal.Numeral
import Spreadsheet.Text.Blank

/-!
# `Address/Reader.lean` — reading addresses

`[Sheet!][$]COLUMN[$]ROW`: a sheet name of Latin letters, digits, underscores and points, or any
name between apostrophes; one to three letters; a row number between one and the last row. White
space around the whole is ignored. Whatever does not have this form names no cell.
-/

set_option autoImplicit false

namespace Spreadsheet

namespace SheetName

/-- Reads a name up to its closing apostrophe, the opening one being behind: the name with doubled
apostrophes made single, and what follows the closing one. -/
def closeApostrophe : List Char → Option (List Char × List Char)
  | [] => none
  | '\'' :: '\'' :: rest => (closeApostrophe rest).map fun (name, after) => ('\'' :: name, after)
  | '\'' :: rest => some ([], rest)
  | c :: rest => (closeApostrophe rest).map fun (name, after) => (c :: name, after)

/-- Splits a text into a sheet name and what stands behind its exclamation mark. The outer option
is empty if the text starts like a sheet name between apostrophes and does not go on like one; the
inner one if it names no sheet. -/
def split? : List Char → Option (Option (List Char) × List Char)
  | '\'' :: rest =>
    match closeApostrophe rest with
    | some (c :: name, '!' :: after) => some (some (c :: name), after)
    | _ => none
  | s =>
    match s.span isPlainChar with
    | (c :: name, '!' :: after) =>
      if isPlainStart c then some (some (c :: name), after) else none
    | _ => some (none, s)

end SheetName

namespace Address

/-- Splits off a dollar sign. -/
def dollar : List Char → Bool × List Char
  | '$' :: rest => (true, rest)
  | s => (false, s)

/-- Reads the column and row of an address and its dollar signs. -/
def local? (sheet : Option String) (s : List Char) : Option Address :=
  let (columnFixed, s) := dollar s
  let (letters, s) := s.span Column.isLetter
  let (rowFixed, digits) := dollar s
  let rowNumber := Decimal.ofDigits digits
  if 1 ≤ letters.length ∧ letters.length ≤ 3 ∧ digits ≠ [] ∧ digits.all Char.isDigit
      ∧ 1 ≤ rowNumber ∧ rowNumber ≤ rowLimit then
    some ⟨sheet, rowNumber - 1, Column.value letters - 1, rowFixed, columnFixed⟩
  else none

/-- The address that a text spells. -/
def ofChars? (s : List Char) : Option Address :=
  match SheetName.split? (Text.trim s) with
  | some (sheet, rest) => local? (sheet.map String.ofList) rest
  | none => none

/-- The address that a string spells. -/
def ofText? (s : String) : Option Address := ofChars? s.toList

end Address

/-- The position that a text without a sheet name spells. -/
def Position.ofText? (s : String) : Option Position :=
  match Address.ofText? s with
  | some a => if a.sheet.isNone then some a.position else none
  | none => none

end Spreadsheet
